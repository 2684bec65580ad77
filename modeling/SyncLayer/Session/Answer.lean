import SyncLayer.Error.Config
import SyncLayer.Identity
import SyncLayer.Session.World

/-!
# Answers of a session

What a step returns, and the state that its answer shows.
-/

namespace SyncLayer.Session

/-- The settings as they are read back. A rate that was measured is not shown. -/
structure SettingsView where
  threshold : UInt64
  rate : Option UInt64
  flushInterval : UInt64
  format : StatsFormat

/-- The settings as they are read back. -/
def SettingsView.of (s : Settings) : SettingsView :=
  { threshold := s.threshold
    rate := some s.cyclesPerSecond
    flushInterval := s.flushInterval
    format := s.format }

/-- A tally as it is shown; cycles that were measured are not. -/
structure TallyView where
  operations : UInt64
  cycles : Option UInt64

/-- A tally as it is shown, in a session that may have measured cycles. -/
def TallyView.of (timed : Bool) (t : Tally) : TallyView :=
  { operations := t.operations, cycles := if timed then none else some t.cycles }

/-- What a step returns. -/
inductive Outcome where
  | ok
  | truth (b : Bool)
  | number (n : Int)
  | numbers (ns : List Int)
  | real (x : Binary64)
  | text (s : String)
  | texts (ss : List String)
  | settings (s : SettingsView)
  | setUp (result : Option (Except LayerError Config)) (s : SettingsView)
  | printed (result : Except Fault Unit) (stdout : String)
  | written (result : Except Fault (Except WriteError Unit)) (text : String)
  | tally (t : TallyView)
  | snapshots (entries : List LockEntry)
  | identity (own given : Identity)
  | held
  | stopped (s : Stop)

/-- The state of a recursive lock's owner, as the thread sees it that asks. -/
structure OwnerView where
  depth : Nat
  owned : Bool

/-- The state that an answer shows. -/
inductive View where
  | lock (l : Lock) (owner : Option OwnerView) (isMeasured : Bool)
  | nothing
  | mutex (isLocked : Bool)
  | count (c : HookedCount)
  | stats (counters : Counters) (threshold : Option UInt64)
  | shadow (t : Tally)
  | totals (t : TallyView)
  | objects (counts : List (String × Int64)) (freed : List String)
  | thread (own totals : TallyView)

/-- The answer to a step. -/
inductive Answer where
  | blocked
  | exited (totals : TallyView) (woken : List Outcome)
  | done (outcome : Outcome) (woken : List Outcome) (view : Option View)

namespace World

variable {ρ : Type}

/-- A tally as the world shows it. -/
def tallyView (w : World ρ) (t : Tally) : TallyView :=
  .of w.timed t

/-- The state of a thread and of the process. -/
def threadView (w : World ρ) (t : Option ThreadId) : View :=
  .thread (w.tallyView ((t.map (fun t => (w.thread t).shadow)).getD .zero)) (w.tallyView w.totals)

/-- The state of a lock, as a thread sees it or somebody outside. -/
def lockView (t : Option ThreadId) (l : TimedLock) : View :=
  let owner :=
    match l.lock with
    | .plain _ => none
    | .recursive r => some { depth := r.depth, owned := t.any r.isOwnedBy }
  .lock l.lock.base owner l.isMeasured

/-- The state of an item, or of the thread where the item has none of its own. -/
def itemView (w : World ρ) (t : Option ThreadId) (id : Option String) : View :=
  match id.bind w.item? with
  | some (.lock place) => (w.locks[place]?.map (lockView t)).getD .nothing
  | some (.native _) => .nothing
  | some (.mutex word _) => .mutex (!word.isFree)
  | some (.stats s) => .stats s.counters (s.threshold? w.settings)
  | some (.shadow t) => .shadow t
  | some (.totals t) => .totals (w.tallyView t)
  | some (.count c) => .count c
  | _ => w.threadView t

/-- The state of all objects. Of several objects with one name the latest is shown. -/
def objectsView (w : World ρ) : View :=
  let counts :=
    w.heap.objects.foldl (fun counts o => assign o.name o.references.count counts) []
  .objects counts w.heap.freed

/-- The state of what an answer is about. -/
def view (w : World ρ) (t : Option ThreadId) : Subject → View
  | .item id => w.itemView t id
  | .objects => w.objectsView

end World

end SyncLayer.Session
