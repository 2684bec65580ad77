import SyncLayer.Config.Settings
import SyncLayer.RefCount.Heap
import SyncLayer.Registry
import SyncLayer.Session.Step

/-!
# The world of a session

All that the steps of a session act on: the settings of the process and its totals, the
threads with their shadows, the named items, the locks and the objects in their places, and the
steps that are blocked.

A step on the world may end in a fault, or be refused because it would wait for ever, release
what is not held, ask an item for what it does not do, or name what is not there.
-/

namespace SyncLayer.Session

/-- Why a step is refused. -/
inductive Refusal where
  | precondition
  | unknownItem
deriving DecidableEq, Repr

/-- The text of a refusal. -/
def Refusal.message : Refusal → String
  | precondition => "precondition"
  | unknownItem => "unknown item"

/-- Why a step ends before its end. -/
inductive Stop where
  | fault (f : Fault)
  | refused (r : Refusal)
deriving DecidableEq, Repr

/-- A thread: its shadow, the guards it keeps, the newest first, and the cycles that it records
at its exit. -/
structure Thread where
  shadow : Tally := .zero
  guards : List Guard := []
  atExit : List UInt64 := []
deriving Inhabited

/-- A blocked step of a thread; or the end of one that was not blocked after all. -/
structure Blocked (ρ : Type) where
  thread : ThreadId
  step : Step
  done : Option ρ

/-- The world of a session, in which `ρ` is what steps return. -/
structure World (ρ : Type) where
  settings : Settings := {}
  totals : Tally := .zero
  threads : List (ThreadId × Thread) := []
  items : List (String × Item) := []
  locks : Array TimedLock := #[]
  registry : List Nat := []
  heap : Heap := {}
  blocked : List (Blocked ρ) := []
  timed : Bool := false

/-- A step on the world. -/
abbrev Deed (ρ α : Type) := ExceptT Stop (StateM (World ρ)) α

variable {ρ α : Type}

/-- The list with the value of a key put in the place of the old one, or at the end. -/
def assign {κ : Type} [BEq κ] (key : κ) (a : α) : List (κ × α) → List (κ × α)
  | [] => [(key, a)]
  | (k, b) :: rest => if k == key then (k, a) :: rest else (k, b) :: assign key a rest

namespace World

/-- A thread of the world; one that has not started is fresh. -/
def thread (w : World ρ) (t : ThreadId) : Thread :=
  (w.threads.lookup t).getD {}

/-- The world with a thread replaced. -/
def setThread (t : ThreadId) (thread : Thread) (w : World ρ) : World ρ :=
  { w with threads := assign t thread w.threads }

/-- The item of a name. -/
def item? (w : World ρ) (id : String) : Option Item :=
  w.items.lookup id

/-- The world with an item replaced. -/
def setItem (id : String) (item : Item) (w : World ρ) : World ρ :=
  { w with items := assign id item w.items }

/-- The world with a lock changed. -/
def changeLock (place : Nat) (f : TimedLock → TimedLock) (w : World ρ) : World ρ :=
  { w with locks := w.locks.modify place f }

/-- A thread's shadow with the totals of the process. -/
def merging (t : ThreadId) (w : World ρ) : Merging :=
  { shadow := (w.thread t).shadow, totals := w.totals }

/-- The world with a thread's shadow and the totals replaced. -/
def setMerging (t : ThreadId) (m : Merging) (w : World ρ) : World ρ :=
  { w.setThread t { w.thread t with shadow := m.shadow } with totals := m.totals }

end World

/-! ### Deeds -/

/-- Refuse a step. -/
def refuse (r : Refusal) : Deed ρ α :=
  throw (.refused r)

/-- A deed that is an attempt on a part of the world. -/
def attempt {σ : Type} (part : World ρ → σ) (put : World ρ → σ → World ρ) (a : Attempt σ α) :
  Deed ρ α
  :=
  ExceptT.mk (fun w =>
    let (r, s) := a.on (part w)
    (r.mapError .fault, put w s))

/-- A deed that is an attempt on a lock. -/
def attemptLock (place : Nat) (a : Attempt AnyLock α) : Deed ρ α := do
  match (← get).locks[place]? with
  | none => refuse .unknownItem
  | some l =>
    attempt (fun _ => l.lock) (fun w lock => w.changeLock place (fun l => { l with lock })) a

/-- A deed that is an attempt on the heap. -/
def attemptHeap (a : Attempt Heap α) : Deed ρ α :=
  attempt World.heap (fun w heap => { w with heap }) a

/-- A deed that is an attempt on a thread's shadow and the totals. -/
def attemptMerging (t : ThreadId) (a : Attempt Merging α) : Deed ρ α :=
  attempt (World.merging t) (fun w m => w.setMerging t m) a

/-- Put an item in the place of the one that has its name. A handle that is replaced gives up
its reference. -/
def putItem (id : String) (item : Item) : Deed ρ Unit := do
  let old := (← get).item? id
  modify (World.setItem id item)
  match old with
  | some (.handle object) =>
    let _ ← attemptHeap (Heap.release object)
  | _ => pure ()

/-- Merge a thread's shadow into the totals. -/
def flush (t : ThreadId) : Deed ρ Unit :=
  attemptMerging t (modify Merging.flush)

end SyncLayer.Session
