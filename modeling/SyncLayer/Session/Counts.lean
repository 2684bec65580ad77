import SyncLayer.RefCount.Foreign
import SyncLayer.Session.Locks

/-!
# Steps on statistics, counts and objects
-/

namespace SyncLayer.Session

/-- A number that may be missing for a fault. -/
def orFault {α : Type} : Except Fault α → Deed Outcome α
  | .ok a => pure a
  | .error f => throw (.fault f)

/-- A step on statistics that no lock carries. -/
def statsStep (id : String) (s : LockStats) (step : ItemStep) : Deed Outcome Outcome := do
  let w ← get
  let c := s.counters
  match step with
  | .record n times => do
    set (w.setItem id (.stats (s.recordTimes w.settings n times)))
    return .ok
  | .reset => do
    set (w.setItem id (.stats s.reset))
    return .ok
  | .total => return .number (← orFault c.total).toNat
  | .average => return .real c.averageDelay
  | .report description => return .text (← orFault (c.report w.settings description))
  | .json description =>
    return .text (← orFault (c.jsonReport w.settings description)).compact
  | .describe block => return .text (if block then s.shown.block 0 else s.shown.line)
  | .write description sink =>
    let (r, sink) := (c.write w.settings description).on sink
    return .written r sink.text
  | _ => refuse .precondition

/-- A deed that is an attempt on a named tally. -/
def attemptShadow (id : String) (t : Tally) (a : Attempt Tally Unit) : Deed Outcome Unit :=
  attempt (fun _ => t) (fun w t => w.setItem id (.shadow t)) a

/-- A step on a shadow that is no thread's. -/
def shadowStep (id : String) (t : Tally) (step : ItemStep) : Deed Outcome Outcome := do
  match step with
  | .record n times => do
    attemptShadow id t (Attempt.times () (Tally.record n) times)
    return .ok
  | .zero => do
    modify (World.setItem id (.shadow .zero))
    return .ok
  | .merge target => do
    let w ← get
    match w.item? target with
    | some (.totals totals) => do
      let m := Merging.flush { shadow := t, totals }
      set ((w.setItem target (.totals m.totals)).setItem id (.shadow m.shadow))
      return .tally (w.tallyView m.totals)
    | _ => do
      let m := Merging.flush { shadow := t, totals := w.totals }
      set { w.setItem id (.shadow m.shadow) with totals := m.totals }
      return .tally (w.tallyView m.totals)
  | .describe block => return .text (if block then t.shown.block 0 else t.shown.line)
  | _ => refuse .precondition

/-- A step on totals that are not those of the process. -/
def totalsStep (id : String) (t : Tally) (step : ItemStep) : Deed Outcome Outcome := do
  let w ← get
  match step with
  | .add u _ => do
    set (w.setItem id (.totals (t.add u)))
    return .ok
  | .take => do
    set (w.setItem id (.totals .zero))
    return .tally (w.tallyView t)
  | .zero => do
    set (w.setItem id (.totals .zero))
    return .ok
  | .report _ => return .text (t.report w.settings)
  | .json _ => return .text (t.jsonReport w.settings).compact
  | .average => return .real t.averageCycles
  | .seconds => return .real (t.seconds w.settings)
  | .describe block => return .text (if block then t.summaryShown.block 0 else t.summaryShown.line)
  | _ => refuse .precondition

/-! ### Counts -/

/-- Cycles that stand for those an operation on a count takes. -/
def nominalCycles : UInt64 := 1

/-- A deed that is an attempt on a named count. -/
def attemptCount (id : String) (a : Attempt HookedCount Int64) : Deed Outcome Int64 := do
  match (← get).item? id with
  | some (.count c) => attempt (fun _ => c) (fun w c => w.setItem id (.count c)) a
  | _ => refuse .unknownItem

/-- An operation on a count that the thread's shadow counts if it is timed. -/
def timedOperation (t : ThreadId) (timed : Bool) (a : Deed Outcome Int64) :
  Deed Outcome Int64
  := do
  let n ← a
  if timed then attemptMerging t (Merging.record (← get).settings.flushInterval nominalCycles)
  return n

/-- A deed done as many times, also behind a fault; what the last one returns. -/
def lastOf (a : Deed Outcome Int64) : Nat → Deed Outcome Int64
  | 0 => pure 0
  | 1 => a
  | n + 2 => do
    tryCatch (do let _ ← a) (fun _ => pure ())
    lastOf a (n + 1)

/-- A step on a count. -/
def countStep (t : ThreadId) (id : String) (c : HookedCount) (step : ItemStep) :
  Deed Outcome Outcome
  := do
  match step with
  | .increment timed times =>
    let a := attemptCount id (HookedCount.onCount RefCount.increment)
    return .number (← lastOf (timedOperation t timed a) times).toInt
  | .decrement timed hook times =>
    let a := attemptCount id (HookedCount.decrement hook)
    return .number (← lastOf (timedOperation t timed a) times).toInt
  | .get true => return .text c.references.shown.line
  | _ => return .number c.references.count.toInt

/-- Count references to nothing, as foreign code does by a pointer that is null. -/
def countNothing : Deed Outcome Outcome := do
  let retained ← attemptHeap (Heap.retainAt none)
  let released ← attemptHeap (Heap.releaseAt 0 (some Heap.deallocate) none)
  let count := (← get).heap.countAt none
  return .numbers [retained.toInt, released.toInt, count.toInt]

/-! ### Objects -/

/-- Make an object and a handle of it. The object takes over the reference of a handle that is
named as its child. -/
def makeObject (id : String) (n : Int64) (child : Option String) : Deed Outcome Outcome := do
  let child ←
    match child with
    | none => pure none
    | some name =>
      match (← get).item? name with
      | some (.handle object) => do
        modify (World.setItem name .gone)
        pure (some object)
      | none => refuse .unknownItem
      | some _ => refuse .precondition
  let w ← get
  let (object, heap) := w.heap.add { name := id, references := { count := n }, child }
  set { w with heap }
  putItem id (.handle object)
  return .ok

/-- A step on a handle. -/
def handleStep (id : String) (object : Nat) (step : ItemStep) : Deed Outcome Outcome := do
  match step with
  | .clone target => do
    let _ ← attemptHeap (Heap.retain object)
    putItem target (.handle object)
    return .ok
  | .drop => do
    modify (World.setItem id .gone)
    let _ ← attemptHeap (Heap.release object)
    return .ok
  | .get _ => return .number ((← get).heap.count object).toInt
  | .name => return .text (((← get).heap.object? object).map CountedObject.name |>.getD "")
  | .retain => return .number (← attemptHeap (Heap.retain object)).toInt
  | .giveUp => return .number (← attemptHeap (Heap.release object)).toInt
  | .intoRaw target => do
    modify (World.setItem id .gone)
    putItem target (.raw object)
    return .ok
  | _ => refuse .precondition

/-- A step on a reference that is no handle: it can become one or be given up, and stays what it
is, since nothing tells whether what it refers to was given up. -/
def rawStep (object : Nat) (step : ItemStep) : Deed Outcome Outcome := do
  match step with
  | .fromRaw target => do
    putItem target (.handle object)
    return .ok
  | .giveUp => return .number (← attemptHeap (Heap.release object)).toInt
  | _ => refuse .precondition

end SyncLayer.Session
