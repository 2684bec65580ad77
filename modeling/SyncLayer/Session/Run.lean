import SyncLayer.Session.Counts

/-!
# Sessions

A session runs steps one after another. A step that blocks waits until a step of another
thread lets it go on.
-/

namespace SyncLayer.Session

/-- A step on an item. -/
def itemStep (t : ThreadId) (slept : Bool) (id : String) (step : ItemStep) :
  Deed Outcome Outcome
  := do
  match (← get).item? id with
  | none => refuse .unknownItem
  | some (.lock place) => lockStep t slept place step
  | some (.native word) => nativeStep id word step
  | some (.mutex word value) => mutexStep t id word value step
  | some (.stats s) => statsStep id s step
  | some (.shadow tally) => shadowStep id tally step
  | some (.totals tally) => totalsStep id tally step
  | some (.count c) => countStep t id c step
  | some (.handle object) => handleStep id object step
  | some (.raw object) => rawStep object step
  | some .gone => refuse .precondition

/-- Make an item. -/
def make (id : String) (item : Item) : Deed Outcome Outcome := do
  putItem id item
  return .ok

/-- Make a lock. -/
def makeLock (id : String) (spec : LockSpec) : Deed Outcome Outcome := do
  let lock :=
    if spec.isRecursive then
      AnyLock.recursive (.fresh (spec.description.getD "anonymous recursive lock") spec.stats)
    else AnyLock.plain (.fresh (spec.description.getD "anonymous lock") spec.stats)
  let w ← get
  set { w with locks := w.locks.push { lock, delays := spec.delays } }
  make id (.lock w.locks.size)

/-- A step of a thread, which slept before if the step was blocked. -/
def step (t : ThreadId) (slept : Bool) : Step → Deed Outcome Outcome
  | .apply c => apply c
  | .setThreshold n => changeSettings (fun s => { s with threshold := n })
  | .setRate n => changeSettings (fun s => { s with rate := n })
  | .setFlush n => changeSettings (fun s => { s with flushInterval := n })
  | .settings => changeSettings id
  | .seconds n => do return .real ((← get).settings.seconds n)
  | .setUp env files quietly => setUpStep env files quietly
  | .shutDown => do
    flush t
    return .printed (.ok ()) ""
  | .identity n => return .identity (.ofThread t) { raw := n }
  | .recordLocal n times => do
    let interval := (← get).settings.flushInterval
    attemptMerging t (Attempt.times () (Merging.record interval n) times)
    return .ok
  | .flush => do
    flush t
    return .ok
  | .addTotals u => do
    modify (fun w => { w with totals := w.totals.add u })
    return .ok
  | .takeTotals => do
    let w ← get
    set { w with totals := Tally.zero }
    return .tally (w.tallyView w.totals)
  | .printSummary stdout => do return printed (← printSummary t stdout)
  | .recordAtExit n => do
    modify (fun w =>
      let thread := w.thread t
      w.setThread t { thread with atExit := thread.atExit ++ [n] })
    return .ok
  | .exit => return .ok
  | .registered => do return .texts ((entries (← get)).map LockEntry.description)
  | .snapshots => do return .snapshots (entries (← get))
  | .writeReports sink => do
    let (r, sink) ← writeReports sink
    return .written r sink.text
  | .printReports stdout => do return printed (← printReports stdout)
  | .printAll stdout => do return printed (← printAll t stdout)
  | .makeLock id spec => makeLock id spec
  | .makeNative id => make id (.native .free)
  | .makeMutex id value => make id (.mutex .free value)
  | .makeStats id s => make id (.stats s)
  | .makeShadow id u => make id (.shadow u)
  | .makeTotals id u => make id (.totals u)
  | .makeCount id n => make id (.count { references := { count := n } })
  | .makeObject id n child => makeObject id n child
  | .countNothing => countNothing
  | .onItem id s => itemStep t slept id s

/-- Do a step; what it returns and the world behind it. -/
def perform (t : ThreadId) (slept : Bool) (s : Step) (w : World Outcome) :
  Outcome × World Outcome
  :=
  match StateT.run (ExceptT.run (step t slept s)) w with
  | (.ok outcome, w) => (outcome, w)
  | (.error stop, w) => (.stopped stop, w)

/-! ### The end of a thread -/

/-- End a thread: its guards are dropped, its shadow is merged into the totals, and what it
records while it ends reaches the totals too. -/
def exit (t : ThreadId) (w : World Outcome) : World Outcome :=
  let thread := w.thread t
  let w :=
    thread.guards.foldl (fun w g => (StateT.run (ExceptT.run (dropGuard g)) w).2) w
  let m := w.merging t
  let totals :=
    thread.atExit.foldl (fun (u : Tally) n => u.add { operations := 1, cycles := n }) m.flush.totals
  { w with totals, threads := w.threads.filter (fun e => e.1 != t) }

/-! ### Blocked steps -/

/-- Whether a step on a lock is done only once the lock can be had. -/
def ItemStep.acquires : ItemStep → Bool
  | .acquire _ | .acquireRelease _ | .guard _ => true
  | .acquireTimes _ n => n != 0
  | _ => false

/-- Whether a step would have to wait now. -/
def waits (t : ThreadId) (w : World Outcome) : Step → Bool
  | .onItem id s =>
    s.acquires &&
      match w.item? id with
      | some (.lock place) => w.locks[place]?.any (fun l => l.lock.blocks t)
      | some (.native word) => !word.isFree
      | some (.mutex word _) => !word.isFree
      | _ => false
  | _ => false

/-- Leave a step waiting on its thread. One that does not have to wait is done at once. -/
def leave (t : ThreadId) (s : Step) (w : World Outcome) : World Outcome :=
  if waits t w s then { w with blocked := w.blocked ++ [{ thread := t, step := s, done := none }] }
  else
    let (outcome, w) := perform t false s w
    { w with blocked := w.blocked ++ [{ thread := t, step := s, done := some outcome }] }

/-- Let the blocked steps of some threads go on, in the order of the threads. -/
def wake : List ThreadId → World Outcome → List Outcome × World Outcome
  | [], w => ([], w)
  | t :: rest, w =>
    match w.blocked.find? (fun b => b.thread == t) with
    | none => wake rest w
    | some b =>
      let w := { w with blocked := w.blocked.eraseP (fun b => b.thread == t) }
      let (outcome, w) :=
        match b.done with
        | some outcome => (outcome, w)
        | none => perform t true b.step w
      let (outcomes, w) := wake rest w
      (outcome :: outcomes, w)

/-! ### Answers -/

/-- Do a step and answer it. -/
def answer (f : Frame) (w : World Outcome) : Answer × World Outcome :=
  let w := { w with timed := w.timed || f.timed }
  match f.step, f.blocking with
  | .exit, _ =>
    let w := exit f.thread w
    let (woken, w) := wake f.wakes w
    (.exited (w.tallyView w.totals) woken, w)
  | s, true => (.blocked, leave f.thread s w)
  | s, false =>
    let (outcome, w) := perform f.thread false s w
    let (woken, w) := wake f.wakes w
    let viewer := if f.wakes.isEmpty then some f.thread else none
    (.done outcome woken (if f.quiet then none else some (w.view viewer f.subject)), w)

/-- Run steps from a world; their answers. -/
def runFrom (w : World Outcome) : List Frame → List Answer
  | [] => []
  | f :: rest =>
    let (a, w) := answer f w
    a :: runFrom w rest

/-- Run a session; the answers to its steps. -/
def run (frames : List Frame) : List Answer :=
  runFrom {} frames

end SyncLayer.Session
