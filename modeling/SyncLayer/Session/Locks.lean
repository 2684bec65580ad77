import SyncLayer.Session.Process

/-!
# Steps on locks

Locks with statistics, bare locks, and locks with a value inside.
-/

namespace SyncLayer.Session

/-- Acquire a lock, unless the thread would wait for ever. -/
def acquire (t : ThreadId) (place : Nat) (site : Site) (slept : Bool) : Deed Outcome Unit := do
  let w ← get
  match w.locks[place]? with
  | none => refuse .unknownItem
  | some l =>
    if l.lock.blocks t then refuse .precondition
    else set (w.changeLock place (TimedLock.acquire w.settings site slept t))

/-- Acquire a lock as many times. Only the first time may have to wait. -/
def acquireTimes (t : ThreadId) (place : Nat) (site : Site) (slept : Bool) :
  Nat → Deed Outcome Unit
  | 0 => pure ()
  | n + 1 => do
    acquire t place site slept
    acquireTimes t place site false n

/-- Acquire a lock if it does not block. -/
def tryAcquire (t : ThreadId) (place : Nat) (site : Site) : Deed Outcome Bool := do
  let w ← get
  match w.locks[place]? with
  | none => refuse .unknownItem
  | some l =>
    let (won, lock) := l.lock.tryAcquire w.settings site t
    set (w.changeLock place (fun l => { l with lock }))
    return won

/-- Whether a thread may release a lock: a plain one that is held, and a recursive one that no
other thread owns. -/
def mayRelease (t : ThreadId) : AnyLock → Bool
  | .plain l => !l.word.isFree
  | .recursive l => l.depth == 0 || l.isOwnedBy t

/-- Release a lock. -/
def release (t : ThreadId) (place : Nat) : Deed Outcome Unit := do
  match (← get).locks[place]? with
  | none => refuse .unknownItem
  | some l =>
    if mayRelease t l.lock then attemptLock place AnyLock.release else refuse .precondition

/-- Keep a guard. -/
def keepGuard (t : ThreadId) (g : Guard) : Deed Outcome Unit :=
  modify (fun w =>
    let thread := w.thread t
    w.setThread t { thread with guards := g :: thread.guards })

/-- Give back the newest of a thread's guards that equals the given one. -/
def takeGuard (t : ThreadId) (g : Guard) : Deed Outcome Unit := do
  let w ← get
  let thread := w.thread t
  if g ∈ thread.guards then set (w.setThread t { thread with guards := thread.guards.erase g })
  else refuse .precondition

/-- Give back what a guard holds. -/
def dropGuard : Guard → Deed Outcome Unit
  | .lock place => attemptLock place AnyLock.release
  | .mutex id => do
    match (← get).item? id with
    | some (.mutex word value) => modify (World.setItem id (.mutex word.giveBack.2 value))
    | _ => pure ()

/-- Print a lock's report and reset its counters if it was written. A lock that counts nothing
prints nothing. -/
def printStats (place : Nat) (l : TimedLock) (stdout : Sink) : Deed Outcome Outcome := do
  if !l.lock.base.stats.isOn then return .printed (.ok ()) stdout.text
  let w ← get
  let (r, stdout) :=
    (l.lock.base.stats.counters.write w.settings l.lock.base.description).on stdout
  match r with
  | .ok (.ok _) => set (w.changeLock place (TimedLock.mapBase Lock.resetStats))
  | _ => pure ()
  return .printed (r.map (fun _ => ())) stdout.text

/-- Register a lock; the descriptions of the registered locks. -/
def register (place : Nat) : Deed Outcome Outcome := do
  modify (fun w => { w with registry := registerLock place w.registry })
  return .texts ((entries (← get)).map LockEntry.description)

/-- A step on a lock. -/
def lockStep (t : ThreadId) (slept : Bool) (place : Nat) (step : ItemStep) :
  Deed Outcome Outcome
  := do
  let w ← get
  match w.locks[place]? with
  | none => refuse .unknownItem
  | some l =>
    match step with
    | .acquire site => do
      acquire t place site slept
      return .ok
    | .acquireRelease site => do
      acquire t place site slept
      attemptLock place AnyLock.release
      return .ok
    | .acquireTimes site n => do
      acquireTimes t place site slept n
      return .ok
    | .guard site => do
      acquire t place site slept
      keepGuard t (.lock place)
      return .ok
    | .tryAcquire site => return .truth (← tryAcquire t place site)
    | .release => do
      release t place
      return .ok
    | .dropGuard => do
      takeGuard t (.lock place)
      dropGuard (.lock place)
      return .ok
    | .register => register place
    | .resetStats => do
      set (w.changeLock place (TimedLock.mapBase Lock.resetStats))
      return .ok
    | .total =>
      match l.lock.base.stats.counters.total with
      | .ok n => return .number n.toNat
      | .error f => throw (.fault f)
    | .writeStats sink =>
      let (r, sink) :=
        (l.lock.base.stats.counters.write w.settings l.lock.base.description).on sink
      return .written r sink.text
    | .printStats stdout => printStats place l stdout
    | .describe true => return .text ((l.lock.shown Site.location t).block 0)
    | .describe false => return .text (l.lock.shown Site.word t).line
    | _ => refuse .precondition

/-- A step on a bare lock. -/
def nativeStep (id : String) (word : LockWord) (step : ItemStep) : Deed Outcome Outcome := do
  match step with
  | .tryAcquire _ =>
    let (won, word) := word.tryTake
    modify (World.setItem id (.native word))
    return .truth won
  | .acquire _ =>
    if !word.isFree then refuse .precondition
    else do
      modify (World.setItem id (.native word.tryTake.2))
      return .ok
  | .acquireRelease _ => if !word.isFree then refuse .precondition else return .ok
  | .release =>
    if word.isFree then refuse .precondition
    else do
      modify (World.setItem id (.native word.giveBack.2))
      return .ok
  | _ => refuse .precondition

/-- A step on a lock with a value inside. -/
def mutexStep (t : ThreadId) (id : String) (word : LockWord) (value : UInt64)
    (step : ItemStep) :
  Deed Outcome Outcome
  := do
  match step with
  | .add _ n =>
    if word.isFree then do
      modify (World.setItem id (.mutex word (value + n)))
      return .number (value + n).toNat
    else return .held
  | .guard _ =>
    if word.isFree then do
      modify (World.setItem id (.mutex word.tryTake.2 value))
      keepGuard t (.mutex id)
      return .number value.toNat
    else refuse .precondition
  | .dropGuard => do
    takeGuard t (.mutex id)
    dropGuard (.mutex id)
    return .ok
  | _ => refuse .precondition

end SyncLayer.Session
