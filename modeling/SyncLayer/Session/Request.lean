import SyncLayer.Session.Locks

/-!
# Requests to a lock

The operations on a plain or a recursive lock, each as a whole. A guard acquires its lock and
releases it in the same ways. A request is served where the lock lets the thread go on: an
acquisition that has to wait is not, nor is a release of what another thread owns or of a plain
lock that is free, nor does a lock that is held become a fresh one.
-/

namespace SyncLayer

/-- What may be asked of a lock. An acquisition has been measured to take a delay, and the thread
slept before it got the lock or did not. -/
inductive LockRequest where
  | acquire (me : ThreadId) (s : Settings) (site : Site) (delay : UInt64) (slept : Bool)
  | tryAcquire (me : ThreadId) (s : Settings) (site : Site)
  | release (me : ThreadId)
  | resetStats
  | renew (description : String)
deriving DecidableEq, Repr

/-- Acquire a lock, at once or when the thread is awake again. -/
def Lock.acquireAfter (slept : Bool) (s : Settings) (delay : UInt64) (site : Site) : Lock → Lock :=
  if slept then acquireWoken s delay site else acquire s delay site

namespace AnyLock

/-- A lock of either kind that nobody has acquired. -/
def fresh (isRecursive : Bool) (description : String) (stats : LockStats) : AnyLock :=
  if isRecursive then recursive (.fresh description stats) else plain (.fresh description stats)

/-- Make a lock that nobody holds a fresh one with another description. -/
def renew (description : String) : AnyLock → AnyLock
  | plain l => plain (Lock.reinitialize description l)
  | recursive l => recursive (RecursiveLock.reinitialize description l)

/-- Make a lock the one that an acquisition leads to. A depth is counted in a word, and whoever
has acquired the lock inside is to find no depth there. -/
def settle (me : ThreadId) (next : AnyLock) : Attempt AnyLock Bool := do
  match (← get) with
  | plain _ => set next
  | recursive l =>
    if l.isOwnedBy me then
      if l.depth + 1 < UInt64.size then set next else throw .additionOverflow
    else if l.depth = 0 then set next
    else
      set (recursive { l with lock := next.base })
      throw (.depthCorrupted l.depth)
  return true

/-- Serve a request: what it returns, and the lock behind it. -/
def serve (l : AnyLock) : LockRequest → Option (Except Fault Bool × AnyLock)
  | .acquire me s site delay slept =>
    if l.blocks me then none
    else some ((settle me (l.acquireBy (Lock.acquireAfter slept s delay site) me)).on l)
  | .tryAcquire me s site =>
    match l.tryAcquire s site me with
    | (true, next) => some ((settle me next).on l)
    | (false, l) => some (.ok false, l)
  | .release me =>
    if Session.mayRelease me l then
      let (r, l) := release.on l
      some (r.map (fun _ => true), l)
    else none
  | .resetStats => some (.ok true, l.mapBase Lock.resetStats)
  | .renew description =>
    if l.base.word.isFree then some (.ok true, l.renew description) else none

/-- Serve requests one after the other: what they return, and the lock behind them. A fault ends
its request, and the next one is served. -/
def serveEach : List LockRequest → AnyLock → Option (List (Except Fault Bool) × AnyLock)
  | [], l => some ([], l)
  | q :: rest, l => do
    let (r, l) ← l.serve q
    let (rs, l) ← serveEach rest l
    return (r :: rs, l)

end AnyLock

end SyncLayer
