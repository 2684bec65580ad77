import SyncLayer.Lock.Recursive

/-!
# Locks of either kind

A session and a registry hold plain and recursive locks side by side.
-/

namespace SyncLayer

/-- A plain or a recursive lock. -/
inductive AnyLock where
  | plain (l : Lock)
  | recursive (l : RecursiveLock)
deriving DecidableEq, Repr

namespace AnyLock

/-- The lock itself, or the one inside a recursive lock. -/
def base : AnyLock → Lock
  | plain l => l
  | recursive l => l.lock

/-- Change the lock itself, or the one inside a recursive lock. -/
def mapBase (f : Lock → Lock) : AnyLock → AnyLock
  | plain l => plain (f l)
  | recursive l => recursive { l with lock := f l.lock }

/-- The number of acquisitions that the owner of a recursive lock has not released; a plain lock
counts none. -/
def depth : AnyLock → Nat
  | plain _ => 0
  | recursive l => l.depth

/-- Whether an acquisition by a thread has to wait. -/
def blocks (me : ThreadId) : AnyLock → Bool
  | plain l => !l.word.isFree
  | recursive l => !l.lock.word.isFree && !l.isOwnedBy me

/-- Whether an acquisition by a thread is one that its statistics see. -/
def isOutermost (me : ThreadId) : AnyLock → Bool
  | plain _ => true
  | recursive l => !l.isOwnedBy me

/-- Acquire a lock that does not block, by the given way. -/
def acquireBy (inner : Lock → Lock) (me : ThreadId) : AnyLock → AnyLock
  | plain l => plain (inner l)
  | recursive l => recursive (l.acquireBy inner me)

/-- Acquire a lock if it does not block. -/
def tryAcquire (s : Settings) (site : Site) (me : ThreadId) : AnyLock → Bool × AnyLock
  | plain l =>
    let (won, l) := l.tryAcquire s site
    (won, plain l)
  | recursive l =>
    let (won, l) := l.tryAcquire s site me
    (won, recursive l)

/-- Release a lock. -/
def release : Attempt AnyLock Unit :=
  Attempt.ofRun (fun l =>
    match l with
    | plain l => (.ok (), plain l.release)
    | recursive l =>
      let (r, l) := RecursiveLock.release.on l
      (r, recursive l))

/-- A lock as it is shown to a thread. -/
def shown (site : Site → Text.Shown) (me : ThreadId) : AnyLock → Text.Shown
  | plain l => l.shown site
  | recursive l => l.shown site me

end AnyLock

end SyncLayer
