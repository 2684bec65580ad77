import SyncLayer.Identity
import SyncLayer.Lock.Instrumented

/-!
# Recursive locks

A lock that its owner may acquire again. The owner counts how often; the others wait until it
has released the lock as often. An acquisition by the owner changes nothing but that depth, so
that statistics and site are those of the outermost acquisition.
-/

namespace SyncLayer

/-- A lock with an owner and the number of acquisitions that the owner has not released. -/
structure RecursiveLock where
  lock : Lock := { description := "anonymous recursive lock" }
  owner : Option ThreadId := none
  depth : Nat := 0
deriving DecidableEq, Repr

namespace RecursiveLock

/-- A recursive lock that nobody has acquired. -/
def fresh (description : String) (stats : LockStats) : RecursiveLock :=
  { lock := .fresh description stats }

/-- Whether a thread owns the lock. -/
def isOwnedBy (me : ThreadId) (l : RecursiveLock) : Bool :=
  0 < l.depth && l.owner == some me

/-- Acquire the lock once more. -/
def reenter (l : RecursiveLock) : RecursiveLock :=
  { l with depth := l.depth + 1 }

/-- Acquire a lock by the given way to acquire what is inside, unless it is the thread's own. -/
def acquireBy (inner : Lock → Lock) (me : ThreadId) (l : RecursiveLock) : RecursiveLock :=
  if l.isOwnedBy me then l.reenter
  else { lock := inner l.lock, owner := some me, depth := 1 }

/-- Acquire a lock that is free or the thread's own. -/
def acquire (s : Settings) (delay : UInt64) (site : Site) (me : ThreadId) :
  RecursiveLock → RecursiveLock
  :=
  acquireBy (Lock.acquire s delay site) me

/-- Acquire a lock if it is free or the thread's own. -/
def tryAcquire (s : Settings) (site : Site) (me : ThreadId) (l : RecursiveLock) :
  Bool × RecursiveLock
  :=
  if l.isOwnedBy me then (true, l.reenter)
  else
    match l.lock.tryAcquire s site with
    | (true, lock) => (true, { lock, owner := some me, depth := 1 })
    | (false, _) => (false, l)

/-- Release the latest acquisition. It is a fault if there is none. -/
def release : Attempt RecursiveLock Unit := do
  let l ← get
  if l.depth = 0 then throw .unownedRelease
  else if 1 < l.depth then set { l with depth := l.depth - 1 }
  else set { lock := l.lock.release, owner := none, depth := 0 : RecursiveLock }

/-- Make a lock that nobody holds a fresh one with another description. -/
def reinitialize (description : String) (l : RecursiveLock) : RecursiveLock :=
  { lock := l.lock.reinitialize description }

/-- An owner as it is shown to a thread: nobody, the thread itself, or another one by its
number. -/
def ownerShown (me : ThreadId) : Option ThreadId → Text.Shown
  | none => .applied "ThreadIdent" [.number 0]
  | some t => .applied "ThreadIdent" [if t = me then .word "me" else .number t]

/-- A recursive lock as it is shown to a thread. -/
def shown (site : Site → Text.Shown) (me : ThreadId) (l : RecursiveLock) : Text.Shown :=
  .record "RecursiveLock"
    [("lock", l.lock.shown site), ("owner", ownerShown me l.owner), ("depth", .number l.depth)]

end RecursiveLock

end SyncLayer
