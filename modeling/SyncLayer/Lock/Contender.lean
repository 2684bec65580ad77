import SyncLayer.Lock.Word

/-!
# Threads that contend for a lock

What a thread does to take a lock and to give it back, one access to the word after the other.
A blocking call takes the lock if it is free. Otherwise it marks the word, unless the mark was
there, and asks to sleep while the word is marked. Whenever it is awake again it marks the word
once more, and it has the lock if the word was free. A thread that gives the lock back and finds
the mark clears the word and wakes one thread.
-/

namespace SyncLayer

/-- Where a thread stands: in no call; before the first access of a blocking call, or before the
only one of a call that does not block; before it marks the word; before it asks to sleep;
asleep; before it counts the word down, clears it, or wakes a thread. -/
inductive LockPhase where
  | outside
  | locking
  | trying
  | marking
  | waiting
  | asleep
  | unlocking
  | clearing
  | waking
deriving DecidableEq, Repr

/-- What a thread may ask of a lock. -/
inductive LockCall where
  | lock
  | tryLock
  | unlock
deriving DecidableEq, Repr

/-- Where a thread stands before the first access of a call. -/
def LockCall.start : LockCall → LockPhase
  | lock => .locking
  | tryLock => .trying
  | unlock => .unlocking

/-- A thread that contends for a lock. It holds the lock from the access that found the word free
to the one that leaves it free. -/
structure Contender where
  phase : LockPhase := .outside
  holds : Bool := false
deriving DecidableEq, Repr

namespace Contender

/-- A thread that has taken the lock. -/
def holder : Contender := { phase := .outside, holds := true }

/-- Whether a thread may make a call. It makes one at a time, and it gives back what it holds. -/
def mayCall (x : Contender) (c : LockCall) : Bool :=
  x.phase == .outside && (c != .unlock || x.holds)

/-- A thread before the first access of a call. -/
def call (x : Contender) (c : LockCall) : Contender :=
  { x with phase := c.start }

/-- The access that a thread does next, if it does one: the word it leaves, and the thread
behind it, which goes by the word that it found. -/
def access (w : LockWord) (x : Contender) : Option (LockWord × Contender) :=
  match x.phase with
  | .locking =>
    some (w.takeFree,
      if w = .free then holder
      else if w = .contended then { x with phase := .waiting }
      else { x with phase := .marking })
  | .trying => some (w.takeFree, if w = .free then holder else { x with phase := .outside })
  | .marking => some (w.mark, if w = .free then holder else { x with phase := .waiting })
  | .unlocking => some (w.countDown, if w = .held then {} else { x with phase := .clearing })
  | .clearing => some (.free, { phase := .waking })
  | .outside | .waiting | .asleep | .waking => none

end Contender

end SyncLayer
