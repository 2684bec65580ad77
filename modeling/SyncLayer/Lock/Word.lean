/-!
# The word of a lock

A lock is one word that says whether it is free, held, or held while others may sleep until it
is free. Threads act on it with single atomic accesses: a thread takes a free lock by writing
`held`, and a thread that finds it taken marks it `contended` before it sleeps. Such a thread
takes the lock with the mark on it, because others may still sleep. Whoever gives the lock back
counts the word down. If the word was marked, that leaves it as if somebody held the lock, so
that it is cleared and a sleeper is woken.
-/

namespace SyncLayer

/-- The word of a lock. -/
structure LockWord where
  bits : UInt32
deriving DecidableEq, Repr

namespace LockWord

/-- The word of a lock that nobody holds. -/
def free : LockWord := { bits := 0 }

/-- The word of a lock that is held. -/
def held : LockWord := { bits := 1 }

/-- The word of a lock that is held while others may sleep. -/
def contended : LockWord := { bits := 2 }

@[simp]
theorem held_ne_free : held ≠ free := by decide

@[simp]
theorem contended_ne_free : contended ≠ free := by decide

@[simp]
theorem contended_ne_held : contended ≠ held := by decide

/-- Whether nobody holds the lock. -/
def isFree (w : LockWord) : Bool :=
  w == free

@[simp]
theorem isFree_iff (w : LockWord) : w.isFree = true ↔ w = free := by
  rw [isFree, beq_iff_eq]

/-! ### Single accesses -/

/-- Write `held` if the word is `free`. -/
def takeFree (w : LockWord) : LockWord :=
  if w = free then held else w

/-- Write `contended`, which takes the lock if it was free. -/
def mark (_ : LockWord) : LockWord :=
  contended

/-- Count the word down. -/
def countDown (w : LockWord) : LockWord :=
  { bits := w.bits - 1 }

/-! ### Operations that nobody interrupts -/

/-- Take a free lock; whether it was free, and the word. -/
def tryTake (w : LockWord) : Bool × LockWord :=
  (w.isFree, w.takeFree)

/-- Give a lock back; whether a sleeper has to be woken, and the word. -/
def giveBack (w : LockWord) : Bool × LockWord :=
  if w = held then (false, w.countDown) else (true, free)

end LockWord

end SyncLayer
