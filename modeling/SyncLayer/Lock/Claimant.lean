import SyncLayer.Lock.Recursive
import SyncLayer.Attempt

/-!
# Threads that claim a recursive lock

What a thread does to acquire a recursive lock and to release it, one load or store of the depth
or the owner after the other. First it finds out whether the lock is its own: the depth is not
zero, and it is the owner. If so, it loads the depth again and stores a greater one. Otherwise it
acquires the lock inside, and then it stores itself as the owner and the depth of one. A release
stores a lower depth, and the last one gives up the owner before the lock inside.
-/

namespace SyncLayer

/-- What a thread wants when it finds out whether the lock is its own. -/
inductive Claim where
  | acquire
  | tryAcquire
  | ask
deriving DecidableEq, Repr

/-- Where a thread stands: in no call; before it loads the depth, or the owner, to find out whether
the lock is its own; before it loads the depth of its own lock, or stores the depth behind the one
it loaded; before it acquires the lock inside; before it checks the depth that it found there,
stores itself as the owner, or stores the first depth; and, in a release, before it loads the
depth, stores the one before the one it loaded, stores that there is none, gives up the owner, or
releases the lock inside. -/
inductive ClaimPhase where
  | outside
  | reading (c : Claim)
  | comparing (c : Claim)
  | counting
  | deepening (d : Nat)
  | entering (c : Claim)
  | checking
  | signing
  | starting
  | leaving
  | lowering (d : Nat)
  | emptying
  | unsigning
  | opening
deriving DecidableEq, Repr

/-- Where a thread goes on once it knows whether the lock is its own. -/
def Claim.decide : Claim → Bool → ClaimPhase
  | .ask, _ => .outside
  | _, true => .counting
  | c, false => .entering c

/-- What is seen of a step on a recursive lock: that a thread starts a call, or a release; that it
loads or stores something; that it finds out whether the lock is its own; that it acquires the
lock inside, or fails to; that it has acquired the lock, or released it; and that its call ends in
a fault. -/
inductive ClaimEvent where
  | calls (c : Claim)
  | leaves
  | loads
  | stores
  | tests (owned : Bool)
  | enters
  | refuses
  | acquires
  | releases
  | faults (f : Fault)
deriving DecidableEq, Repr

/-- The load or store that a thread does next, or its release of the lock inside, if it does one:
what is seen of it, the lock, and where the thread stands behind it. -/
def ClaimPhase.access (me : ThreadId) (l : RecursiveLock) :
  ClaimPhase → Option (ClaimEvent × RecursiveLock × ClaimPhase)
  | reading c =>
    if 0 < l.depth then some (.loads, l, comparing c) else some (.tests false, l, c.decide false)
  | comparing c =>
    let owned := l.owner == some me
    some (.tests owned, l, c.decide owned)
  | counting => some (.loads, l, deepening l.depth)
  | deepening d =>
    if d + 1 < UInt64.size then some (.acquires, { l with depth := d + 1 }, outside)
    else some (.faults .additionOverflow, l, outside)
  | checking =>
    if l.depth = 0 then some (.loads, l, signing)
    else some (.faults (.depthCorrupted l.depth), l, outside)
  | signing => some (.stores, { l with owner := some me }, starting)
  | starting => some (.acquires, { l with depth := 1 }, outside)
  | leaving =>
    if l.depth = 0 then some (.faults .unownedRelease, l, outside)
    else if 1 < l.depth then some (.loads, l, lowering l.depth)
    else some (.loads, l, emptying)
  | lowering d => some (.releases, { l with depth := d - 1 }, outside)
  | emptying => some (.stores, { l with depth := 0 }, unsigning)
  | unsigning => some (.stores, { l with owner := none }, opening)
  | opening => some (.releases, { l with lock := l.lock.release }, outside)
  | outside | entering _ => none

/-- A thread that claims a recursive lock, with the number of its acquisitions that it has not
released. -/
structure Claimant where
  phase : ClaimPhase := .outside
  count : Nat := 0
deriving DecidableEq, Repr

/-- The number of acquisitions that a thread has not released, behind what is seen of it. -/
def ClaimEvent.tally : ClaimEvent → Nat → Nat
  | acquires, n => n + 1
  | releases, n => n - 1
  | _, n => n

end SyncLayer
