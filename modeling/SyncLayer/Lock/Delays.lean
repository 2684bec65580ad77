import SyncLayer.Lock.Holder

/-!
# Threads that count delays

What a thread does to count an acquisition in statistics, one access after the other. It reads the
threshold, which is that of the statistics or, if they have none, that of the process. Then it
counts the acquisition as contended or not; of one that was contended it adds the delay, and keeps
the delay if it is the longest. Others may count in the same statistics meanwhile, and the threshold
of the process may change.
-/

namespace SyncLayer

/-- Where a thread stands: it counts nothing; before it reads the threshold; before it counts the
acquisition, which was contended or not; before it adds the delay; or before it keeps the delay if
that is the longest. -/
inductive DelayPhase where
  | idle
  | judging (delay : UInt64)
  | counting (delay : UInt64) (contended : Bool)
  | adding (delay : UInt64)
  | raising (delay : UInt64)
deriving DecidableEq, Repr

/-- What is seen of a step: that a thread is to count an acquisition with a delay; that it reads the
threshold for it, or finds that nothing is counted; that it counts the acquisition, adds the delay,
or keeps it if it is the longest; and that the threshold of the process changes. -/
inductive DelayEvent where
  | calls (delay : UInt64)
  | judges (delay threshold : UInt64)
  | passes
  | counts (delay : UInt64) (contended : Bool)
  | adds (delay : UInt64)
  | raises (delay : UInt64)
  | sets (threshold : UInt64)
deriving DecidableEq, Repr

/-- The access that a thread does next: what is seen of it, the statistics, and where the thread
stands behind it. -/
def DelayPhase.access (s : Settings) (stats : LockStats) :
  DelayPhase → Option (DelayEvent × LockStats × DelayPhase)
  | idle => none
  | judging delay =>
    match stats.threshold? s with
    | none => some (.passes, stats, idle)
    | some threshold =>
      some (.judges delay threshold, stats, counting delay (!decide (delay ≤ threshold)))
  | counting delay contended =>
    some (.counts delay contended, stats.change (.count contended),
      if contended then adding delay else idle)
  | adding delay => some (.adds delay, stats.change (.addDelay delay), raising delay)
  | raising delay => some (.raises delay, stats.change (.raiseDelay delay), idle)

end SyncLayer
