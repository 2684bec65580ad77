import SyncLayer.Attempt
import SyncLayer.Binary64.Basic

/-!
# Counters of contention

Each acquisition of a lock counts as uncontended if its delay is at most a threshold, and as
contended otherwise. Of the contended ones the delays are summed, in 64 bits, and the longest is
kept.
-/

namespace SyncLayer

/-- What is counted for a lock. Delays are in cycles. -/
structure Counters where
  uncontended : UInt64 := 0
  contended : UInt64 := 0
  totalDelay : UInt64 := 0
  maxDelay : UInt64 := 0
deriving DecidableEq, Repr, Inhabited

namespace Counters

/-- The counters of a lock nobody has acquired. -/
def zero : Counters := {}

/-- Count an acquisition with a delay. -/
def record (threshold delay : UInt64) (c : Counters) : Counters :=
  if delay ≤ threshold then { c with uncontended := c.uncontended + 1 }
  else
    { c with
      contended := c.contended + 1
      totalDelay := c.totalDelay + delay
      maxDelay := max c.maxDelay delay }

/-- Count as many acquisitions, each with the same delay. -/
def recordTimes (threshold delay : UInt64) : Nat → Counters → Counters
  | 0, c => c
  | n + 1, c => recordTimes threshold delay n (c.record threshold delay)

/-- The number of acquisitions. -/
def total (c : Counters) : Except Fault UInt64 :=
  if c.uncontended.toNat + c.contended.toNat < UInt64.size then .ok (c.uncontended + c.contended)
  else .error .additionOverflow

/-- The mean delay of contended acquisitions, and zero if there are none. -/
def averageDelay (c : Counters) : Binary64 :=
  if c.contended = 0 then .zero else .quotient c.totalDelay.toNat c.contended.toNat

end Counters

end SyncLayer
