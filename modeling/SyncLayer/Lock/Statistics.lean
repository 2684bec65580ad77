import SyncLayer.Contention.Report

/-!
# Statistics of a lock

A lock carries counters of its acquisitions or nothing at all. One that counts judges the
delays by a threshold of its own, or by the one of the process.
-/

namespace SyncLayer

/-- What a lock keeps of its acquisitions. -/
inductive LockStats where
  | off
  | on (threshold : Option UInt64) (counters : Counters)
deriving DecidableEq, Repr

namespace LockStats

/-- Counters at zero that judge by the given threshold, or by the one of the process. -/
def fresh (threshold : Option UInt64) : LockStats :=
  on threshold .zero

/-- Whether acquisitions are counted. -/
def isOn : LockStats → Bool
  | off => false
  | on _ _ => true

/-- The threshold that delays are judged by, where acquisitions are counted. -/
def threshold? (s : Settings) : LockStats → Option UInt64
  | off => none
  | on threshold _ => some (threshold.getD s.threshold)

/-- The counters, at zero if nothing is counted. -/
def counters : LockStats → Counters
  | off => .zero
  | on _ c => c

/-- Count `n` acquisitions with the same delay. -/
def recordTimes (s : Settings) (delay : UInt64) (n : Nat) : LockStats → LockStats
  | off => off
  | on threshold c => on threshold (c.recordTimes (threshold.getD s.threshold) delay n)

/-- Count an acquisition with a delay. -/
def record (s : Settings) (delay : UInt64) : LockStats → LockStats
  | off => off
  | on threshold c => on threshold (c.record (threshold.getD s.threshold) delay)

/-- Set the counters to zero. -/
def reset : LockStats → LockStats
  | off => off
  | on threshold _ => on threshold .zero

/-- Statistics as they are shown. -/
def shown : LockStats → Text.Shown
  | off => .word "NoStats"
  | on threshold c =>
    .record "ContentionStats"
      [("threshold", .option (fun (n : UInt64) => .number n.toNat) threshold),
        ("no_contention_count", .number c.uncontended.toNat),
        ("contention_count", .number c.contended.toNat),
        ("contention_total_delay", .number c.totalDelay.toNat),
        ("contention_max_delay", .number c.maxDelay.toNat)]

end LockStats

end SyncLayer
