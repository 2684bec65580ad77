import SyncLayer.Attempt
import SyncLayer.Text.Shown

/-!
# Tallies

A tally counts operations and the cycles they took. Every thread keeps one of its own, its
shadow, and merges it into the one of the process from time to time, so that the operations
themselves write nothing that threads share. Numbers are of 64 bits; the sums of tallies wrap,
but a thread that counts one operation too many has a fault.
-/

namespace SyncLayer

/-- A count of operations and of the cycles they took. -/
structure Tally where
  operations : UInt64 := 0
  cycles : UInt64 := 0
deriving DecidableEq, Repr, Inhabited

namespace Tally

/-- The tally of no operation. -/
def zero : Tally := {}

/-- Whether a tally counts neither operations nor cycles. -/
def isEmpty (t : Tally) : Bool :=
  t.operations == 0 && t.cycles == 0

/-- The sum of two tallies. -/
def add (t u : Tally) : Tally :=
  { operations := t.operations + u.operations, cycles := t.cycles + u.cycles }

/-- Count an operation. Its cycles are added before the count may overflow. -/
def record (cycles : UInt64) : Attempt Tally Unit := do
  modify (fun t => { t with cycles := t.cycles + cycles })
  let t ← get
  if t.operations.toNat + 1 < UInt64.size then
    set { t with operations := t.operations + 1 }
  else throw .additionOverflow

/-- A thread's tally as it is shown. -/
def shown (t : Tally) : Text.Shown :=
  .record "ThreadRefcountStats"
    [("total_refcount_time", .number t.cycles.toNat),
      ("total_refcount_ops", .number t.operations.toNat)]

end Tally

/-- A thread's shadow and the totals it is merged into. -/
structure Merging where
  shadow : Tally := .zero
  totals : Tally := .zero
deriving DecidableEq, Repr

namespace Merging

/-- Merge the shadow into the totals. -/
def flush (m : Merging) : Merging :=
  { shadow := .zero, totals := if m.shadow.isEmpty then m.totals else m.totals.add m.shadow }

/-- Count an operation in the shadow, and merge the shadow if it holds as many operations as the
interval says. With an interval of zero it is never merged here. After a fault the shadow is as
it was. -/
def record (interval cycles : UInt64) : Attempt Merging Unit := do
  let m ← get
  let (r, shadow) := (Tally.record cycles).on m.shadow
  Attempt.ofExcept r
  let m := { m with shadow }
  set (if interval ≠ 0 ∧ interval ≤ shadow.operations then m.flush else m)

end Merging

end SyncLayer
