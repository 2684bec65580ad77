import SyncLayer.Attempt
import SyncLayer.Text.Shown

/-!
# Reference counts

A count of references in 64 signed bits. Counting beyond the greatest number and counting a
reference away where there is none are faults, behind which the count has moved all the same.
The operation that takes the last reference away runs a hook.
-/

namespace SyncLayer

/-- A count of references. -/
structure RefCount where
  count : Int64 := 1
deriving DecidableEq, Repr

namespace RefCount

/-- Count a reference; the new count. -/
def increment : Attempt RefCount Int64 := do
  let old := (← get).count
  set { count := old + 1 : RefCount }
  if old < Int64.maxValue then return old + 1 else throw .refcountOverflow

/-- Count a reference away; the new count. -/
def decrement : Attempt RefCount Int64 := do
  let old := (← get).count
  set { count := old - 1 : RefCount }
  if 0 < old then return old - 1 else throw .refcountUnderflow

/-- Run a hook behind an operation that leaves a count of zero. -/
def thenIfZero {σ : Type} (operation : Attempt σ Int64) (hook : Attempt σ Unit) :
  Attempt σ Int64
  := do
  let count ← operation
  if count = 0 then hook
  return count

section

variable {σ : Type} {operation : Attempt σ Int64} {hook : Attempt σ Unit} {s s' : σ} {n : Int64}
  {f : Fault}

/-- A fault of the operation ends all, and no hook runs. -/
theorem thenIfZero_on_error (h : operation.on s = (.error f, s')) :
  (thenIfZero operation hook).on s = (.error f, s')
  := by
  simp [thenIfZero, h]

/-- The hook runs behind an operation that leaves zero. -/
theorem thenIfZero_on_ok (h : operation.on s = (.ok n, s')) :
  (thenIfZero operation hook).on s
    = if n = 0 then
        match hook.on s' with
        | (.ok _, s'') => (.ok n, s'')
        | (.error f, s'') => (.error f, s'')
      else (.ok n, s')
  := by
  by_cases hz : n = 0
  · subst hz
    simp only [thenIfZero, Attempt.on_bind, h, if_true]
    obtain ⟨_ | _, _⟩ := hook.on s'
    · rfl
    · rfl
  · simp [thenIfZero, h, hz]

end

/-- A count as it is shown. -/
def shown (c : RefCount) : Text.Shown :=
  .record "RefCount" [("count", .number c.count.toInt)]

end RefCount

end SyncLayer
