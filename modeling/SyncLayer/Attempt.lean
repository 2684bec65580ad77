import SyncLayer.Error.System

/-!
# Attempts

An operation may end in a fault: a count leaves its range, a lock is released that nobody
owns, a print fails. A fault ends the operation but not the process, and what the operation
changed before stays changed.
-/

namespace SyncLayer

/-- Why an operation ends before its end. -/
inductive Fault where
  | refcountOverflow
  | refcountUnderflow
  | unownedRelease
  | depthCorrupted (found : Nat)
  | additionOverflow
  | hookFailed
  | printFailed (e : SystemError)
deriving DecidableEq, Repr

/-- The text of a fault. -/
def Fault.message : Fault → String
  | refcountOverflow => "refcount overflow"
  | refcountUnderflow => "refcount underflow"
  | unownedRelease => "release of an unowned recursive lock"
  | depthCorrupted n =>
    "assertion `left == right` failed: recursive lock depth corrupted\n  left: " ++ Decimal.text n
      ++ "\n right: 0"
  | additionOverflow => "attempt to add with overflow"
  | hookFailed => "hook failed"
  | printFailed e => "failed printing to stdout: " ++ e.text

/-- An operation on a state that may end in a fault. -/
abbrev Attempt (σ α : Type) := ExceptT Fault (StateM σ) α

namespace Attempt

variable {σ τ α : Type}

/-- The outcome of an attempt and the state it leaves. -/
def on (a : Attempt σ α) (s : σ) : Except Fault α × σ :=
  StateT.run (ExceptT.run a) s

/-- The attempt with a given outcome and effect on the state. -/
def ofRun (f : σ → Except Fault α × σ) : Attempt σ α :=
  ExceptT.mk (fun s => f s)

/-- An attempt on a part of the state. -/
def within (part : σ → τ) (put : σ → τ → σ) (a : Attempt τ α) : Attempt σ α :=
  ofRun (fun s =>
    let (r, t) := a.on (part s)
    (r, put s t))

/-- The attempt that ends as a given outcome. -/
def ofExcept : Except Fault α → Attempt σ α
  | .ok a => pure a
  | .error f => throw f

/-- An attempt made `n` times, with the outcome of the last time; no time has the outcome
`first`. -/
def times (first : α) (a : Attempt σ α) : Nat → Attempt σ α
  | 0 => pure first
  | 1 => a
  | n + 2 => do
    let _ ← a
    times first a (n + 1)

/-! ### What the steps of an attempt do -/

section

variable {β : Type} {s s' : σ} {e : Fault} {x : α} {a : Attempt σ α} {f : α → Attempt σ β}

@[simp]
theorem on_pure :
  (pure x : Attempt σ α).on s = (.ok x, s)
  := rfl

@[simp]
theorem on_throw :
  (throw e : Attempt σ α).on s = (.error e, s)
  := rfl

@[simp]
theorem on_get :
  (get : Attempt σ σ).on s = (.ok s, s)
  := rfl

@[simp]
theorem on_set :
  (set s' : Attempt σ Unit).on s = (.ok (), s')
  := rfl

@[simp]
theorem on_modify {g : σ → σ} :
  (modify g : Attempt σ Unit).on s = (.ok (), g s)
  := rfl

@[simp]
theorem on_ofRun {g : σ → Except Fault α × σ} :
  (ofRun g).on s = g s
  := rfl

/-- An attempt on a part of the state leaves the rest as it was. -/
@[simp]
theorem on_within {part : τ → σ} {put : τ → σ → τ} {r : τ} :
  (a.within part put).on r = ((a.on (part r)).1, put r (a.on (part r)).2)
  := rfl

/-- An attempt goes on from where its first part leaves the state, unless that ends in a fault. -/
@[simp]
theorem on_bind :
  (a >>= f).on s
    = match a.on s with
      | (.ok x, s') => (f x).on s'
      | (.error e, s') => (.error e, s')
  := by
  change StateT.run (ExceptT.run (a >>= f)) s = _
  rw [ExceptT.run_bind, StateT.run_bind, on]
  obtain ⟨_ | _, _⟩ := a.run.run s
  · rfl
  · rfl

@[simp]
theorem on_map {g : α → β} :
  (g <$> a).on s
    = match a.on s with
      | (.ok x, s') => (.ok (g x), s')
      | (.error e, s') => (.error e, s')
  := by
  rw [map_eq_pure_bind, on_bind]
  rfl

end

end Attempt

end SyncLayer
