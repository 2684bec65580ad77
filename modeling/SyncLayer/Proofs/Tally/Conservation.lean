import SyncLayer.Proofs.Tally.Protocol
import Mathlib.Algebra.BigOperators.Pi
import Mathlib.Algebra.BigOperators.Ring.Finset
import Mathlib.Data.ZMod.Basic
import Mathlib.Tactic.Abel

/-!
# No operation is lost between shadows and totals

Between the steps of a merge an operation may stand in a shadow and in the totals. So a thread is
worth what its shadows hold without the one it merges, and what it has yet to add to the totals.
Every step of a thread changes its worth and the totals by what it counts and what it takes, and
every other thread keeps its worth. Whenever no thread is in a call the worth of a thread is what
its shadows hold.
-/

namespace SyncLayer

/-- The number of the operations of tallies. -/
def operationsOf (l : List Tally) : Nat :=
  (l.map (fun u => u.operations.toNat)).sum

/-- The number of the cycles of tallies. -/
def cyclesOf (l : List Tally) : Nat :=
  (l.map (fun u => u.cycles.toNat)).sum

/-- Who counted an operation in what happened, and of how many cycles. -/
def records (h : History TallyEvent) : List (ThreadId × UInt64) :=
  h.filterMap (fun (t, e) =>
    match e with
    | .records _ c => some (t, c)
    | _ => none)

/-- The totals that were taken in what happened, whether they were kept or not. -/
def takings (h : History TallyEvent) : List Tally :=
  h.filterMap (fun (_, e) =>
    match e with
    | .takes _ u => some u
    | _ => none)

/-- Behind every operation that a thread counted in a shadow it merged that shadow. -/
def Settled (h : History TallyEvent) : Prop :=
  ∀ h₁ h₂ t p c, h = h₁ ++ (t, .records (.shadow p) c) :: h₂ →
    ∃ o, o.place = some p ∧ (t, .closes o) ∈ h₂

/-- The tallies in the shadows of a thread. -/
def Recorder.shadows (x : Recorder) : List Tally :=
  x.own.toList ++ x.separate

/-! ### What tallies are worth -/

namespace Tally

/-- A tally modulo the numbers that 64 bits hold. -/
def value (u : Tally) : ZMod UInt64.size × ZMod UInt64.size :=
  (u.operations.toNat, u.cycles.toNat)

@[simp]
theorem value_zero :
  value .zero = 0
  := by
  simp [value, zero]

/-- An empty tally is worth nothing. -/
theorem value_of_isEmpty {u : Tally} (h : u.isEmpty = true) :
  u.value = 0
  := by
  simp only [isEmpty, Bool.and_eq_true, beq_iff_eq] at h
  simp [value, h]

/-- What a tally is worth with another operation. -/
theorem value_succ (u : Tally) (c : UInt64) :
  value { operations := u.operations + 1, cycles := u.cycles + c }
    = u.value + value { operations := 1, cycles := c }
  := by
  simp [value]

/-- Adding the cycles of a tally leaves its operations to add. -/
theorem value_add_cycles (t u : Tally) :
  value { operations := u.operations, cycles := 0 }
      + value { t with cycles := t.cycles + u.cycles }
    = u.value + t.value
  := by
  simp [value, add_comm]

theorem value_add_operations (t : Tally) (n : UInt64) :
  value { t with operations := t.operations + n }
    = value { operations := n, cycles := 0 } + t.value
  := by
  simp [value, add_comm]

/-- Taking the operations leaves the cycles to take. -/
theorem value_take_operations (t : Tally) :
  value { operations := t.operations, cycles := 0 } + value { t with operations := 0 } = t.value
  := by
  simp [value]

theorem value_take_cycles (t : Tally) (n : UInt64) :
  value { t with cycles := 0 } + value { operations := n, cycles := t.cycles }
    = value { operations := n, cycles := 0 } + t.value
  := by
  simp [value, add_comm]

end Tally

namespace Recorder

variable {x x' : Recorder} {b b' : TallyBoard} {e : TallyEvent} {p : ShadowPlace} {o : MergeOrigin}
  {u v : Tally}

/-- What the shadows of a thread are worth. -/
def stored (x : Recorder) : ZMod UInt64.size × ZMod UInt64.size :=
  (x.shadows.map Tally.value).sum

/-- What a thread is worth: what its shadows hold without the one it merges, and what it has yet
to add to the totals, or has taken from them. -/
def worth (x : Recorder) : ZMod UInt64.size × ZMod UInt64.size :=
  match x.phase with
  | .outside => x.stored
  | .adding o u => (x.forget o).stored + u.value
  | .counting o n => (x.forget o).stored + Tally.value { operations := n, cycles := 0 }
  | .closing o => (x.forget o).stored
  | .taking _ n => x.stored + Tally.value { operations := n, cycles := 0 }

@[simp]
theorem stored_enter (q : RecorderPhase) :
  (x.enter q).stored = x.stored
  := rfl

@[simp]
theorem stored_forget_enter (q : RecorderPhase) :
  ((x.enter q).forget o).stored = (x.forget o).stored
  := by
  rw [← stored_enter (x := (x.enter q).forget o) .outside, forget_enter, stored_enter]

/-- Another tally in a shadow takes the place of the one that was there. -/
theorem stored_put (h : x.shadow? p = some u) :
  (x.put v p).stored + u.value = x.stored + v.value
  := by
  cases p with
  | own =>
      have hx : x.own = some u := h
      simp only [stored, shadows, put, hx, Option.toList_some, List.singleton_append,
        List.map_cons, List.sum_cons]
      abel
  | separate i =>
      obtain ⟨hi, rfl⟩ := List.getElem?_eq_some_iff.mp h
      simp only [stored, shadows, put, List.map_append, List.sum_append, List.map_set,
        List.sum_set', List.length_map, hi, dite_true, List.getElem_map]
      abel

/-- A shadow that counts an operation is worth that operation more. -/
theorem stored_record (h : x.shadow? p = some u) (c : UInt64) :
  (x.put { operations := u.operations + 1, cycles := u.cycles + c } p).stored
    = x.stored + Tally.value { operations := 1, cycles := c }
  := by
  have hs := stored_put (v := { operations := u.operations + 1, cycles := u.cycles + c }) h
  rw [Tally.value_succ, ← add_assoc, add_right_comm] at hs
  apply add_right_cancel hs

/-- What a merge empties was there before. -/
theorem stored_forget (ho : o.place = some p) (h : x.shadow? p = some u) :
  (x.forget o).stored + u.value = x.stored
  := by
  cases o with
  | shadow q =>
      cases ho
      rw [forget, stored_put h, Tally.value_zero, add_zero]
  | ending =>
      cases ho
      have hx : x.own = some u := h
      simp only [stored, shadows, forget, hx, Option.toList_some, Option.toList_none,
        List.singleton_append, List.nil_append, List.map_cons, List.sum_cons]
      apply add_comm
  | direct => cases ho

theorem worth_enter_adding :
  (x.enter (.adding o u)).worth = (x.forget o).stored + u.value
  := congrArg (· + u.value) (stored_forget_enter _)

theorem worth_enter_counting (n : UInt64) :
  (x.enter (.counting o n)).worth
    = (x.forget o).stored + Tally.value { operations := n, cycles := 0 }
  := congrArg (· + Tally.value { operations := n, cycles := 0 }) (stored_forget_enter _)

theorem worth_enter_closing :
  (x.enter (.closing o)).worth = (x.forget o).stored
  := stored_forget_enter _

/-- A thread that starts to merge a tally is worth it. -/
theorem worth_merging :
  (x.merging o u).worth = (x.forget o).stored + u.value
  := by
  rw [merging]
  split
  · rename_i hu
    rw [worth_enter_closing, Tally.value_of_isEmpty hu, add_zero]
  · apply worth_enter_adding

end Recorder

/-- What a step counts. -/
def TallyEvent.counted : TallyEvent → Tally
  | records _ c => { operations := 1, cycles := c }
  | _ => .zero

/-- What a step has taken from the totals. -/
def TallyEvent.taken : TallyEvent → Tally
  | takes _ u => u
  | _ => .zero

namespace Recorder

variable {x x' : Recorder} {b b' : TallyBoard} {e : TallyEvent}

theorem worth_of_outside (hp : x.phase = .outside) :
  x.worth = x.stored
  := by
  rw [worth, hp]

theorem worth_put {p : ShadowPlace} {v : Tally} (hp : x.phase = .outside) :
  (x.put v p).worth = (x.put v p).stored
  := by
  apply worth_of_outside
  cases p with
  | own => apply hp
  | separate i => apply hp

/-- A step changes the worth of its thread and the totals by what it counts and what it has
taken. -/
theorem Turn.conserves (k : x.Turn b e b' x') (hf : ∀ f, e ≠ .faults f) :
  x'.worth + b'.totals.value + e.taken.value = x.worth + b.totals.value + e.counted.value
  := by
  cases k with
  | direct hp ho =>
      rw [worth_of_outside hp, worth_enter_adding]
      simp only [TallyEvent.taken, TallyEvent.counted, Tally.value_zero, forget]
      abel
  | record hp hu hn =>
      rw [worth_put hp, stored_record hu, worth_of_outside hp]
      simp only [TallyEvent.taken, TallyEvent.counted, Tally.value_zero]
      abel
  | recordFull hp hu hn =>
      rw [worth_enter_adding, Tally.value_succ, ← add_assoc, stored_forget (p := .own) rfl hu,
        worth_of_outside hp]
      simp only [TallyEvent.taken, TallyEvent.counted, Tally.value_zero]
      abel
  | fault hu hn => exact absurd rfl (hf _)
  | merge hp ho hu =>
      rw [worth_merging, stored_forget ho hu, worth_of_outside hp]
      rfl
  | pass hp => rfl
  | make hp =>
      simp only [worth, hp, stored, shadows, TallyEvent.taken, TallyEvent.counted]
      simp
  | set hp => rfl
  | @swap kept hp =>
      have hv := Tally.value_take_operations b.totals
      have hw : (x.enter (.taking kept b.totals.operations)).worth
          = x.stored + Tally.value { operations := b.totals.operations, cycles := 0 } := rfl
      rw [worth_of_outside hp, ← hv, hw]
      simp only [TallyEvent.taken, TallyEvent.counted, add_assoc]
  | @add o u hp =>
      have hv := Tally.value_add_cycles b.totals u
      have hw : x.worth = (x.forget o).stored + u.value := by rw [worth, hp]
      rw [worth_enter_counting, hw]
      simp only [TallyEvent.taken, TallyEvent.counted, add_assoc _ _ (Tally.value b.totals)]
      rw [← hv, ← add_assoc]
  | @count o n hp =>
      have hw : x.worth = (x.forget o).stored + Tally.value { operations := n, cycles := 0 } := by
        rw [worth, hp]
      rw [worth_enter_closing, hw, Tally.value_add_operations, ← add_assoc]
      rfl
  | @close o hp =>
      have hw : x.worth = (x.forget o).stored := by rw [worth, hp]
      rw [hw]
      rfl
  | @take kept n hp =>
      have hv := Tally.value_take_cycles b.totals n
      have hw : x.worth = x.stored + Tally.value { operations := n, cycles := 0 } := by
        rw [worth, hp]
      rw [hw]
      simp only [TallyEvent.taken, TallyEvent.counted, Tally.value_zero, add_zero]
      rw [add_assoc, hv, ← add_assoc]
      rfl

end Recorder

namespace TallyState

variable {s s' : TallyState} {t : ThreadId} {e : TallyEvent} {h : History TallyEvent}
  {T : Finset ThreadId}

/-- What the totals and some threads are worth. -/
def worth (s : TallyState) (T : Finset ThreadId) : ZMod UInt64.size × ZMod UInt64.size :=
  s.board.totals.value + ∑ t ∈ T, (s.threads t).worth

/-- A step of one of the threads changes what they and the totals are worth by what it counts and
what it has taken. -/
theorem Step.conserves (k : Step s t e s') (hf : ∀ f, e ≠ .faults f) (ht : t ∈ T) :
  s'.worth T + e.taken.value = s.worth T + e.counted.value
  := by
  obtain ⟨b, x, rfl, turn⟩ := k.turn
  have hx := turn.conserves hf
  have others : ∑ u ∈ T.erase t, ((s.set t b x).threads u).worth
      = ∑ u ∈ T.erase t, (s.threads u).worth := by
    apply Finset.sum_congr rfl
    intro u hu
    rw [threads_set, if_neg (Finset.ne_of_mem_erase hu)]
  rw [worth, worth, ← Finset.add_sum_erase T _ ht, ← Finset.add_sum_erase T _ ht, others,
    threads_set, if_pos rfl, board_set]
  calc b.totals.value + (x.worth + ∑ u ∈ T.erase t, (s.threads u).worth) + e.taken.value
      = x.worth + b.totals.value + e.taken.value + ∑ u ∈ T.erase t, (s.threads u).worth := by abel
    _ = _ := by
      rw [hx]
      abel

end TallyState

/-! ### Numbers of operations and cycles -/

/-- What tallies are worth are the numbers of their operations and cycles. -/
theorem sum_value (l : List Tally) :
  (l.map Tally.value).sum = ((operationsOf l : ZMod UInt64.size), (cyclesOf l : ZMod UInt64.size))
  := by
  induction l with
  | nil => simp [operationsOf, cyclesOf, Prod.zero_eq_mk]
  | cons u l ih =>
      rw [List.map_cons, List.sum_cons, ih]
      simp [operationsOf, cyclesOf, Tally.value]

theorem sum_taken (h : History TallyEvent) :
  (h.map (fun x => x.2.taken.value)).sum = ((takings h).map Tally.value).sum
  := by
  induction h with
  | nil => rfl
  | cons x h ih =>
      obtain ⟨t, e⟩ := x
      rw [List.map_cons, List.sum_cons, ih]
      cases e <;> simp [takings, TallyEvent.taken]

/-- Every operation is counted once, with its cycles. -/
theorem sum_counted (h : History TallyEvent) :
  (h.map (fun x => x.2.counted.value)).sum
    = (((records h).length : ZMod UInt64.size),
      ((((records h).map (fun x => x.2.toNat)).sum : Nat) : ZMod UInt64.size))
  := by
  induction h with
  | nil => simp [records, Prod.zero_eq_mk]
  | cons x h ih =>
      obtain ⟨t, e⟩ := x
      rw [List.map_cons, List.sum_cons, ih]
      cases e with
      | records o c => simp [records, TallyEvent.counted, Tally.value, add_comm]
      | _ => simp [records, TallyEvent.counted]

/-! ### Shadows that nobody has merged -/

namespace Recorder

variable {x x' : Recorder} {b b' : TallyBoard} {e : TallyEvent} {p q : ShadowPlace} {u v : Tally}

theorem shadow?_of_put (h : (x.put v q).shadow? p = some u) :
  p = q ∧ u = v ∨ p ≠ q ∧ x.shadow? p = some u
  := by
  by_cases hpq : p = q
  · subst hpq
    left
    cases p with
    | own =>
        cases h
        exact ⟨rfl, rfl⟩
    | separate i =>
        have h : (x.separate.set i v)[i]? = some u := h
        obtain ⟨_, hu⟩ := List.getElem?_eq_some_iff.mp h
        rw [List.getElem_set_self] at hu
        exact ⟨rfl, hu.symm⟩
  · right
    use hpq
    cases q with
    | own =>
        cases p with
        | own => exact absurd rfl hpq
        | separate i => exact h
    | separate j =>
        cases p with
        | own => exact h
        | separate i =>
            have hij : j ≠ i := by
              rintro rfl
              exact hpq rfl
            simp only [shadow?, put, List.getElem?_set_ne hij] at h
            exact h

/-- A shadow holds something behind a step only if an operation was just counted there, or if it
did before and was not emptied. -/
theorem Turn.shadow (k : x.Turn b e b' x') (hf : ∀ f, e ≠ .faults f)
    (hu : x'.shadow? p = some u) (hz : u ≠ .zero) :
  (∃ c, e = .records (.shadow p) c)
    ∨ x.shadow? p = some u ∧ ∀ o, o.place = some p → e ≠ .closes o
  := by
  cases k with
  | direct | merge | pass | set | swap | add | count | take => exact .inr ⟨hu, by simp⟩
  | record =>
      rcases shadow?_of_put hu with ⟨rfl, _⟩ | ⟨_, hu⟩
      · exact .inl ⟨_, rfl⟩
      · exact .inr ⟨hu, by simp⟩
  | recordFull =>
      cases p with
      | own => exact .inl ⟨_, rfl⟩
      | separate i => exact .inr ⟨hu, by simp⟩
  | fault => exact absurd rfl (hf _)
  | make =>
      cases p with
      | own => exact .inr ⟨hu, by simp⟩
      | separate i =>
          have hu : (x.separate ++ [Tally.zero])[i]? = some u := hu
          rw [List.getElem?_append] at hu
          split at hu
          · exact .inr ⟨hu, by simp⟩
          · obtain ⟨_, hu⟩ := List.getElem?_eq_some_iff.mp hu
            rw [List.getElem_singleton] at hu
            exact absurd hu.symm hz
  | @close o =>
      have hu : (x.forget o).shadow? p = some u := hu
      cases o with
      | shadow q =>
          rcases shadow?_of_put hu with ⟨_, hu⟩ | ⟨hpq, hu⟩
          · exact absurd hu hz
          · refine .inr ⟨hu, ?_⟩
            rintro o ho he
            cases he
            cases ho
            exact hpq rfl
      | ending =>
          cases p with
          | own => cases hu
          | separate i =>
              refine .inr ⟨hu, ?_⟩
              rintro o ho he
              cases he
              cases ho
      | direct =>
          refine .inr ⟨hu, ?_⟩
          rintro o ho he
          cases he
          cases ho

end Recorder

namespace TallyState

variable {s s' : TallyState} {t : ThreadId} {e : TallyEvent} {h : History TallyEvent}
  {T : Finset ThreadId}

/-- Every thread has merged its shadows in a history if it did behind the first step, and behind
the others. -/
@[simp]
theorem settled_cons :
  Settled ((t, e) :: h)
    ↔ (∀ p c, e = .records (.shadow p) c → ∃ o, o.place = some p ∧ (t, .closes o) ∈ h) ∧ Settled h
  := by
  constructor
  · intro hs
    refine ⟨?_, ?_⟩
    · rintro p c rfl
      exact hs [] h t p c rfl
    · intro h₁ h₂ u p c hh
      exact hs ((t, e) :: h₁) h₂ u p c (congrArg _ hh)
  · rintro ⟨he, hs⟩ h₁ h₂ u p c hh
    cases h₁ with
    | nil =>
        cases hh
        exact he p c rfl
    | cons x h₁ =>
        cases hh
        exact hs h₁ h₂ u p c rfl

@[simp]
theorem settled_nil :
  Settled []
  := by
  intro h₁ h₂ t p c hh
  simp at hh

end TallyState

end SyncLayer
