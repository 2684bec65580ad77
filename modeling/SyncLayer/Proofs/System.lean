import SyncLayer.Identity
import Mathlib.Logic.Function.Basic
import Mathlib.Algebra.BigOperators.Group.Finset.Basic
import Mathlib.Data.List.Induction

/-!
# Systems of threads

Threads act on something that they share. A `System` says in which states they may start and
which steps each of them may take; with every step something happens that can be told from
outside. A path is a sequence of steps of any threads in any order, and a run is a path from a
state to start in. What the threads do in a run is what happened, in its order.
-/

namespace SyncLayer

/-- What happened in a run, and in which thread, in the order in which it happened. -/
abbrev History (ε : Type) := List (ThreadId × ε)

namespace History

variable {ε ε' : Type}

/-- What is seen of a history, if not everything is. -/
def through (g : ε → Option ε') (h : History ε) : History ε' :=
  h.filterMap (fun (t, e) => (g e).map (fun e' => (t, e')))

theorem through_concat_some {g : ε → Option ε'} {h : History ε} {t : ThreadId} {e : ε} {e' : ε'}
    (hg : g e = some e') :
  through g (h ++ [(t, e)]) = through g h ++ [(t, e')]
  := by
  simp [through, hg]

theorem through_concat_none {g : ε → Option ε'} {h : History ε} {t : ThreadId} {e : ε}
    (hg : g e = none) :
  through g (h ++ [(t, e)]) = through g h
  := by
  simp [through, hg]

/-- How often something of a kind happened. -/
def times (p : ε → Bool) (h : History ε) : Nat :=
  h.countP (fun x => p x.2)

/-- How often a thread did something of a kind. -/
def timesBy (t : ThreadId) (p : ε → Bool) (h : History ε) : Nat :=
  h.countP (fun x => x.1 == t && p x.2)

theorem times_concat (p : ε → Bool) (h : History ε) (t : ThreadId) (e : ε) :
  times p (h ++ [(t, e)]) = times p h + (p e).toNat
  := by
  rw [times, List.countP_append, times, List.countP_singleton]
  cases p e <;> rfl

theorem timesBy_concat (p : ε → Bool) (h : History ε) (t u : ThreadId) (e : ε) :
  timesBy t p (h ++ [(u, e)]) = timesBy t p h + if u = t then (p e).toNat else 0
  := by
  rw [timesBy, List.countP_append, timesBy, List.countP_singleton]
  by_cases hu : u = t
  · rw [if_pos hu]
    cases p e <;> simp [hu]
  · simp [hu]

/-- What is seen through a function goes on with what that says of the last step. -/
theorem timesBy_through_concat {g : ε → Option ε'} (p : ε' → Bool) (h : History ε) (t u : ThreadId)
    (e : ε) :
  timesBy t p (through g (h ++ [(u, e)]))
    = timesBy t p (through g h) + if u = t then ((g e).any p).toNat else 0
  := by
  cases hg : g e with
  | none =>
      rw [through_concat_none hg]
      simp
  | some e' => rw [through_concat_some hg, timesBy_concat, Option.any_some]

/-- If every thread did something as often as something else, then both happened as often. -/
theorem times_eq_of_timesBy_eq {p : ε → Bool} {q : ε' → Bool} {h : History ε} {h' : History ε'}
    (ht : ∀ t, timesBy t p h = timesBy t q h') :
  times p h = times q h'
  := by
  have perm : ((h.filter (fun x => p x.2)).map Prod.fst).Perm
      ((h'.filter (fun x => q x.2)).map Prod.fst) := by
    rw [List.perm_iff_count]
    intro t
    simpa [timesBy, List.count, List.countP_map, List.countP_filter, Function.comp_def] using ht t
  simpa [times, List.countP_eq_length_filter] using perm.length_eq

/-- What is seen of the steps, in their order. -/
def seen {α : Type} (f : ε → Option α) (h : History ε) : List α :=
  h.filterMap (fun x => f x.2)

/-- What is seen of the steps of a thread, in their order. -/
def seenBy {α : Type} (t : ThreadId) (f : ε → Option α) (h : History ε) : List α :=
  h.filterMap (fun x => if x.1 = t then f x.2 else none)

section Seen

variable {α : Type} {f g : ε → Option α} {h : History ε} {t u : ThreadId} {e : ε}

theorem seen_concat :
  seen f (h ++ [(t, e)]) = seen f h ++ (f e).toList
  := by
  rw [seen, List.filterMap_append, seen]
  cases hf : f e <;> simp [hf]

theorem seenBy_concat_of_eq :
  seenBy t f (h ++ [(t, e)]) = seenBy t f h ++ (f e).toList
  := by
  rw [seenBy, List.filterMap_append, seenBy]
  cases hf : f e <;> simp [hf]

theorem seenBy_concat_of_ne (hu : u ≠ t) :
  seenBy t f (h ++ [(u, e)]) = seenBy t f h
  := by
  simp [seenBy, hu]

/-- If the same is seen in two ways of every thread, then the same is seen in both ways of all, if
not in the same order. -/
theorem perm_of_seenBy_eq (ht : ∀ t, seenBy t f h = seenBy t g h) :
  (seen f h).Perm (seen g h)
  := by
  classical
  rw [List.perm_iff_count]
  intro a
  rw [seen, seen, List.count_filterMap, List.count_filterMap]
  apply times_eq_of_timesBy_eq (p := fun e => f e == some a) (q := fun e => g e == some a)
  intro t
  have counts := congrArg (List.count a) (ht t)
  rw [seenBy, seenBy, List.count_filterMap, List.count_filterMap] at counts
  have by_thread {f : ε → Option α} : h.timesBy t (fun e => f e == some a)
      = h.countP (fun x => (if x.1 = t then f x.2 else none) == some a) := by
    apply List.countP_congr
    intro x _
    by_cases hx : x.1 = t <;> simp [hx]
  rw [by_thread, by_thread, counts]

end Seen

end History

/-- Where one of the threads has something else than before, what they all have together is as much
more. -/
theorem sum_change {α : Type} [AddCommMonoid α] {T : Finset ThreadId} {t : ThreadId}
    {f g : ThreadId → α} (ht : t ∈ T) (h : ∀ u, u ≠ t → g u = f u) :
  ∑ u ∈ T, g u + f t = ∑ u ∈ T, f u + g t
  := by
  have others : ∑ u ∈ T.erase t, g u = ∑ u ∈ T.erase t, f u := by
    apply Finset.sum_congr rfl
    intro u hu
    apply h u (Finset.ne_of_mem_erase hu)
  rw [← Finset.add_sum_erase T g ht, ← Finset.add_sum_erase T f ht, others]
  ac_rfl

/-- The states in which threads may start and the steps that each of them may take. -/
structure System (σ ε : Type) where
  Starts : σ → Prop
  Step : σ → ThreadId → ε → σ → Prop

namespace System

variable {σ ε : Type} {S : System σ ε} {s s' s'' : σ} {h h' : History ε} {t : ThreadId} {e : ε}

/-- A sequence of steps from a state to another one, with what happens on the way. -/
inductive Path (S : System σ ε) (s : σ) : History ε → σ → Prop
  | refl : Path S s [] s
  | step {h : History ε} {s' s'' : σ} {t : ThreadId} {e : ε} :
      Path S s h s' → S.Step s' t e s'' → Path S s (h ++ [(t, e)]) s''

/-- A path from a state to start in. -/
def Run (S : System σ ε) (h : History ε) (s : σ) : Prop :=
  ∃ s₀, S.Starts s₀ ∧ S.Path s₀ h s

/-- Some run leads to the state. -/
def Reachable (S : System σ ε) (s : σ) : Prop :=
  ∃ h, S.Run h s

/-! ### Paths -/

theorem Path.single (k : S.Step s t e s') :
  S.Path s [(t, e)] s'
  := .step .refl k

/-- A path goes on with a path from where it ends. -/
theorem Path.trans (p : S.Path s h s') (q : S.Path s' h' s'') :
  S.Path s (h ++ h') s''
  := by
  induction q with
  | refl =>
      rw [List.append_nil]
      apply p
  | step _ k ih =>
      rw [← List.append_assoc]
      apply Path.step ih k

/-- A path along which nothing happens ends where it starts. -/
theorem Path.eq_of_nil (p : S.Path s [] s') :
  s' = s
  := by
  generalize hh : ([] : History ε) = h at p
  cases p with
  | refl => rfl
  | step _ _ => simp at hh

/-- The last step of a path. -/
theorem Path.of_concat (p : S.Path s (h ++ [(t, e)]) s'') :
  ∃ s', S.Path s h s' ∧ S.Step s' t e s''
  := by
  generalize hh : h ++ [(t, e)] = g at p
  cases p with
  | refl => simp at hh
  | step q k =>
      obtain ⟨rfl, hte⟩ := List.append_inj' hh rfl
      obtain ⟨rfl, rfl⟩ := Prod.mk.inj (List.singleton_inj.mp hte)
      exact ⟨_, q, k⟩

/-- A path passes through a state at every point of its history. -/
theorem Path.split (p : S.Path s (h ++ h') s'') :
  ∃ s', S.Path s h s' ∧ S.Path s' h' s''
  := by
  induction h' using List.reverseRecOn generalizing s'' with
  | nil =>
      rw [List.append_nil] at p
      use s'', p, .refl
  | append_singleton h' e ih =>
      rw [← List.append_assoc] at p
      obtain ⟨_, q, k⟩ := p.of_concat
      obtain ⟨s', q, q'⟩ := ih q
      use s', q, q'.step k

/-- What holds where a path starts, and is kept by every step, holds where it ends. -/
theorem Path.keeps {I : σ → Prop} (steps : ∀ s t e s', I s → S.Step s t e s' → I s')
    (p : S.Path s h s') (hs : I s) :
  I s'
  := by
  induction p with
  | refl => apply hs
  | step _ k ih => apply steps _ _ _ _ ih k

/-! ### Runs -/

theorem Run.step (r : S.Run h s) (k : S.Step s t e s') :
  S.Run (h ++ [(t, e)]) s'
  := by
  obtain ⟨s₀, h₀, p⟩ := r
  use s₀, h₀, p.step k

theorem Run.trans (r : S.Run h s) (p : S.Path s h' s') :
  S.Run (h ++ h') s'
  := by
  obtain ⟨s₀, h₀, q⟩ := r
  use s₀, h₀, q.trans p

theorem Run.split (r : S.Run (h ++ h') s') :
  ∃ s, S.Run h s ∧ S.Path s h' s'
  := by
  obtain ⟨s₀, h₀, p⟩ := r
  obtain ⟨s, q, q'⟩ := p.split
  use s, ⟨s₀, h₀, q⟩, q'

/-- A run takes a step at every point of its history. -/
theorem Run.split_cons (r : S.Run (h ++ (t, e) :: h') s'') :
  ∃ s s', S.Run h s ∧ S.Step s t e s' ∧ S.Path s' h' s''
  := by
  rw [List.append_cons] at r
  obtain ⟨s', ⟨s₀, h₀, p⟩, q⟩ := r.split
  obtain ⟨s, p, k⟩ := p.of_concat
  use s, s', ⟨s₀, h₀, p⟩, k, q

/-- What holds of the empty history and every state to start in, and is kept by every step of a
run, holds of every run. -/
theorem Run.invariant {I : History ε → σ → Prop} (starts : ∀ s, S.Starts s → I [] s)
    (steps : ∀ h s t e s', I h s → S.Step s t e s' → I (h ++ [(t, e)]) s') (r : S.Run h s) :
  I h s
  := by
  obtain ⟨s₀, h₀, p⟩ := r
  induction p with
  | refl => apply starts _ h₀
  | step _ k ih => apply steps _ _ _ _ _ ih k

theorem Run.reachable (r : S.Run h s) :
  S.Reachable s
  := ⟨h, r⟩

/-- What holds of the empty history and every state to start in, and is kept by every step behind a
run, holds of every run. -/
theorem Run.induct {I : History ε → σ → Prop} (starts : ∀ s, S.Starts s → I [] s)
    (steps : ∀ h s t e s', S.Run h s → I h s → S.Step s t e s' → I (h ++ [(t, e)]) s')
    (r : S.Run h s) :
  I h s
  := by
  suffices hr : S.Run h s ∧ I h s from hr.2
  apply r.invariant (I := fun h s => S.Run h s ∧ I h s)
  · intro s hs
    use ⟨s, hs, .refl⟩, starts s hs
  · intro h s t e s' ⟨r, i⟩ k
    use r.step k, steps h s t e s' r i k

/-- What holds of every state to start in, and is kept by every step, holds of every state that
is reached. -/
theorem Reachable.invariant {I : σ → Prop} (starts : ∀ s, S.Starts s → I s)
    (steps : ∀ s t e s', I s → S.Step s t e s' → I s') (r : S.Reachable s) :
  I s
  := by
  obtain ⟨_, s₀, h₀, p⟩ := r
  apply p.keeps steps (starts s₀ h₀)

/-! ### What one system shows of another -/

section

variable {σ' ε' : Type} {S' : System σ' ε'} {f : σ → σ'} {g : ε → Option ε'}

/-- A run of a system is one of another system, if what is seen there of a step is a step, and
where nothing is seen of it nothing changes. -/
theorem Run.through (starts : ∀ s, S.Starts s → S'.Starts (f s))
    (steps : ∀ s t e s', S.Reachable s → S.Step s t e s' →
      match g e with
      | some e' => S'.Step (f s) t e' (f s')
      | none => f s' = f s)
    (r : S.Run h s) :
  S'.Run (h.through g) (f s)
  := by
  apply r.induct (I := fun h s => S'.Run (h.through g) (f s))
  · intro s hs
    use f s, starts s hs, .refl
  · intro h s t e s' r ih k
    have hk := steps s t e s' r.reachable k
    split at hk
    · rename_i he
      rw [History.through_concat_some he]
      apply ih.step hk
    · rename_i he
      rw [History.through_concat_none he, hk]
      apply ih

end

end System

end SyncLayer
