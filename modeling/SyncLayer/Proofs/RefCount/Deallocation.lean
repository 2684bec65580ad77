import SyncLayer.Proofs.RefCount.Sharing
import Mathlib.Data.List.Perm.Basic

/-!
# A shared object is freed once

The count is the number of the references that have not been given up, so that the thread that
leaves a count of zero gave up the last one. Nobody can count another reference behind that, and
nobody has one to give up. So that thread alone runs the hook, and nothing happens before it does.
-/

namespace SyncLayer

/-- How many references were counted in what happened. -/
def increments (h : History CountEvent) : Nat :=
  h.countP (fun (_, e) => e matches .increments _)

/-- The counts that threads left in what happened when they gave up references. -/
def remainders (h : History CountEvent) : List Int :=
  h.filterMap (fun (_, e) =>
    match e with
    | .decrements (.ok c) => some c.toInt
    | _ => none)

/-- No hook was run and no last reference was given up in what happened. -/
def Quiet (h : History CountEvent) : Prop :=
  ∀ t e, (t, e) ∈ h → e ≠ .hook ∧ e ≠ .decrements (.ok 0)

/-- No operation on the count ended in a fault in what happened. -/
def Sound (h : History CountEvent) : Prop :=
  ∀ t r, (t, .increments r) ∈ h ∨ (t, .decrements r) ∈ h → ∃ c, r = .ok c

/-- The numbers below a number. -/
def below (n : Nat) : List Int :=
  (List.range n).map Int.ofNat

variable {h h' : History CountEvent} {t : ThreadId} {e : CountEvent} {n : Nat}

theorem below_succ (n : Nat) :
  below (n + 1) = below n ++ [(n : Int)]
  := by
  rw [below, List.range_succ, List.map_append]
  rfl

theorem increments_append (h h' : History CountEvent) :
  increments (h ++ h') = increments h + increments h'
  := List.countP_append

theorem remainders_append (h h' : History CountEvent) :
  remainders (h ++ h') = remainders h ++ remainders h'
  := List.filterMap_append

theorem Quiet.concat (q : Quiet h) (he : e ≠ .hook ∧ e ≠ .decrements (.ok 0)) :
  Quiet (h ++ [(t, e)])
  := by
  intro u f hf
  rw [List.mem_append, List.mem_singleton] at hf
  rcases hf with hf | hf
  · apply q u f hf
  · cases hf
    apply he

theorem Sound.concat (o : Sound h)
    (he : ∀ r, e = .increments r ∨ e = .decrements r → ∃ c, r = .ok c) :
  Sound (h ++ [(t, e)])
  := by
  intro u r hr
  simp only [List.mem_append, List.mem_singleton, Prod.mk.injEq] at hr
  rcases hr with (hr | ⟨_, hr⟩) | (hr | ⟨_, hr⟩)
  · apply o u r (.inl hr)
  · apply he r (.inl hr.symm)
  · apply o u r (.inr hr)
  · apply he r (.inr hr.symm)

/-- A thread that gives up a reference takes the greatest number from those to come. -/
theorem perm_of_decrements {k : Nat} {c : Int64} (hc : c.toInt = k)
    (p : (remainders h ++ below (k + 1)).Perm (below n)) :
  (remainders (h ++ [(t, .decrements (.ok c))]) ++ below k).Perm (below n)
  := by
  have hr : remainders [(t, .decrements (.ok c))] = [(k : Int)] := by
    rw [← hc]
    rfl
  rw [below_succ] at p
  rw [remainders_append, hr, List.append_assoc]
  apply List.Perm.trans _ p
  apply List.Perm.append_left
  apply List.perm_append_comm

namespace SharedCount

variable {s s' s₀ : SharedCount}

/-- How far the object is: it is shared; one thread gave up the last reference and is about to run
the hook; or it has done so, right behind that. -/
inductive Course (h : History CountEvent) (s : SharedCount) : Prop
  | shared (hs : s.owners ≠ 0) (hd : s.due = ∅) (q : Quiet h)
  | due {t : ThreadId} {h' : History CountEvent} (hs : s.owners = 0) (hd : s.due = {t})
      (q : Quiet h') (hh : h = h' ++ [(t, .decrements (.ok 0))])
  | freed {t : ThreadId} {h' : History CountEvent} (hs : s.owners = 0) (hd : s.due = ∅)
      (q : Quiet h') (hh : h = h' ++ [(t, .decrements (.ok 0)), (t, .hook)])

/-- The object is shared as long as there is a reference. -/
theorem Course.of_mem (c : Course h s) (ht : t ∈ s.owners) :
  s.due = ∅ ∧ Quiet h
  := by
  cases c with
  | shared _ hd q => exact ⟨hd, q⟩
  | due hs _ _ _ =>
      rw [hs] at ht
      apply absurd ht (Multiset.notMem_zero t)
  | freed hs _ _ _ =>
      rw [hs] at ht
      apply absurd ht (Multiset.notMem_zero t)

/-- Every step takes the object on. -/
theorem Course.step (c : Course h s) (k : Turn s t e s') :
  Course (h ++ [(t, e)]) s'
  := by
  cases k with
  | increment ht _ =>
      obtain ⟨hd, q⟩ := c.of_mem ht
      apply shared
      · apply Multiset.cons_ne_zero
      · apply hd
      · apply q.concat
        simp
  | decrement ht hc hz =>
      obtain ⟨hd, q⟩ := c.of_mem ht
      apply shared
      · -- A count that is not zero tells that there is another reference.
        intro he
        change s.owners.erase t = 0 at he
        have hn := Multiset.card_erase_add_one ht
        rw [he, Multiset.card_zero] at hn
        apply hz
        rw [← Int64.toInt_inj, Int64.toInt_zero]
        omega
      · apply hd
      · apply q.concat
        simp [hz]
  | last ho =>
      obtain ⟨hd, q⟩ := c.of_mem (t := t) (by simp [ho])
      apply due rfl _ q rfl
      simp [hd]
  | hand ht =>
      obtain ⟨hd, q⟩ := c.of_mem ht
      apply shared
      · apply Multiset.cons_ne_zero
      · apply hd
      · apply q.concat
        simp
  | hook ht =>
      cases c with
      | shared _ hd _ => simp [hd] at ht
      | due hs hd q hh =>
          rw [hd, Finset.mem_singleton] at ht
          subst ht
          apply freed (t := t)
          · apply hs
          · simp [hd]
          · apply q
          · rw [hh, List.append_assoc]
            rfl
      | freed _ hd _ _ => simp [hd] at ht

/-- What holds around a count of `n` references at first: it is the number of those that have not
been given up, which is balanced; no operation has ended in a fault; and the object is shared or
freed. As long as no reference was counted, the threads have left the greatest counts below `n`. -/
structure Kept (n : Nat) (h : History CountEvent) (s : SharedCount) : Prop where
  counted : s.Counted
  course : Course h s
  sound : Sound h
  balance : s.owners.card + (remainders h).length = n + increments h
  rest : increments h = 0 → (remainders h ++ below s.owners.card).Perm (below n)

/-- A thread may give up a reference. -/
theorem Kept.decrement {c : Int64} {owners : Multiset ThreadId} {due : Finset ThreadId}
    (i : Kept n h s) (hc : c.toInt = owners.card) (hn : owners.card + 1 = s.owners.card)
    (course : Course (h ++ [(t, .decrements (.ok c))]) ⟨{ count := c }, owners, due⟩) :
  Kept n (h ++ [(t, .decrements (.ok c))]) ⟨{ count := c }, owners, due⟩
  := by
  have hb := i.balance
  refine ⟨hc, course, ?_, ?_, ?_⟩
  · apply i.sound.concat
    simp
  · rw [increments_append, remainders_append, List.length_append]
    change owners.card + (_ + 1) = n + (_ + 0)
    omega
  · intro hz
    rw [increments_append] at hz
    have p := i.rest (by omega)
    rw [← hn] at p
    apply perm_of_decrements hc p

/-- A thread may do what leaves the count as it is. -/
theorem Kept.same (i : Kept n h s) (hr : s'.references = s.references)
    (hn : s'.owners.card = s.owners.card) (he : ∀ r, e ≠ .increments r ∧ e ≠ .decrements r)
    (course : Course (h ++ [(t, e)]) s') :
  Kept n (h ++ [(t, e)]) s'
  := by
  have hi : increments [(t, e)] = 0 := by
    cases e with
    | increments r => apply absurd rfl (he r).1
    | decrements _ => rfl
    | hands _ => rfl
    | hook => rfl
  have hd : remainders [(t, e)] = [] := by
    cases e with
    | decrements r => apply absurd rfl (he r).2
    | increments _ => rfl
    | hands _ => rfl
    | hook => rfl
  refine ⟨?_, course, ?_, ?_, ?_⟩
  · rw [Counted, hr, hn]
    apply i.counted
  · apply i.sound.concat
    intro r hr
    rcases hr with hr | hr
    · apply absurd hr (he r).1
    · apply absurd hr (he r).2
  · rw [increments_append, remainders_append, hi, hd, hn, List.append_nil]
    apply i.balance
  · rw [increments_append, remainders_append, hi, hd, hn, List.append_nil]
    apply i.rest

/-- Every step keeps the count and what happened in order. -/
theorem Kept.step (i : Kept n h s) (k : Step s t e s') :
  Kept n (h ++ [(t, e)]) s'
  := by
  have k := Turn.of_step i.counted k
  have course := i.course.step k
  cases k with
  | increment ht hc =>
      have hb := i.balance
      refine ⟨?_, course, ?_, ?_, ?_⟩
      · simpa [Counted] using hc
      · apply i.sound.concat
        simp
      · rw [increments_append, remainders_append, Multiset.card_cons, List.length_append]
        change _ + 1 + (_ + 0) = n + (_ + 1)
        omega
      · intro hz
        rw [increments_append] at hz
        cases hz
  | decrement ht hc _ =>
      have hn := Multiset.card_erase_add_one ht
      apply i.decrement _ hn course
      omega
  | last ho =>
      apply i.decrement rfl _ course
      rw [ho]
      rfl
  | hand ht =>
      have hn := Multiset.card_erase_add_one ht
      apply i.same _ _ _ course
      · rfl
      · rw [own, Multiset.card_cons, hn]
      · simp
  | hook _ =>
      apply i.same _ _ _ course
      · rfl
      · rfl
      · simp

theorem Kept.start (hs : system.Starts s) :
  Kept s.owners.card [] s
  := by
  obtain ⟨hc, ho, hd⟩ := hs
  refine ⟨hc, .shared ho hd ?_, ?_, rfl, ?_⟩
  · intro t e he
    cases he
  · intro t r hr
    rcases hr with hr | hr
    · cases hr
    · cases hr
  · intro _
    rfl

/-- The count of an object that is shared by threads is right at every time. -/
theorem Kept.of_path (hs : system.Starts s₀) (p : system.Path s₀ h s) :
  Kept s₀.owners.card h s
  := by
  induction p with
  | refl => apply start hs
  | step _ k ih => apply ih.step k

/-- An object that threads share is freed once. The count is the number of the references that have
not been given up, and no operation on it ends in a fault. As long as there is a reference no
thread has left a count of zero or run the hook. Once there is none, one thread has left a count
of zero with the last of them, and nothing happens behind that but that this thread runs the hook,
once. If no reference was counted and all are given up, the threads have left the numbers below
the first count in some order. -/
theorem deallocation (hs : system.Starts s₀) (p : system.Path s₀ h s) :
  s.references.count.toInt = s.owners.card
    ∧ s.owners.card + (remainders h).length = s₀.owners.card + increments h
    ∧ (∀ t r, (t, .increments r) ∈ h ∨ (t, .decrements r) ∈ h → ∃ c, r = .ok c)
    ∧ (s.owners ≠ 0 ∧ Quiet h
      ∨ s.owners = 0 ∧ ∃ t h', Quiet h'
        ∧ (h = h' ++ [(t, .decrements (.ok 0))]
            ∧ (∃ s', Step s t .hook s') ∧ (∀ u e s', Step s u e s' → u = t ∧ e = .hook)
          ∨ h = h' ++ [(t, .decrements (.ok 0)), (t, .hook)] ∧ ∀ u e s', ¬ Step s u e s'))
    ∧ (increments h = 0 → (remainders h).length = s₀.owners.card →
      (remainders h).Perm (below s₀.owners.card))
  := by
  have i := Kept.of_path hs p
  refine ⟨i.counted, i.balance, i.sound, ?_, ?_⟩
  · cases i.course with
    | shared hs _ q => exact .inl ⟨hs, q⟩
    | @due t h' hs hd q hh =>
        refine .inr ⟨hs, t, h', q, .inl ⟨hh, ?_, ?_⟩⟩
        · exact ⟨_, .hook (by simp [hd])⟩
        · intro u e s' k
          obtain ⟨he, hu⟩ := k.of_owners_eq_zero hs
          rw [hd, Finset.mem_singleton] at hu
          exact ⟨hu, he⟩
    | @freed t h' hs hd q hh =>
        refine .inr ⟨hs, t, h', q, .inr ⟨hh, ?_⟩⟩
        intro u e s' k
        obtain ⟨_, hu⟩ := k.of_owners_eq_zero hs
        rw [hd] at hu
        apply absurd hu (Finset.notMem_empty u)
  · intro hi hl
    have p := i.rest hi
    have hb := i.balance
    have hc : s.owners.card = 0 := by omega
    rw [hc] at p
    simpa [below] using p

/-- The second of two threads gave up the last reference to an object. -/
theorem exists_path_raced :
  ∃ h s, system.Path ⟨{ count := 2 }, {1, 2}, ∅⟩ h s ∧ increments h = 0 ∧ remainders h = [1, 0]
    ∧ 2 ∈ s.due
  := by
  have p := System.Path.refl (S := system) (s := ⟨{ count := 2 }, {1, 2}, ∅⟩)
  have p := p.step (Step.decrement (t := 1) (by decide) (by decide))
  have p := p.step (Step.decrement (t := 2) (by decide) (by decide))
  exact ⟨_, _, p, by decide, by decide, by decide⟩

/-- That thread, and no other, is to free the object. -/
theorem deallocation_raced :
  ∃ h s, system.Starts ⟨{ count := 2 }, {1, 2}, ∅⟩
    ∧ system.Path ⟨{ count := 2 }, {1, 2}, ∅⟩ h s ∧ (remainders h).Perm (below 2)
    ∧ s.references.count.toInt = 0 ∧ ∀ u e s', Step s u e s' → u = 2 ∧ e = .hook
  := by
  have hs : system.Starts ⟨{ count := 2 }, {1, 2}, ∅⟩ := by
    refine ⟨rfl, ?_, rfl⟩
    simp
  obtain ⟨h, s, p, hi, hr, hd⟩ := exists_path_raced
  obtain ⟨counted, balance, _, course, perm⟩ := deallocation hs p
  have hn : s.owners.card = 0 := by
    rw [hi, hr] at balance
    apply Nat.add_right_cancel balance
  have ho := Multiset.card_eq_zero.mp hn
  refine ⟨h, s, hs, p, ?_, ?_, ?_⟩
  · apply perm hi
    rw [hr]
    rfl
  · rw [counted, hn]
    rfl
  · rcases course with ⟨hc, _⟩ | ⟨_, t, h', _, ⟨_, _, only⟩ | ⟨_, none⟩⟩
    · apply absurd ho hc
    · obtain ⟨rfl, _⟩ := only 2 .hook _ (.hook hd)
      apply only
    · apply absurd (Step.hook hd) (none 2 .hook _)

end SharedCount

end SyncLayer
