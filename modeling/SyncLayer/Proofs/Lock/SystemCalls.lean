import SyncLayer.Proofs.Lock.Wakeup

/-!
# What a lock asks of the system

A lock leaves the system alone unless threads contend for it. A thread asks to sleep only in a call
that found the lock taken. Whoever gives the lock back wakes somebody only if the word was marked,
and a mark has its reason in the hold that ends: another thread set it meanwhile, or the holder took
the lock with it. So threads that always find the lock free ask for nothing, whoever contended for
it before them.
-/

namespace SyncLayer

namespace LockEvent

/-- The thread waits in the system: it falls asleep there, or comes back from there. -/
@[simp]
def isWait : LockEvent → Bool
  | .sleeps | .resumes => true
  | _ => false

/-- The thread asks something of the system: to let it wait, or to wake somebody. -/
@[simp]
def isSystemCall : LockEvent → Bool
  | .sleeps | .resumes | .wakes _ => true
  | _ => false

end LockEvent

/-- In the call that a thread is in, the first access found the lock taken. -/
def FoundTaken (t : ThreadId) (h : History LockEvent) : Prop :=
  ∃ before w since, h = before ++ (t, .finds .locking w) :: since ∧ w ≠ .free
    ∧ ∀ c, (t, .calls c) ∉ since

/-- A thread took the lock where it stood, and did not give it back since. -/
def HeldSince (t : ThreadId) (p : LockPhase) (since h : History LockEvent) : Prop :=
  ∃ before, h = before ++ (t, .finds p .free) :: since ∧ (LockEvent.finds p .free).takes = true
    ∧ ∀ e, (t, e) ∈ since → e.takes = false ∧ e.givesBack = false

/-- What accounts for a mark on a lock that a thread took: it took the lock with the mark, or
another thread has set it since. -/
def MarkedSince (t : ThreadId) (p : LockPhase) (since : History LockEvent) : Prop :=
  p = .marking ∨ ∃ u w, u ≠ t ∧ (u, .finds .marking w) ∈ since

/-- A thread that had held the lock counted down a word with the mark, and did no more since than to
clear it. -/
def LoweredSince (t : ThreadId) (p : LockPhase) (hold h : History LockEvent) : Prop :=
  ∃ before w since, HeldSince t p hold before ∧ h = before ++ (t, .finds .unlocking w) :: since
    ∧ w ≠ .held ∧ ∀ e, (t, e) ∈ since → ∃ w', e = .finds .clearing w'

section

variable {t u : ThreadId} {h hold since since' : History LockEvent} {p q : LockPhase} {e : LockEvent}
  {w : LockWord}

/-- A call that found the lock taken goes on until its thread makes another one. -/
theorem FoundTaken.concat (f : FoundTaken t h) (he : u = t → ∀ c, e ≠ .calls c) :
  FoundTaken t (h ++ [(u, e)])
  := by
  obtain ⟨before, w, since, rfl, hw, none⟩ := f
  refine ⟨before, w, since ++ [(u, e)], by simp, hw, ?_⟩
  intro c hc
  rcases List.mem_append.mp hc with hc | hc
  · apply none c hc
  · obtain ⟨rfl, rfl⟩ := Prod.mk.inj (List.mem_singleton.mp hc)
    apply he rfl c rfl

theorem FoundTaken.finds (hw : w ≠ .free) :
  FoundTaken t (h ++ [(t, .finds .locking w)])
  := ⟨h, w, [], rfl, hw, fun _ => List.not_mem_nil⟩

/-- A thread holds the lock until it gives it back. -/
theorem HeldSince.concat (d : HeldSince t p since h)
    (he : u = t → e.takes = false ∧ e.givesBack = false) :
  HeldSince t p (since ++ [(u, e)]) (h ++ [(u, e)])
  := by
  obtain ⟨before, rfl, takes, keeps⟩ := d
  refine ⟨before, by simp, takes, ?_⟩
  intro e' he'
  rcases List.mem_append.mp he' with he' | he'
  · apply keeps e' he'
  · obtain ⟨rfl, rfl⟩ := Prod.mk.inj (List.mem_singleton.mp he')
    apply he rfl

/-- A thread holds the lock since one point of its history. -/
theorem HeldSince.unique (a : HeldSince t p since h) (b : HeldSince t q since' h) :
  p = q ∧ since = since'
  := by
  obtain ⟨before, rfl, takes, keeps⟩ := a
  obtain ⟨before', hb, takes', keeps'⟩ := b
  rcases List.append_eq_append_iff.mp hb with ⟨l, _, hl⟩ | ⟨l, _, hl⟩
  · cases l with
    | nil =>
        cases hl
        exact ⟨rfl, rfl⟩
    | cons x l =>
        obtain ⟨rfl, rfl⟩ := List.cons.inj hl
        rw [(keeps _ (by simp)).1] at takes'
        cases takes'
  · cases l with
    | nil =>
        cases hl
        exact ⟨rfl, rfl⟩
    | cons x l =>
        obtain ⟨rfl, rfl⟩ := List.cons.inj hl
        rw [(keeps' _ (by simp)).1] at takes
        cases takes

theorem MarkedSince.append (m : MarkedSince t p since) :
  MarkedSince t p (since ++ since')
  := by
  rcases m with m | ⟨u, w, hu, hm⟩
  · left
    apply m
  · right
    exact ⟨u, w, hu, List.mem_append_left _ hm⟩

/-- What other threads do does not undo that a word was counted down. -/
theorem LoweredSince.concat (l : LoweredSince t p hold h)
    (he : u = t → ∃ w', e = .finds .clearing w') :
  LoweredSince t p hold (h ++ [(u, e)])
  := by
  obtain ⟨before, w, since, held, rfl, hw, clears⟩ := l
  refine ⟨before, w, since ++ [(u, e)], held, by simp, hw, ?_⟩
  intro e' he'
  rcases List.mem_append.mp he' with he' | he'
  · apply clears e' he'
  · obtain ⟨rfl, rfl⟩ := Prod.mk.inj (List.mem_singleton.mp he')
    apply he rfl

end

namespace LockState

/-- What happened accounts for the state of a lock: for every thread on the contended way, for the
mark, and for every thread that is about to wake another one. A thread that waits for the lock it
holds itself marks it too, but it never gives it back. -/
structure Accounted (h : History LockEvent) (s : LockState) : Prop where
  taken : ∀ t, (s.phase t).isContending = true → FoundTaken t h
  held : ∀ t, s.holds t = true → ∃ p since, HeldSince t p since h
    ∧ (s.word = .contended → MarkedSince t p since ∨ (s.phase t).isContending = true)
  lowered : ∀ t, s.phase t = .clearing ∨ s.phase t = .waking →
    ∃ p hold, LoweredSince t p hold h ∧ MarkedSince t p hold

namespace Accounted

variable {s s' : LockState} {h : History LockEvent} {t u : ThreadId} {w : LockWord} {x : Contender}
  {p : LockPhase} {e : LockEvent}

/-- What a thread does leaves the others that are about to wake somebody with their reasons. -/
theorem others (i : Accounted h s) (ht : t ≠ u) (hp : s.phase t = .clearing ∨ s.phase t = .waking) :
  ∃ p hold, LoweredSince t p hold (h ++ [(u, e)]) ∧ MarkedSince t p hold
  := by
  obtain ⟨p, hold, lowered, marked⟩ := i.lowered t hp
  exact ⟨p, hold, lowered.concat (fun hu => absurd hu.symm ht), marked⟩

/-- A thread may do something that neither concerns the word nor takes any thread on or off the
contended way. -/
theorem pass (i : Accounted h s) (hw : s'.word = s.word) (hh : ∀ t, s'.holds t = s.holds t)
    (hc : ∀ t, (s'.phase t).isContending = (s.phase t).isContending)
    (hl : ∀ t, s'.phase t = .clearing ∨ s'.phase t = .waking →
      t ≠ u ∧ (s.phase t = .clearing ∨ s.phase t = .waking))
    (he : e.takes = false ∧ e.givesBack = false)
    (hu : (s.phase u).isContending = true → ∀ c, e ≠ .calls c) :
  Accounted (h ++ [(u, e)]) s'
  := by
  constructor
  · intro t ht
    rw [hc] at ht
    apply (i.taken t ht).concat
    rintro rfl
    apply hu ht
  · intro t ht
    rw [hh] at ht
    obtain ⟨p, since, held, marked⟩ := i.held t ht
    refine ⟨p, _, held.concat (fun _ => he), ?_⟩
    rw [hw, hc]
    intro hm
    apply (marked hm).imp_left MarkedSince.append
  · intro t ht
    obtain ⟨htu, ht⟩ := hl t ht
    apply i.others htu ht

/-- The same where a thread does it. -/
theorem enter (i : Accounted h s) (hc : p.isContending = (s.phase u).isContending)
    (hp : ¬ (p = .clearing ∨ p = .waking)) (he : e.takes = false ∧ e.givesBack = false)
    (hu : (s.phase u).isContending = true → ∀ c, e ≠ .calls c) :
  Accounted (h ++ [(u, e)]) (s.enter u p)
  := by
  apply i.pass word_enter (fun _ => holds_enter) _ _ he hu
  · intro t
    rw [phase_enter]
    split
    · rename_i htu
      rw [htu, hc]
    · rfl
  · intro t ht
    rw [phase_enter] at ht
    split at ht
    · cases hp ht
    · rename_i htu
      exact ⟨htu, ht⟩

/-- A thread that takes a free lock takes it with the mark only where it sets the mark. -/
theorem take (i : Accounted h s) (o : Exclusive s) (hs : s.word = .free)
    (hp : s.phase u = .locking ∨ s.phase u = .trying ∨ s.phase u = .marking)
    (hm : w = .contended → s.phase u = .marking) :
  Accounted (h ++ [(u, .finds (s.phase u) s.word)]) (s.set u w .holder)
  := by
  have hn := o.free_iff.mp hs
  constructor
  · intro t ht
    rw [phase_set] at ht
    split at ht
    · cases ht
    · rename_i htu
      apply (i.taken t ht).concat
      rintro rfl
      cases htu rfl
  · intro t ht
    rw [holds_set] at ht
    split at ht
    · rename_i htu
      subst htu
      rw [hs]
      refine ⟨s.phase t, [], ⟨h, rfl, ?_, nofun⟩, fun hw => .inl (.inl (hm hw))⟩
      rcases hp with hp | hp | hp <;> rw [hp] <;> rfl
    · rw [hn t] at ht
      cases ht
  · intro t ht
    rw [phase_set] at ht
    split at ht
    · rcases ht with ht | ht <;> cases ht
    · rename_i htu
      apply i.others htu ht

/-- A thread that finds the lock taken goes the contended way. -/
theorem wait (i : Accounted h s) (hp : s.phase u = .locking) (hs : s.word ≠ .free)
    (hq : p = .waiting ∨ p = .marking) :
  Accounted (h ++ [(u, .finds .locking s.word)]) (s.enter u p)
  := by
  constructor
  · intro t ht
    by_cases htu : t = u
    · subst htu
      apply FoundTaken.finds hs
    · rw [phase_enter, if_neg htu] at ht
      apply (i.taken t ht).concat
      intro hu
      cases htu hu.symm
  · intro t ht
    rw [holds_enter] at ht
    obtain ⟨q, since, held, marked⟩ := i.held t ht
    refine ⟨q, _, held.concat (fun _ => ⟨?_, rfl⟩), ?_⟩
    · simpa using hs
    · intro hm
      rcases marked hm with marked | on
      · exact .inl marked.append
      · have htu : t ≠ u := by
          rintro rfl
          rw [hp] at on
          cases on
        rw [phase_enter, if_neg htu]
        exact .inr on
  · intro t ht
    rw [phase_enter] at ht
    split at ht
    · rcases hq with rfl | rfl <;> rcases ht with ht | ht <;> cases ht
    · rename_i htu
      apply i.others htu ht

/-- A thread that marks a lock which is taken marks it for the holder, unless that is itself. -/
theorem mark (i : Accounted h s) (hp : s.phase u = .marking) (hs : s.word ≠ .free)
    (hx : x.holds = s.holds u) (hq : x.phase = .waiting) :
  Accounted (h ++ [(u, .finds .marking s.word)]) (s.set u .contended x)
  := by
  constructor
  · intro t ht
    have on : (s.phase t).isContending = true := by
      rw [phase_set] at ht
      split at ht
      · rename_i htu
        rw [htu, hp]
        rfl
      · apply ht
    apply (i.taken t on).concat
    intro _ c
    nofun
  · intro t ht
    rw [holds_set_of_eq hx] at ht
    obtain ⟨q, since, held, _⟩ := i.held t ht
    refine ⟨q, _, held.concat (fun _ => ⟨?_, rfl⟩), ?_⟩
    · simpa using hs
    · intro _
      by_cases htu : t = u
      · right
        rw [phase_set, if_pos htu, hq]
        rfl
      · left
        right
        exact ⟨u, s.word, fun hu => htu hu.symm, List.mem_concat_self⟩
  · intro t ht
    rw [phase_set] at ht
    split at ht
    · rw [hq] at ht
      rcases ht with ht | ht <;> cases ht
    · rename_i htu
      apply i.others htu ht

/-- The holder frees the lock, and if it is then about to wake somebody, it counted down a word with
the mark. -/
theorem free (i : Accounted h s) (o : Exclusive s) (hh : s.holds u = true) (hx : x.holds = false)
    (hc : x.phase.isContending = false) (he : ∀ c, e ≠ .calls c)
    (hl : x.phase = .clearing ∨ x.phase = .waking →
      s.phase u = .clearing ∧ e = .finds .clearing s.word) :
  Accounted (h ++ [(u, e)]) (s.set u .free x)
  := by
  constructor
  · intro t ht
    rw [phase_set] at ht
    split at ht
    · rw [hc] at ht
      cases ht
    · apply (i.taken t ht).concat
      intro _
      apply he
  · intro t ht
    rw [holds_set] at ht
    split at ht
    · rw [hx] at ht
      cases ht
    · rename_i htu
      cases htu (o.unique t u ht hh)
  · intro t ht
    rw [phase_set] at ht
    split at ht
    · rename_i htu
      subst htu
      obtain ⟨hp, rfl⟩ := hl ht
      obtain ⟨p, hold, lowered, marked⟩ := i.lowered t (.inl hp)
      exact ⟨p, hold, lowered.concat (fun _ => ⟨_, rfl⟩), marked⟩
    · rename_i htu
      apply i.others htu ht

/-- A holder that counts down a word with the mark finds there what accounts for it. -/
theorem lower (i : Accounted h s) (o : Exclusive s) (hp : s.phase u = .unlocking)
    (hs : s.word ≠ .held) (hx : x.holds = s.holds u) (hq : x.phase = .clearing) :
  Accounted (h ++ [(u, .finds .unlocking s.word)]) (s.set u s.word.countDown x)
  := by
  have contended : s.word = .contended := (o.word_of_gives (.inl hp)).resolve_left hs
  have lowered : s.word.countDown ≠ .contended := by
    rw [contended]
    decide
  constructor
  · intro t ht
    rw [phase_set] at ht
    split at ht
    · rw [hq] at ht
      cases ht
    · apply (i.taken t ht).concat
      intro _ c
      nofun
  · intro t ht
    rw [holds_set_of_eq hx] at ht
    obtain ⟨q, since, held, _⟩ := i.held t ht
    refine ⟨q, _, held.concat (fun _ => ⟨rfl, ?_⟩), fun hm => absurd hm lowered⟩
    simpa using hs
  · intro t ht
    rw [phase_set] at ht
    split at ht
    · rename_i htu
      subst htu
      obtain ⟨q, since, held, marked⟩ := i.held t (o.gives t (.inl hp))
      have off : ¬ (s.phase t).isContending = true := by
        rw [hp]
        nofun
      refine ⟨q, since, ⟨h, s.word, [], held, rfl, hs, nofun⟩, ?_⟩
      apply (marked contended).resolve_right off
    · rename_i htu
      apply i.others htu ht

/-- Every access is accounted for. -/
theorem access (i : Accounted h s) (o : Exclusive s) (ha : (s.threads u).access s.word = some (w, x)) :
  Accounted (h ++ [(u, .finds (s.phase u) s.word)]) (s.set u w x)
  := by
  cases Contender.Access.of_access ha with
  | take hp hs =>
      apply i.take o hs
      · rcases hp with hp | hp
        · exact .inl hp
        · exact .inr (.inl hp)
      · intro hw
        cases hw
  | fail hp hs =>
      rw [show s.phase u = .trying from hp]
      apply i.enter (p := .outside)
      · rw [phase, hp]
        rfl
      · rintro (h | h) <;> cases h
      · exact ⟨by simpa using hs, rfl⟩
      · intro _ c h
        cases h
  | await hp hs =>
      rw [show s.phase u = .locking from hp]
      apply i.wait (p := .waiting) hp (by simp [hs]) (.inl rfl)
  | hurry hp hs _ =>
      rw [show s.phase u = .locking from hp]
      apply i.wait (p := .marking) hp hs (.inr rfl)
  | takeMarked hp hs => apply i.take o hs (.inr (.inr hp)) (fun _ => hp)
  | mark hp hs =>
      rw [show s.phase u = .marking from hp]
      apply i.mark hp hs
      · rfl
      · rfl
  | giveBack hp _ =>
      apply i.free o (o.gives u (.inl hp)) rfl rfl (fun c h => by cases h)
      rintro (hx | hx) <;> cases hx
  | lower hp hs =>
      rw [show s.phase u = .unlocking from hp]
      apply i.lower o hp hs
      · rfl
      · rfl
  | clear hp =>
      rw [show s.phase u = .clearing from hp]
      apply i.free o (o.gives u (.inr hp)) rfl rfl (fun c h => by cases h)
      intro _
      exact ⟨hp, rfl⟩

/-- Every step is accounted for. -/
theorem step (i : Accounted h s) (o : Exclusive s) (k : Step s u e s') :
  Accounted (h ++ [(u, e)]) s'
  := by
  cases k with
  | @call c hc =>
      simp only [Contender.mayCall, Bool.and_eq_true, beq_iff_eq] at hc
      have hp : s.phase u = .outside := hc.1
      apply i.enter (p := c.start)
      · rw [hp]
        cases c <;> rfl
      · cases c <;> simp [LockCall.start]
      · exact ⟨rfl, rfl⟩
      · rw [hp]
        intro h
        cases h
  | access ha => apply i.access o ha
  | sleep hp _ =>
      apply i.enter
      · rw [hp]
        rfl
      · rintro (h | h) <;> cases h
      · exact ⟨rfl, rfl⟩
      · intro _ c h
        cases h
  | resume hp =>
      apply i.enter
      · rcases hp with hp | hp <;> rw [hp] <;> rfl
      · rintro (h | h) <;> cases h
      · exact ⟨rfl, rfl⟩
      · intro _ c h
        cases h
  | @wake v hp hv =>
      -- The thread that is woken stays on the contended way.
      apply i.pass (word_enter.trans word_enter)
      · simp
      · intro t
        rw [phase_enter, phase_enter]
        split
        · rename_i htu
          rw [htu, hp]
          rfl
        · split
          · rename_i htv
            rw [htv, hv]
            rfl
          · rfl
      · intro t ht
        rw [phase_enter, phase_enter] at ht
        split at ht
        · rcases ht with ht | ht <;> cases ht
        · rename_i htu
          split at ht
          · rcases ht with ht | ht <;> cases ht
          · exact ⟨htu, ht⟩
      · exact ⟨rfl, rfl⟩
      · intro _ c h
        cases h
  | wakeNobody hp _ =>
      apply i.enter
      · rw [hp]
        rfl
      · rintro (h | h) <;> cases h
      · exact ⟨rfl, rfl⟩
      · intro _ c h
        cases h

theorem of_run (r : system.Run h s) :
  Accounted h s
  := by
  apply r.induct
  · rintro _ rfl
    exact ⟨nofun, nofun, fun t ht => by rcases ht with ht | ht <;> cases ht⟩
  · intro h s t e s' r i k
    apply i.step (.of_reachable r.reachable) k

end Accounted

/-! ### Without contention -/

/-- The word has no mark, and nobody is on the contended way or behind a word with the mark. -/
structure Calm (s : LockState) : Prop where
  word : s.word ≠ .contended
  phase : ∀ t, (s.phase t).isContending = false ∧ s.phase t ≠ .clearing ∧ s.phase t ≠ .waking

variable {s s' : LockState} {h since : History LockEvent} {t : ThreadId} {w : LockWord}
  {x : Contender} {p : LockPhase} {e : LockEvent}

theorem Calm.set (c : Calm s) (hw : w ≠ .contended)
    (hx : x.phase.isContending = false ∧ x.phase ≠ .clearing ∧ x.phase ≠ .waking) :
  Calm (s.set t w x)
  := by
  refine ⟨hw, ?_⟩
  intro u
  rw [phase_set]
  split
  · exact hx
  · apply c.phase

/-- Where no call finds the lock taken, nothing is asked of the system. -/
theorem Calm.step (c : Calm s) (o : Exclusive s) (k : Step s t e s')
    (he : ∀ w, e = .finds .locking w → w = .free) :
  Calm s' ∧ e.isSystemCall = false
  := by
  obtain ⟨contending, clearing, waking⟩ := c.phase t
  cases k with
  | @call a _ =>
      refine ⟨c.set c.word ?_, rfl⟩
      cases a <;> simp [Contender.call, LockCall.start, LockPhase.isContending]
  | access ha =>
      refine ⟨?_, rfl⟩
      cases Contender.Access.of_access ha with
      | take _ _ => apply c.set (by decide) (by simp [Contender.holder, LockPhase.isContending])
      | fail _ _ => apply c.set c.word (by simp [LockPhase.isContending])
      | await _ hs => cases c.word hs
      | hurry hp hs _ => cases hs (he _ (by rw [LockState.phase, hp]))
      | takeMarked hp _ =>
          rw [LockState.phase, hp] at contending
          cases contending
      | mark hp _ =>
          rw [LockState.phase, hp] at contending
          cases contending
      | giveBack _ _ => apply c.set (by decide) (by simp [LockPhase.isContending])
      | lower hp hs => cases c.word ((o.word_of_gives (.inl hp)).resolve_left hs)
      | clear hp => cases clearing hp
  | sleep hp _ =>
      rw [hp] at contending
      cases contending
  | resume hp => rcases hp with hp | hp <;> rw [hp] at contending <;> cases contending
  | wake hp _ => cases waking hp
  | wakeNobody hp _ => cases waking hp

theorem Calm.of_path (c : Calm s) (r : system.Reachable s) (p : system.Path s h s')
    (hf : ∀ t w, (t, .finds .locking w) ∈ h → w = .free) :
  Calm s' ∧ ∀ x ∈ h, x.2.isSystemCall = false
  := by
  obtain ⟨g, r⟩ := r
  induction p with
  | refl => exact ⟨c, nofun⟩
  | step p k ih =>
      obtain ⟨c, quiet⟩ := ih (fun t w hw => hf t w (List.mem_append_left _ hw))
      obtain ⟨c, none⟩ := c.step (.of_reachable (r.trans p).reachable) k (by
        rintro w rfl
        apply hf _ w List.mem_concat_self)
      refine ⟨c, ?_⟩
      intro x hx
      rcases List.mem_append.mp hx with hx | hx
      · apply quiet x hx
      · obtain rfl := List.mem_singleton.mp hx
        apply none

/-! ### Holds -/

/-- A thread that counts down the word finds the mark only if the mark is accounted for. -/
theorem markedSince_of_finds (r : system.Run h s) (k : Step s t (.finds .unlocking w) s')
    (hw : w ≠ .held) (d : HeldSince t p since h) :
  MarkedSince t p since
  := by
  generalize he : LockEvent.finds .unlocking w = e at k
  cases k with
  | access ha =>
      obtain ⟨hp, rfl⟩ := LockEvent.finds.inj he
      have exclusive := Exclusive.of_reachable r.reachable
      have contended := (exclusive.word_of_gives (.inl hp.symm)).resolve_left hw
      obtain ⟨q, since', held, marked⟩ := (Accounted.of_run r).held t (exclusive.gives t (.inl hp.symm))
      obtain ⟨rfl, rfl⟩ := d.unique held
      apply (marked contended).resolve_right
      rw [← hp]
      nofun
  | call _ => cases he
  | sleep _ _ => cases he
  | resume _ => cases he
  | wake _ _ => cases he
  | wakeNobody _ _ => cases he

/-- A wait of a thread is part of a call on the contended way. -/
theorem foundTaken_of_isWait (r : system.Run h s) (k : Step s t e s') (he : e.isWait = true) :
  FoundTaken t h
  := by
  apply (Accounted.of_run r).taken
  cases k with
  | sleep hp _ =>
      rw [hp]
      rfl
  | resume hp => rcases hp with hp | hp <;> rw [hp] <;> rfl
  | call _ => cases he
  | access _ => cases he
  | wake _ _ => cases he
  | wakeNobody _ _ => cases he

theorem lowered_of_wakes {v : Option ThreadId} (r : system.Run h s) (k : Step s t (.wakes v) s') :
  ∃ p hold, LoweredSince t p hold h ∧ MarkedSince t p hold
  := by
  apply (Accounted.of_run r).lowered
  right
  cases k with
  | wake hp _ => exact hp
  | wakeNobody hp _ => exact hp

theorem word_of_calm (r : system.Reachable s) (c : Calm s) :
  s.word = .free ∨ s.word = .held
  := by
  rcases (Exclusive.of_reachable r).known with hw | hw | hw
  · exact .inl hw
  · exact .inr hw
  · cases c.word hw

/-- Only a call that found the lock taken waits in the system. Only a thread that counted down a word
with the mark wakes anybody, and then another thread had set the mark while the lock was held, or the
holder had taken the lock with it. So if every call finds the lock free at once, then the word never
has the mark and nothing is asked of the system, from the start on, and again once the lock is free
and nobody contends for it any more. And a thread that took the lock at once, and gives it back before
another one marked it, finds no mark, whatever happened before. -/
theorem no_needless_system_call (r : system.Run h s) :
  (∀ t e before after, h = before ++ (t, e) :: after → e.isWait = true → FoundTaken t before)
    ∧ (∀ t v before after, h = before ++ (t, .wakes v) :: after →
      ∃ p hold, LoweredSince t p hold before ∧ MarkedSince t p hold)
    ∧ ((∀ t w, (t, .finds .locking w) ∈ h → w = .free) →
      (s.word = .free ∨ s.word = .held) ∧ ∀ x ∈ h, x.2.isSystemCall = false)
    ∧ (s.word = .free → (∀ t, (s.phase t).isContending = false ∧ s.phase t ≠ .waking) →
      ∀ h' s', system.Path s h' s' → (∀ t w, (t, .finds .locking w) ∈ h' → w = .free) →
        (s'.word = .free ∨ s'.word = .held) ∧ ∀ x ∈ h', x.2.isSystemCall = false)
    ∧ ∀ t since w before after, HeldSince t .locking since before →
      h = before ++ (t, .finds .unlocking w) :: after →
      (∀ u w', u ≠ t → (u, .finds .marking w') ∉ since) → w = .held
  := by
  refine ⟨?_, ?_, ?_, ?_, ?_⟩
  · rintro t e before after rfl he
    obtain ⟨_, _, r, k, _⟩ := r.split_cons
    apply foundTaken_of_isWait r k he
  · rintro t v before after rfl
    obtain ⟨_, _, r, k, _⟩ := r.split_cons
    apply lowered_of_wakes r k
  · intro hf
    obtain ⟨s₀, rfl, p⟩ := id r
    have start : Calm {} := ⟨by decide, fun _ => ⟨rfl, nofun, nofun⟩⟩
    obtain ⟨calm, quiet⟩ := start.of_path (System.Run.reachable ⟨_, rfl, .refl⟩) p hf
    exact ⟨word_of_calm r.reachable calm, quiet⟩
  · intro hw hp h' s' p hf
    have exclusive := Exclusive.of_reachable r.reachable
    have calm : Calm s := by
      refine ⟨by rw [hw]; decide, fun t => ⟨(hp t).1, ?_, (hp t).2⟩⟩
      intro hc
      rcases exclusive.word_of_gives (.inr hc) with hw' | hw' <;> rw [hw] at hw' <;> cases hw'
    obtain ⟨calm, quiet⟩ := calm.of_path r.reachable p hf
    exact ⟨word_of_calm (r.trans p).reachable calm, quiet⟩
  · rintro t since w before after held rfl unmarked
    obtain ⟨_, _, r, k, _⟩ := r.split_cons
    by_contra hw
    rcases markedSince_of_finds r k hw held with hp | ⟨u, w', hu, hm⟩
    · cases hp
    · apply unmarked u w' hu hm

/-- Two threads contended for a lock, one woke the other, and both are done. -/
theorem exists_run_settled :
  ∃ h s, system.Run h s ∧ (0, .wakes (some 1)) ∈ h ∧ s.word = .free ∧ ∀ t, s.phase t = .outside
  := by
  have r : system.Run [] {} := ⟨{}, rfl, .refl⟩
  have r := r.trans (path_lock (t := 0) rfl rfl)
  have r := r.step (Step.call (t := 1) (c := .lock) rfl)
  have r := r.step (Step.access (t := 1) rfl)
  have r := r.step (Step.access (t := 1) rfl)
  have r := r.step (Step.sleep (t := 1) rfl rfl)
  have r := r.step (Step.call (t := 0) (c := .unlock) rfl)
  have r := r.step (Step.access (t := 0) rfl)
  have r := r.step (Step.access (t := 0) rfl)
  have r := r.step (Step.wake (t := 0) (u := 1) rfl rfl)
  have r := r.step (Step.access (t := 1) rfl)
  have r := r.step (Step.call (t := 1) (c := .unlock) rfl)
  have r := r.step (Step.access (t := 1) rfl)
  have r := r.step (Step.access (t := 1) rfl)
  obtain ⟨h, s, r, woke, hw, h1, out⟩ : ∃ h s, system.Run h s ∧ (0, .wakes (some 1)) ∈ h
      ∧ s.word = .free ∧ s.phase 1 = .waking ∧ ∀ t, t ≠ 1 → s.phase t = .outside := by
    refine ⟨_, _, r, by simp, rfl, rfl, ?_⟩
    intro t ht
    by_cases h0 : t = 0
    · rw [h0]
      rfl
    · simp only [phase_set, phase_enter, h0, ht, if_false]
      rfl
  have nobody : ∀ t, s.phase t ≠ .asleep := by
    intro t
    by_cases ht : t = 1
    · rw [ht, h1]
      nofun
    · rw [out t ht]
      nofun
  refine ⟨_, _, r.step (Step.wakeNobody h1 nobody), List.mem_append_left _ woke, hw, ?_⟩
  intro t
  rw [phase_enter]
  split
  · rfl
  · apply out t
    assumption

/-- A thread that wakes another one had taken the lock without the mark, which the other one set. Once
they are done, a third thread locks and unlocks without asking anything of the system. -/
theorem no_needless_system_call_woken :
  (∃ h s, system.Run (h ++ [(0, .wakes (some 1))]) s
      ∧ ∃ p hold, LoweredSince 0 p hold h ∧ MarkedSince 0 p hold)
    ∧ ∃ h s h' s', system.Run h s ∧ (0, .wakes (some 1)) ∈ h
      ∧ h' = [(2, .calls .lock), (2, .finds .locking .free), (2, .calls .unlock),
        (2, .finds .unlocking .held)]
      ∧ system.Path s h' s' ∧ ∀ x ∈ h', x.2.isSystemCall = false
  := by
  constructor
  · obtain ⟨h, s, r, _, waking, asleep, _⟩ := exists_run_released
    have r := r.step (Step.wake waking asleep)
    obtain ⟨_, wakes, _⟩ := no_needless_system_call r
    exact ⟨h, _, r, wakes 0 (some 1) h [] rfl⟩
  · obtain ⟨h, s, r, woke, hw, out⟩ := exists_run_settled
    obtain ⟨s₁, lock, holder, held⟩ : ∃ s₁,
        system.Path s [(2, .calls .lock), (2, .finds .locking .free)] s₁
          ∧ s₁.threads 2 = .holder ∧ s₁.word = .held :=
      ⟨_, path_lock (out 2) hw, by simp [threads_set], by rw [hw]; rfl⟩
    have unlock := path_call (s := s₁) (t := 2) (c := .unlock) (by rw [holder]; rfl)
      (by rw [holder, held]; rfl)
    rw [holder, held] at unlock
    have p := lock.trans unlock
    obtain ⟨_, _, _, again, _⟩ := no_needless_system_call r
    have idle : ∀ t, (s.phase t).isContending = false ∧ s.phase t ≠ .waking := by
      intro t
      rw [out t]
      exact ⟨rfl, nofun⟩
    have quiet := again hw idle _ _ p (by
      intro t w hf
      have first : t = 2 ∧ w = .free := by simpa [Contender.call, LockCall.start] using hf
      exact first.2)
    exact ⟨h, s, _, _, r, woke, rfl, p, quiet.2⟩

end LockState

end SyncLayer
