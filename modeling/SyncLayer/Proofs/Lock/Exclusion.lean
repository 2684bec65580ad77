import SyncLayer.Proofs.Lock.Protocol

/-!
# At most one thread holds a lock

The word of a lock is one of three, and it says truly whether somebody holds the lock, also
between the two accesses of a thread that gives back a marked lock: that thread has counted the
word down, but it holds the lock until it clears the word. So a thread that finds the word free
is the only one that then holds the lock.
-/

namespace SyncLayer.LockState

/-- What holds around a lock at every time: the word is one of three; at most one thread holds
the lock; the word is free exactly if none does; and whoever gives the lock back holds it. -/
structure Exclusive (s : LockState) : Prop where
  known : s.word = .free ∨ s.word = .held ∨ s.word = .contended
  unique : ∀ t u, s.holds t = true → s.holds u = true → t = u
  free_iff : s.word = .free ↔ ∀ t, s.holds t = false
  gives : ∀ t, s.phase t = .unlocking ∨ s.phase t = .clearing → s.holds t = true

namespace Exclusive

variable {s s' : LockState} {t : ThreadId} {w : LockWord} {x : Contender} {p : LockPhase}
  {e : LockEvent}

/-- A thread may take a lock that is free. -/
theorem take (i : Exclusive s) (hs : s.word = .free) (hw : w = .held ∨ w = .contended) :
  Exclusive (s.set t w .holder)
  := by
  have hn := i.free_iff.mp hs
  have only : ∀ u, (s.set t w .holder).holds u = true → u = t := by
    intro u hu
    rw [holds_set] at hu
    by_contra hut
    rw [if_neg hut, hn u] at hu
    cases hu
  constructor
  · right
    apply hw
  · intro u v hu hv
    rw [only u hu, only v hv]
  · have hf : w ≠ .free := by
      rcases hw with rfl | rfl
      · apply LockWord.held_ne_free
      · apply LockWord.contended_ne_free
    constructor
    · intro h
      apply absurd h hf
    · intro h
      have ht := h t
      rw [holds_set, if_pos rfl] at ht
      cases ht
  · intro u hu
    rw [phase_set] at hu
    by_cases hut : u = t
    · rw [if_pos hut] at hu
      rcases hu with hu | hu
      · cases hu
      · cases hu
    · rw [if_neg hut] at hu
      have h := i.gives u hu
      rw [hn u] at h
      cases h

/-- A thread that holds the lock or does not, and goes on to do so, may write to the word, but
not free it or take it that way. -/
theorem stay (i : Exclusive s) (hw : w = .free ∨ w = .held ∨ w = .contended)
    (hf : w = .free ↔ s.word = .free) (hx : x.holds = s.holds t)
    (hp : x.phase = .unlocking ∨ x.phase = .clearing → x.holds = true) :
  Exclusive (s.set t w x)
  := by
  have same (u : ThreadId) : (s.set t w x).holds u = s.holds u := holds_set_of_eq hx
  constructor
  · apply hw
  · intro u v hu hv
    rw [same] at hu hv
    apply i.unique u v hu hv
  · simp only [word_set, same]
    apply hf.trans i.free_iff
  · intro u hu
    rw [holds_set]
    rw [phase_set] at hu
    split
    · rename_i h
      rw [if_pos h] at hu
      apply hp hu
    · rename_i h
      rw [if_neg h] at hu
      apply i.gives u hu

/-- The thread that holds the lock may free it. -/
theorem giveBack (i : Exclusive s) (ht : s.holds t = true) (hx : x.holds = false)
    (hp : ¬ (x.phase = .unlocking ∨ x.phase = .clearing)) :
  Exclusive (s.set t .free x)
  := by
  have none : ∀ u, (s.set t .free x).holds u = false := by
    intro u
    rw [holds_set]
    split
    · apply hx
    · rename_i h
      by_contra hu
      apply h (i.unique u t (Bool.not_eq_false _ ▸ hu) ht)
  constructor
  · left
    rfl
  · intro u v hu _
    rw [none u] at hu
    cases hu
  · simp [none]
  · intro u hu
    rw [phase_set] at hu
    split at hu
    · apply absurd hu hp
    · rename_i h
      have hh := i.gives u hu
      have hn := none u
      rw [holds_set, if_neg h, hh] at hn
      cases hn

/-- A thread may go to a phase in which it does not give the lock back. -/
theorem enter (i : Exclusive s) (hp : ¬ (p = .unlocking ∨ p = .clearing)) :
  Exclusive (s.enter t p)
  := by
  apply i.stay i.known Iff.rfl
  · rfl
  · intro h
    apply absurd h hp

/-- A thread that gives the lock back finds the word marked or not, but not free. -/
theorem word_of_gives (i : Exclusive s) (hp : s.phase t = .unlocking ∨ s.phase t = .clearing) :
  s.word = .held ∨ s.word = .contended
  := by
  rcases i.known with h | h
  · have ht := i.free_iff.mp h t
    rw [i.gives t hp] at ht
    cases ht
  · apply h

/-- Every access keeps the word and the holder in order. -/
theorem access (i : Exclusive s) (h : (s.threads t).access s.word = some (w, x)) :
  Exclusive (s.set t w x)
  := by
  cases Contender.Access.of_access h with
  | take _ hs => apply i.take hs (.inl rfl)
  | fail _ _ =>
      apply i.stay i.known Iff.rfl
      · rfl
      · simp
  | await _ _ =>
      apply i.stay i.known Iff.rfl
      · rfl
      · simp
  | hurry _ _ _ =>
      apply i.stay i.known Iff.rfl
      · rfl
      · simp
  | takeMarked _ hs => apply i.take hs (.inr rfl)
  | mark _ hs =>
      apply i.stay (.inr (.inr rfl))
      · simp [hs]
      · rfl
      · simp
  | giveBack hp _ =>
      apply i.giveBack (i.gives t (.inl hp)) rfl
      simp
  | lower hp hs =>
      -- The word was marked, so it reads now as if the lock were held without the mark.
      have hc : s.word = .contended := by
        rcases i.word_of_gives (.inl hp) with hs' | hs'
        · apply absurd hs' hs
        · apply hs'
      have hw : s.word.countDown = .held := by
        rw [hc]
        rfl
      rw [hw]
      apply i.stay (.inr (.inl rfl))
      · simp [hc]
      · rfl
      · intro _
        apply i.gives t (.inl hp)
  | clear hp =>
      apply i.giveBack (i.gives t (.inr hp)) rfl
      simp

/-- Every step keeps the word and the holder in order. -/
theorem step (i : Exclusive s) (k : Step s t e s') :
  Exclusive s'
  := by
  cases k with
  | @call c hc =>
      apply i.stay i.known Iff.rfl
      · rfl
      · intro hp
        cases c with
        | lock => simp [Contender.call, LockCall.start] at hp
        | tryLock => simp [Contender.call, LockCall.start] at hp
        | unlock =>
            simp only [Contender.mayCall, Bool.and_eq_true] at hc
            simpa [Contender.call] using hc.2
  | access h => apply i.access h
  | sleep _ _ => apply i.enter (by simp)
  | resume _ => apply i.enter (by simp)
  | wake _ _ => apply (i.enter (by simp)).enter (by simp)
  | wakeNobody _ _ => apply i.enter (by simp)

/-- A lock that is free at first is in order. -/
theorem start :
  Exclusive {}
  := by
  constructor
  · left
    rfl
  · intro _ _ h
    cases h
  · simp [LockState.holds]
  · intro _ h
    rcases h with h | h
    · cases h
    · cases h

theorem of_reachable (r : system.Reachable s) :
  Exclusive s
  := by
  apply r.invariant
  · rintro _ rfl
    apply start
  · intro _ _ _ _ i k
    apply i.step k

end Exclusive

variable {s : LockState} {h : History LockEvent}

/-- At most one thread holds a lock at any time, from the access that found the word free to the
one that left it free. The word is one of three, and it is free exactly if nobody holds the lock;
nobody counts down a free word. So whenever no thread is in a call and none holds the lock, a
call that does not block takes it. -/
theorem mutual_exclusion (r : system.Run h s) :
  (∀ t u, holdsAfter t h = true → holdsAfter u h = true → t = u)
    ∧ (s.word = .free ∨ s.word = .held ∨ s.word = .contended)
    ∧ (s.word = .free ↔ ∀ t, holdsAfter t h = false)
    ∧ (∀ t, s.phase t = .unlocking → s.word ≠ .free)
    ∧ ((∀ t, s.phase t = .outside) → (∀ t, holdsAfter t h = false) →
      s.word = .free ∧ ∀ t,
        (∃ s', system.Path s [(t, .calls .tryLock), (t, .finds .trying .free)] s'
          ∧ s'.holds t = true)
        ∧ ∀ e s', system.Path s [(t, .calls .tryLock), (t, e)] s' → e = .finds .trying .free)
  := by
  have i := Exclusive.of_reachable r.reachable
  simp only [← holds_of_run r]
  refine ⟨i.unique, i.known, i.free_iff, ?_, ?_⟩
  · intro t hp hw
    have ht := i.free_iff.mp hw t
    rw [i.gives t (.inl hp)] at ht
    cases ht
  · intro hp hn
    have hw := i.free_iff.mpr hn
    use hw
    intro t
    constructor
    · have p := path_tryLock (hp t)
      rw [hw] at p
      exact ⟨_, p, by simp [holds_set, LockWord.tryTake, Contender.holder]⟩
    · intro e s' p
      rw [← hw]
      apply eq_finds_of_path_tryLock p

/-- A thread that gave back a marked lock is about to wake another one, which is asleep. -/
theorem exists_run_released :
  ∃ h s, system.Run h s ∧ s.word = .free ∧ s.phase 0 = .waking ∧ s.phase 1 = .asleep
    ∧ s.phase 2 = .outside
  := by
  have r : system.Run [] {} := ⟨{}, rfl, .refl⟩
  have r := r.trans (path_lock (t := 0) rfl rfl)
  have r := r.step (Step.call (t := 1) (c := .lock) rfl)
  have r := r.step (Step.access (t := 1) rfl)
  have r := r.step (Step.access (t := 1) rfl)
  have r := r.step (Step.sleep (t := 1) rfl rfl)
  have r := r.step (Step.call (t := 0) (c := .unlock) rfl)
  have r := r.step (Step.access (t := 0) rfl)
  have r := r.step (Step.access (t := 0) rfl)
  exact ⟨_, _, r, rfl, rfl, rfl, rfl⟩

/-- A third thread takes the lock before the sleeper is woken. -/
theorem mutual_exclusion_overtaken :
  ∃ h s, system.Run h s ∧ s.phase 1 = .asleep ∧ holdsAfter 2 h = true
    ∧ (∀ t, holdsAfter t h = true → t = 2) ∧ s.word ≠ .free
  := by
  obtain ⟨h, s, r, hw, _, h1, h2⟩ := exists_run_released
  have p := path_lock h2 hw
  have r' := r.trans p
  have held : holdsAfter 2 (h ++ [(2, .calls .lock), (2, .finds .locking .free)]) = true := by
    rw [← holds_of_run r']
    rfl
  obtain ⟨unique, _, free_iff, _⟩ := mutual_exclusion r'
  refine ⟨_, _, r', h1, held, ?_, ?_⟩
  · intro t ht
    apply unique t 2 ht held
  · intro hf
    have hn := free_iff.mp hf 2
    rw [held] at hn
    cases hn

end SyncLayer.LockState
