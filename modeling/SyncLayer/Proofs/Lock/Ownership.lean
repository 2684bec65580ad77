import SyncLayer.Proofs.Lock.Reentry

/-!
# Whose a recursive lock is

Only the thread that holds the lock inside writes the owner and the depth, and it writes one
after the other. In between they may not fit together: there is an owner while the depth is zero,
both when the lock is acquired and when it is released for the last time. But the owner is nobody
or the thread that holds the lock inside, so that no other thread ever finds itself to be the
owner. And a thread that has acquired the lock finds a depth that is its number of acquisitions.
-/

namespace SyncLayer

namespace ClaimPhase

variable {t u : ThreadId} {l l' : RecursiveLock} {p p' : ClaimPhase} {e : ClaimEvent} {n : Nat}

/-- How the owner and the depth fit the thread that holds the lock inside and has a number of
acquisitions, by where it stands. -/
def Fits (t : ThreadId) (l : RecursiveLock) (n : Nat) : ClaimPhase → Prop
  | outside | reading _ | comparing _ | counting | leaving =>
    l.owner = some t ∧ l.depth = n ∧ 0 < n
  | deepening d => l.owner = some t ∧ l.depth = n ∧ 0 < n ∧ d = n
  | lowering d => l.owner = some t ∧ l.depth = n ∧ 1 < n ∧ d = n
  | checking | signing => l.owner = none ∧ l.depth = 0 ∧ n = 0
  | starting => l.owner = some t ∧ l.depth = 0 ∧ n = 0
  | emptying => l.owner = some t ∧ l.depth = 1 ∧ n = 1
  | unsigning => l.owner = some t ∧ l.depth = 0 ∧ n = 1
  | opening => l.owner = none ∧ l.depth = 0 ∧ n = 1
  | entering _ => False

/-- A thread that does not hold the lock inside stands somewhere. -/
def IsAway : ClaimPhase → Prop
  | outside | reading _ | comparing _ | entering _ => True
  | _ => False

/-- The owner is nobody or the thread that holds the lock inside. -/
theorem Fits.owner (i : p.Fits t l n) :
  l.owner = none ∨ l.owner = some t
  := by
  cases p with
  | checking => exact .inl i.1
  | signing => exact .inl i.1
  | opening => exact .inl i.1
  | entering _ => cases i
  | outside => exact .inr i.1
  | reading _ => exact .inr i.1
  | comparing _ => exact .inr i.1
  | counting => exact .inr i.1
  | leaving => exact .inr i.1
  | deepening _ => exact .inr i.1
  | lowering _ => exact .inr i.1
  | starting => exact .inr i.1
  | emptying => exact .inr i.1
  | unsigning => exact .inr i.1

/-- Where a thread goes on that knows the lock to be its own. -/
theorem Fits.decide (c : Claim) (i : outside.Fits t l n) :
  (c.decide true).Fits t l n
  := by
  cases c with
  | acquire => exact i
  | tryAcquire => exact i
  | ask => exact i

/-- Where a thread goes on that knows the lock not to be its own. -/
theorem isAway_decide (c : Claim) :
  (c.decide false).IsAway
  := by
  cases c with
  | acquire => trivial
  | tryAcquire => trivial
  | ask => trivial

/-- What the thread that holds the lock inside loads or stores keeps the lock fit, and does not
touch the lock inside before it releases that. -/
theorem Access.fits (a : Access t l p e l' p') (hp : p ≠ .opening) (i : p.Fits t l n) :
  p'.Fits t l' (e.tally n) ∧ l'.lock = l.lock
  := by
  cases a with
  | read _ => exact ⟨i, rfl⟩
  | readNone h =>
      obtain ⟨_, rfl, hn⟩ := i
      apply absurd h (Nat.ne_of_gt hn)
  | compare =>
      have ho : (l.owner == some t) = true := by
        rw [i.1]
        apply beq_self_eq_true
      rw [ho]
      exact ⟨Fits.decide _ i, rfl⟩
  | count =>
      obtain ⟨ho, hd, hn⟩ := i
      exact ⟨⟨ho, hd, hn, hd⟩, rfl⟩
  | deepen _ =>
      obtain ⟨ho, _, _, rfl⟩ := i
      exact ⟨⟨ho, rfl, Nat.succ_pos _⟩, rfl⟩
  | overflow _ =>
      obtain ⟨ho, hd, hn, _⟩ := i
      exact ⟨⟨ho, hd, hn⟩, rfl⟩
  | check _ => exact ⟨i, rfl⟩
  | corrupt h => apply absurd i.2.1 h
  | sign =>
      obtain ⟨_, hd, hn⟩ := i
      exact ⟨⟨rfl, hd, hn⟩, rfl⟩
  | start =>
      obtain ⟨ho, _, rfl⟩ := i
      exact ⟨⟨ho, rfl, Nat.one_pos⟩, rfl⟩
  | leaveUnowned h =>
      obtain ⟨_, rfl, hn⟩ := i
      apply absurd h (Nat.ne_of_gt hn)
  | leave h =>
      obtain ⟨ho, rfl, _⟩ := i
      exact ⟨⟨ho, rfl, h, rfl⟩, rfl⟩
  | leaveLast h =>
      obtain ⟨ho, rfl, _⟩ := i
      exact ⟨⟨ho, h, h⟩, rfl⟩
  | lower =>
      obtain ⟨ho, _, hn, rfl⟩ := i
      exact ⟨⟨ho, rfl, Nat.sub_pos_of_lt hn⟩, rfl⟩
  | empty =>
      obtain ⟨ho, _, hn⟩ := i
      exact ⟨⟨ho, rfl, hn⟩, rfl⟩
  | unsign =>
      obtain ⟨_, hd, hn⟩ := i
      exact ⟨⟨rfl, hd, hn⟩, rfl⟩
  | unlock => apply absurd rfl hp

/-- The thread that holds the lock inside ends in no fault, unless it has acquired the lock as
often as the depth can count. -/
theorem Access.overflow_of_faults {f : Fault} (a : Access t l p (.faults f) l' p')
    (i : p.Fits t l n) :
  f = .additionOverflow ∧ UInt64.size ≤ n + 1
  := by
  cases a with
  | overflow h =>
      obtain ⟨_, _, _, rfl⟩ := i
      exact ⟨rfl, Nat.le_of_not_lt h⟩
  | corrupt h => apply absurd i.2.1 h
  | leaveUnowned h =>
      obtain ⟨_, rfl, hn⟩ := i
      apply absurd h (Nat.ne_of_gt hn)

/-- A thread that is not the owner and does not hold the lock inside changes nothing, and finds
the lock not to be its own. -/
theorem Access.away (a : Access t l p e l' p') (hp : p.IsAway) (ho : l.owner ≠ some t) :
  l' = l ∧ p'.IsAway ∧ (e = .loads ∨ e = .tests false)
  := by
  cases a with
  | read _ => exact ⟨rfl, trivial, .inl rfl⟩
  | readNone _ => exact ⟨rfl, isAway_decide _, .inr rfl⟩
  | compare =>
      have hb : (l.owner == some t) = false := by
        apply beq_false_of_ne ho
      rw [hb]
      exact ⟨rfl, isAway_decide _, .inr rfl⟩
  | count => cases hp
  | deepen _ => cases hp
  | overflow _ => cases hp
  | check _ => cases hp
  | corrupt _ => cases hp
  | sign => cases hp
  | start => cases hp
  | leaveUnowned _ => cases hp
  | leave _ => cases hp
  | leaveLast _ => cases hp
  | lower => cases hp
  | empty => cases hp
  | unsign => cases hp
  | unlock => cases hp

end ClaimPhase

namespace RecursiveState

variable {s s' s'' : RecursiveState} {t u : ThreadId} {l : RecursiveLock} {p : ClaimPhase}
  {n : Nat} {e : ClaimEvent} {h h' : History ClaimEvent}

/-- What holds around a recursive lock at every time: the lock inside is free exactly if no thread
holds it; then there is no owner and the depth is zero; the lock fits the thread that holds the
lock inside; and the others have acquired nothing. -/
structure Consistent (s : RecursiveState) : Prop where
  free_iff : s.lock.lock.word = .free ↔ s.holder = none
  vacant : s.holder = none → s.lock.owner = none ∧ s.lock.depth = 0
  fits : ∀ t, s.holder = some t → (s.phase t).Fits t s.lock (s.count t)
  away : ∀ t, s.holder ≠ some t → (s.phase t).IsAway ∧ s.count t = 0

namespace Consistent

/-- A thread with an acquisition holds the lock inside. -/
theorem holder_of_pos (i : Consistent s) (hc : 0 < s.count t) :
  s.holder = some t
  := by
  by_contra ht
  obtain ⟨_, hz⟩ := i.away t ht
  rw [hz] at hc
  cases hc

/-- While a thread has acquired the lock, the lock inside is not free. -/
theorem word_ne_free (i : Consistent s) (hc : 0 < s.count t) :
  s.lock.lock.word ≠ .free
  := by
  intro hw
  have ht := i.holder_of_pos hc
  rw [i.free_iff.mp hw] at ht
  cases ht

/-- A thread that does not hold the lock inside is not the owner. -/
theorem owner_ne (i : Consistent s) (ht : s.holder ≠ some t) :
  s.lock.owner ≠ some t
  := by
  intro ho
  cases hu : s.holder with
  | none =>
      rw [(i.vacant hu).1] at ho
      cases ho
  | some u =>
      rcases (i.fits u hu).owner with hn | hs
      · rw [hn] at ho
        cases ho
      · rw [hs] at ho
        rw [hu, ho] at ht
        apply ht rfl

/-- Only the thread that holds the lock inside does anything but load. -/
theorem holder_of_access (i : Consistent s) (a : (s.phase t).Access t s.lock e l p)
    (hl : e ≠ .loads) (hf : e ≠ .tests false) :
  s.holder = some t
  := by
  by_contra ht
  obtain ⟨_, _, he⟩ := a.away (i.away t ht).1 (i.owner_ne ht)
  rcases he with he | he
  · apply hl he
  · apply hf he

/-! ### Steps keep a recursive lock in order -/

/-- The thread that holds the lock inside may do what keeps the lock fit and that lock held. -/
theorem stay (i : Consistent s) (ht : s.holder = some t) (hl : l.lock = s.lock.lock)
    (hf : p.Fits t l n) :
  Consistent (s.move t l s.holder p n)
  := by
  constructor
  · change l.lock.word = .free ↔ s.holder = none
    rw [hl]
    apply i.free_iff
  · intro hn
    change s.holder = none at hn
    rw [hn] at ht
    cases ht
  · intro u hu
    change s.holder = some u at hu
    rw [ht] at hu
    cases hu
    rw [phase_move, if_pos rfl, count_move, if_pos rfl]
    apply hf
  · intro u hu
    change s.holder ≠ some u at hu
    have hut : u ≠ t := by
      rintro rfl
      apply hu ht
    rw [phase_move, if_neg hut, count_move, if_neg hut]
    apply i.away u hu

/-- A thread that does not hold the lock inside may go elsewhere. -/
theorem pass (i : Consistent s) (ht : s.holder ≠ some t) (hp : p.IsAway) :
  Consistent (s.move t s.lock s.holder p (s.count t))
  := by
  constructor
  · apply i.free_iff
  · apply i.vacant
  · intro u hu
    have hut : u ≠ t := by
      rintro rfl
      apply ht hu
    rw [phase_move, if_neg hut, count_move, if_neg hut]
    apply i.fits u hu
  · intro u hu
    rw [phase_move, count_move]
    split
    · exact ⟨hp, (i.away t ht).2⟩
    · apply i.away u hu

/-- A thread may acquire the lock inside when it is free. -/
theorem enter {l : Lock} (i : Consistent s) (hw : s.lock.lock.word = .free)
    (hl : l.word ≠ .free) :
  Consistent (s.move t { lock := l, owner := s.lock.owner, depth := s.lock.depth } (some t)
    .checking (s.count t))
  := by
  have hn := i.free_iff.mp hw
  have none_ne : ∀ u, s.holder ≠ some u := by
    intro u hu
    rw [hn] at hu
    cases hu
  constructor
  · constructor
    · intro h
      apply absurd h hl
    · intro h
      cases h
  · intro h
    cases h
  · intro u hu
    cases hu
    rw [phase_move, if_pos rfl, count_move, if_pos rfl]
    obtain ⟨ho, hd⟩ := i.vacant hn
    exact ⟨ho, hd, (i.away t (none_ne t)).2⟩
  · intro u hu
    have hut : u ≠ t := by
      rintro rfl
      apply hu rfl
    rw [phase_move, if_neg hut, count_move, if_neg hut]
    apply i.away u (none_ne u)

/-- The thread that holds the lock inside may release it behind its last acquisition. -/
theorem unlock (i : Consistent s) (ht : s.holder = some t) (hw : l.lock.word = .free)
    (ho : l.owner = none) (hd : l.depth = 0) (hp : p.IsAway) :
  Consistent (s.move t l none p 0)
  := by
  constructor
  · constructor
    · intro _
      rfl
    · intro _
      apply hw
  · intro _
    exact ⟨ho, hd⟩
  · intro u hu
    cases hu
  · intro u _
    rw [phase_move, count_move]
    split
    · exact ⟨hp, rfl⟩
    · rename_i hut
      apply i.away u
      rw [ht]
      intro h
      cases h
      apply hut rfl

/-- Every load, every store and every release of the lock inside keeps a recursive lock in
order. -/
theorem access (i : Consistent s) (a : (s.phase t).Access t s.lock e l p) :
  Consistent
    (s.move t l (if s.phase t = .opening then none else s.holder) p (e.tally (s.count t)))
  := by
  by_cases ht : s.holder = some t
  · by_cases hp : s.phase t = .opening
    · have hf := i.fits t ht
      rw [if_pos hp]
      rw [hp] at a hf
      obtain ⟨ho, hd, hn⟩ := hf
      rw [hn]
      cases a with
      | unlock => exact i.unlock ht Lock.word_release ho hd trivial
    · rw [if_neg hp]
      obtain ⟨hf, hl⟩ := a.fits hp (i.fits t ht)
      apply i.stay ht hl hf
  · -- What another thread reads may be stale, but it never reads itself as the owner.
    obtain ⟨hp, hn⟩ := i.away t ht
    obtain ⟨rfl, hp', he⟩ := a.away hp (i.owner_ne ht)
    have hq : s.phase t ≠ .opening := by
      intro hq
      rw [hq] at hp
      cases hp
    rw [if_neg hq]
    rcases he with rfl | rfl
    · apply i.pass ht hp'
    · apply i.pass ht hp'

/-- Every step keeps a recursive lock in order. -/
theorem step (i : Consistent s) (k : Step s t e s') :
  Consistent s'
  := by
  cases k with
  | call hp =>
      by_cases ht : s.holder = some t
      · have hf := i.fits t ht
        rw [hp] at hf
        exact i.stay ht rfl hf
      · exact i.pass ht trivial
  | leave hp hc =>
      have ht := i.holder_of_pos hc
      have hf := i.fits t ht
      rw [hp] at hf
      exact i.stay ht rfl hf
  | access h => apply i.access (.of_access h)
  | enter _ ha => apply i.enter ha.word_eq_free ha.word_ne_free
  | tryEnter _ ha =>
      have ha := Lock.acquires_of_tryAcquire ha
      apply i.enter ha.word_eq_free ha.word_ne_free
  | refuse hp _ =>
      have ht : s.holder ≠ some t := by
        intro ht
        have hf := i.fits t ht
        rw [hp] at hf
        cases hf
      exact i.pass ht trivial

/-- A recursive lock that nobody has acquired is in order. -/
theorem start (description : String) (stats : LockStats) :
  Consistent { lock := .fresh description stats }
  := by
  constructor
  · constructor
    · intro _
      rfl
    · intro _
      rfl
  · intro _
    exact ⟨rfl, rfl⟩
  · intro _ h
    cases h
  · intro _ _
    exact ⟨trivial, rfl⟩

theorem of_reachable (r : system.Reachable s) :
  Consistent s
  := by
  apply r.invariant
  · rintro _ ⟨description, stats, rfl⟩
    apply start
  · intro _ _ _ _ i k
    apply i.step k

/-! ### What a recursive lock in order lets the threads do -/

/-- No thread ends in a fault, unless it has acquired the lock as often as the depth can count. -/
theorem overflow_of_faults {f : Fault} (i : Consistent s) (k : Step s t (.faults f) s') :
  f = .additionOverflow ∧ UInt64.size ≤ s.count t + 1
  := by
  cases k with
  | access a =>
      have a := ClaimPhase.Access.of_access a
      have ht := i.holder_of_access a (by simp) (by simp)
      apply a.overflow_of_faults (i.fits t ht)

end Consistent

/-! ### Runs -/

end RecursiveState

end SyncLayer
