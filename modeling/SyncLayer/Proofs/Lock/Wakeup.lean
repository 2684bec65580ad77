import SyncLayer.Proofs.Lock.Exclusion

/-!
# No sleeper is forgotten

A thread falls asleep only while the word is marked. The mark goes away only with a thread that
counts the word down, and this thread will clear the word and wake somebody. Whoever is woken, or
wakes for another reason, sets the mark again. So as long as a thread sleeps, either the mark is
there or a thread is awake that will wake somebody or set the mark.
-/

namespace SyncLayer

/-- A thread that stands here will yet wake somebody or set the mark. -/
def LockPhase.isAlert : LockPhase → Bool
  | .marking | .clearing | .waking => true
  | _ => false

/-- A thread that stands here is in a call that gives the lock back. -/
def LockPhase.isReleasing : LockPhase → Bool
  | .unlocking | .clearing | .waking => true
  | _ => false

/-- A thread that stands here is in a blocking call that did not find the lock free. -/
def LockPhase.isContending : LockPhase → Bool
  | .marking | .waiting | .asleep => true
  | _ => false

theorem LockPhase.isAlert_iff {p : LockPhase} :
  p.isAlert = true ↔ (p = .clearing ∨ p = .waking) ∨ p = .marking
  := by
  cases p <;> simp [isAlert]

namespace LockState

/-- If a thread sleeps, then the word is marked or a thread is alert. -/
def Watched (s : LockState) : Prop :=
  (∃ t, s.phase t = .asleep) → s.word = .contended ∨ ∃ u, (s.phase u).isAlert = true

namespace Watched

variable {s s' : LockState} {t : ThreadId} {w : LockWord} {x : Contender} {e : LockEvent}

theorem of_contended (hw : s.word = .contended) :
  Watched s
  := by
  intro _
  left
  apply hw

theorem of_alert (h : (s.phase t).isAlert = true) :
  Watched s
  := by
  intro _
  right
  use t

/-- A thread that is not alert does not put the others to risk as long as it does not take the
mark away and does not fall asleep. -/
theorem set (i : Watched s) (ht : (s.phase t).isAlert = false)
    (hw : s.word = .contended → w = .contended) (hx : x.phase ≠ .asleep) :
  Watched (s.set t w x)
  := by
  rintro ⟨u, hu⟩
  rw [phase_set] at hu
  split at hu
  · apply absurd hu hx
  · rcases i ⟨u, hu⟩ with hc | ⟨v, hv⟩
    · left
      apply hw hc
    · right
      use v
      rw [phase_set, if_neg]
      · apply hv
      · rintro rfl
        rw [ht] at hv
        cases hv

/-- Every access keeps the sleepers watched. -/
theorem access (i : Watched s) (h : (s.threads t).access s.word = some (w, x)) :
  Watched (s.set t w x)
  := by
  cases Contender.Access.of_access h with
  | take hp hs =>
      apply i.set
      · rcases hp with hp | hp
        · rw [phase, hp]
          rfl
        · rw [phase, hp]
          rfl
      · simp [hs, eq_comm]
      · simp [Contender.holder]
  | fail hp _ =>
      apply i.set
      · rw [phase, hp]
        rfl
      · apply id
      · simp
  | await hp _ =>
      apply i.set
      · rw [phase, hp]
        rfl
      · apply id
      · simp
  | hurry _ _ _ =>
      apply of_alert (t := t)
      rw [phase_set, if_pos rfl]
      rfl
  | takeMarked _ _ => apply of_contended rfl
  | mark _ _ => apply of_contended rfl
  | giveBack hp hs =>
      -- The word was not marked, so that some other thread is alert if anybody sleeps.
      apply i.set
      · rw [phase, hp]
        rfl
      · simp [hs, eq_comm]
      · simp
  | lower _ _ =>
      apply of_alert (t := t)
      rw [phase_set, if_pos rfl]
      rfl
  | clear _ =>
      apply of_alert (t := t)
      rw [phase_set, if_pos rfl]
      rfl

/-- Every step keeps the sleepers watched. -/
theorem step (i : Watched s) (k : Step s t e s') :
  Watched s'
  := by
  cases k with
  | @call c hc =>
      simp only [Contender.mayCall, Bool.and_eq_true, beq_iff_eq] at hc
      apply i.set
      · rw [phase, hc.1]
        rfl
      · apply id
      · cases c with
        | lock => simp [Contender.call, LockCall.start]
        | tryLock => simp [Contender.call, LockCall.start]
        | unlock => simp [Contender.call, LockCall.start]
  | access h => apply i.access h
  | sleep _ hw =>
      apply of_contended
      rw [word_enter, hw]
  | resume _ =>
      apply of_alert (t := t)
      rw [phase_enter, if_pos rfl]
      rfl
  | @wake u hp hu =>
      apply of_alert (t := u)
      rw [phase_enter, if_neg, phase_enter, if_pos rfl]
      · rfl
      · rintro rfl
        rw [hp] at hu
        cases hu
  | wakeNobody hp hn =>
      rintro ⟨u, hu⟩
      rw [phase_enter] at hu
      split at hu
      · cases hu
      · apply absurd hu (hn u)

theorem of_reachable (r : system.Reachable s) :
  Watched s
  := by
  apply r.invariant
  · rintro _ rfl ⟨_, h⟩
    cases h
  · intro _ _ _ _ i k
    apply i.step k

end Watched

variable {s : LockState} {h : History LockEvent}

/-- Whenever a thread sleeps, the word is marked, or a thread that gives the lock back has counted
the word down and has not yet woken anybody, or another thread is awake in a blocking call and
will set the mark. So no thread sleeps while nobody holds the lock, nobody gives it back, and all
that wait for it are asleep. -/
theorem no_lost_wakeup (r : system.Run h s) :
  (∀ t, s.phase t = .asleep →
      s.word = .contended
      ∨ (∃ u, s.phase u = .clearing ∨ s.phase u = .waking)
      ∨ ∃ u, u ≠ t ∧ s.phase u = .marking)
    ∧ ¬ ((∃ t, s.phase t = .asleep)
      ∧ (∀ t, holdsAfter t h = false)
      ∧ (∀ t, (s.phase t).isReleasing = false)
      ∧ ∀ t, (s.phase t).isContending = true → s.phase t = .asleep)
  := by
  have watched := Watched.of_reachable r.reachable
  have exclusive := Exclusive.of_reachable r.reachable
  constructor
  · intro t ht
    rcases watched ⟨t, ht⟩ with hw | ⟨u, hu⟩
    · left
      apply hw
    · right
      rcases LockPhase.isAlert_iff.mp hu with hu | hu
      · left
        use u
      · right
        use u
        constructor
        · rintro rfl
          rw [hu] at ht
          cases ht
        · apply hu
  · rintro ⟨sleeper, hn, hr, hc⟩
    simp only [← holds_of_run r] at hn
    have hw := exclusive.free_iff.mpr hn
    rcases watched sleeper with hw' | ⟨u, hu⟩
    · rw [hw] at hw'
      apply LockWord.contended_ne_free hw'.symm
    · have hru := hr u
      have hcu := hc u
      rcases LockPhase.isAlert_iff.mp hu with (hp | hp) | hp
      · rw [hp] at hru
        cases hru
      · rw [hp] at hru
        cases hru
      · rw [hp] at hcu
        cases hcu rfl

/-- A thread sleeps while nobody holds the lock and the mark is gone; the thread that gave the
lock back has yet to wake it. -/
theorem no_lost_wakeup_released :
  ∃ h s, system.Run h s ∧ s.phase 1 = .asleep ∧ s.word ≠ .contended
    ∧ ((∃ u, s.phase u = .clearing ∨ s.phase u = .waking) ∨ ∃ u, u ≠ 1 ∧ s.phase u = .marking)
  := by
  obtain ⟨h, s, r, hw, _, h1, _⟩ := exists_run_released
  have hc : s.word ≠ .contended := by
    rw [hw]
    simp [eq_comm]
  refine ⟨h, s, r, h1, hc, ?_⟩
  apply ((no_lost_wakeup r).1 1 h1).resolve_left hc

end LockState

end SyncLayer
