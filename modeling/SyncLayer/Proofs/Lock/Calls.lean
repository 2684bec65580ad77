import SyncLayer.Proofs.Lock.Ownership

/-!
# Calls on a recursive lock

A blocking call on a recursive lock acquires it once and a release releases it once, step by step
and whatever other threads do in between. Either ends after a bounded number of steps, if it need
not wait for the lock inside.
-/

namespace SyncLayer

namespace ClaimPhase

variable {t : ThreadId} {l l' : RecursiveLock} {p p' : ClaimPhase} {e : ClaimEvent}

/-- A thread stands in a blocking call. -/
def IsAcquiring : ClaimPhase → Prop
  | reading c | comparing c | entering c => c = .acquire
  | counting | deepening _ | checking | signing | starting => True
  | _ => False

/-- A thread stands in a release. -/
def IsReleasing : ClaimPhase → Prop
  | leaving | lowering _ | emptying | unsigning | opening => True
  | _ => False

/-- How many steps a call takes at most until its end. -/
def rank : ClaimPhase → Nat
  | outside => 0
  | deepening _ | starting | lowering _ | opening => 1
  | counting | signing | unsigning => 2
  | checking | emptying => 3
  | entering _ | leaving => 4
  | comparing _ => 5
  | reading _ => 6

/-- The number of steps of a call, without that by which it starts. -/
def rankLimit : Nat := 6

theorem rank_le (p : ClaimPhase) :
  p.rank ≤ rankLimit
  := by
  cases p <;> simp [rank, rankLimit]

theorem rank_decide_lt (c : Claim) (b : Bool) :
  (c.decide b).rank < (comparing c).rank
  := by
  cases c <;> cases b <;> decide

theorem isAcquiring_decide (b : Bool) :
  (Claim.acquire.decide b).IsAcquiring
  := by
  cases b
  · rfl
  · trivial

theorem ne_outside_of_isAcquiring (h : p.IsAcquiring) :
  p ≠ .outside
  := by
  rintro rfl
  cases h

theorem ne_outside_of_isReleasing (h : p.IsReleasing) :
  p ≠ .outside
  := by
  rintro rfl
  cases h

/-- A load or store does not start a call. -/
theorem Access.ne_calls (a : Access t l p e l' p') (c : Claim) :
  e ≠ .calls c ∧ e ≠ .leaves
  := by
  cases a <;> simp

/-- A thread that does not stand outside gets nearer to the end of its call. -/
theorem Access.rank_lt (a : Access t l p e l' p') :
  p'.rank < p.rank
  := by
  cases a with
  | readNone h => exact (rank_decide_lt _ _).trans (Nat.lt_succ_self _)
  | compare => apply rank_decide_lt
  | _ => simp [rank]

/-- A load or store of a blocking call goes on with the call, or has acquired the lock at its end,
unless it ends in a fault. -/
theorem Access.acquiring (a : Access t l p e l' p') (h : p.IsAcquiring) :
  (∃ f, e = .faults f) ∨ p' = .outside ∧ e = .acquires ∨ p'.IsAcquiring ∧ e.tally = id
  := by
  cases a with
  | read _ => exact .inr (.inr ⟨h, rfl⟩)
  | readNone _ =>
      cases h
      exact .inr (.inr ⟨isAcquiring_decide _, rfl⟩)
  | compare =>
      cases h
      exact .inr (.inr ⟨isAcquiring_decide _, rfl⟩)
  | count => exact .inr (.inr ⟨trivial, rfl⟩)
  | deepen _ => exact .inr (.inl ⟨rfl, rfl⟩)
  | overflow _ => exact .inl ⟨_, rfl⟩
  | check _ => exact .inr (.inr ⟨trivial, rfl⟩)
  | corrupt _ => exact .inl ⟨_, rfl⟩
  | sign => exact .inr (.inr ⟨trivial, rfl⟩)
  | start => exact .inr (.inl ⟨rfl, rfl⟩)
  | leaveUnowned _ => cases h
  | leave _ => cases h
  | leaveLast _ => cases h
  | lower => cases h
  | empty => cases h
  | unsign => cases h
  | unlock => cases h

/-- A load or store of a release goes on with the release, or has released the lock at its end,
unless it ends in a fault. -/
theorem Access.releasing (a : Access t l p e l' p') (h : p.IsReleasing) :
  (∃ f, e = .faults f) ∨ p' = .outside ∧ e = .releases ∨ p'.IsReleasing ∧ e.tally = id
  := by
  cases a with
  | leaveUnowned _ => exact .inl ⟨_, rfl⟩
  | leave _ => exact .inr (.inr ⟨trivial, rfl⟩)
  | leaveLast _ => exact .inr (.inr ⟨trivial, rfl⟩)
  | lower => exact .inr (.inl ⟨rfl, rfl⟩)
  | empty => exact .inr (.inr ⟨trivial, rfl⟩)
  | unsign => exact .inr (.inr ⟨trivial, rfl⟩)
  | unlock => exact .inr (.inl ⟨rfl, rfl⟩)
  | read _ => cases h
  | readNone _ => cases h
  | compare => cases h
  | count => cases h
  | deepen _ => cases h
  | overflow _ => cases h
  | check _ => cases h
  | corrupt _ => cases h
  | sign => cases h
  | start => cases h

end ClaimPhase

namespace RecursiveState

variable {s s' : RecursiveState} {t u : ThreadId} {e : ClaimEvent} {c : Claim}

/-- A step of a thread leaves the others where they stand. -/
theorem Step.phase_of_ne (k : Step s t e s') (hu : u ≠ t) :
  s'.phase u = s.phase u
  := by
  cases k <;> rw [phase_move, if_neg hu]

theorem Step.count_of_ne (k : Step s t e s') (hu : u ≠ t) :
  s'.count u = s.count u
  := by
  rw [k.count, if_neg hu]

/-- A thread that has started a call stands at its front. -/
theorem Step.of_calls (k : Step s t (.calls c) s') :
  s'.phase t = .reading c ∧ s'.count t = s.count t
  := by
  cases k with
  | call h => exact ⟨by rw [phase_move, if_pos rfl], by rw [count_move, if_pos rfl]⟩
  | access h => cases ((ClaimPhase.Access.of_access h).ne_calls c).1 rfl

/-- A thread that has started a release stands at its front. -/
theorem Step.of_leaves (k : Step s t .leaves s') :
  s'.phase t = .leaving ∧ s'.count t = s.count t
  := by
  cases k with
  | leave h _ => exact ⟨by rw [phase_move, if_pos rfl], by rw [count_move, if_pos rfl]⟩
  | access h => cases ((ClaimPhase.Access.of_access h).ne_calls .ask).2 rfl

/-- A step of a thread in a call gets it nearer to the end of the call. -/
theorem Step.rank_lt (k : Step s t e s') (hp : s.phase t ≠ .outside) :
  (s'.phase t).rank < (s.phase t).rank
  := by
  cases k with
  | call h => cases hp h
  | leave h _ => cases hp h
  | access h =>
      rw [phase_move, if_pos rfl]
      apply (ClaimPhase.Access.of_access h).rank_lt
  | enter h _ =>
      rw [phase_move, if_pos rfl, h]
      decide
  | tryEnter h _ =>
      rw [phase_move, if_pos rfl, h]
      decide
  | refuse h _ =>
      rw [phase_move, if_pos rfl, h]
      decide

/-- A step of a blocking call goes on with it, or has acquired the lock, or ends in a fault. -/
theorem Step.acquiring (k : Step s t e s') (h : (s.phase t).IsAcquiring) :
  (∃ f, e = .faults f) ∨ s'.phase t = .outside ∧ s'.count t = s.count t + 1
    ∨ (s'.phase t).IsAcquiring ∧ s'.count t = s.count t
  := by
  cases k with
  | call hp => cases ClaimPhase.ne_outside_of_isAcquiring h hp
  | leave hp _ => cases ClaimPhase.ne_outside_of_isAcquiring h hp
  | access ha =>
      rw [phase_move, if_pos rfl, count_move, if_pos rfl]
      rcases (ClaimPhase.Access.of_access ha).acquiring h with hf | ⟨hp, rfl⟩ | ⟨hp, he⟩
      · exact .inl hf
      · exact .inr (.inl ⟨hp, rfl⟩)
      · exact .inr (.inr ⟨hp, by rw [he, id]⟩)
  | enter _ _ =>
      rw [phase_move, if_pos rfl, count_move, if_pos rfl]
      exact .inr (.inr ⟨trivial, rfl⟩)
  | tryEnter hp _ =>
      rw [hp] at h
      cases h
  | refuse hp _ =>
      rw [hp] at h
      cases h

/-- A step of a release goes on with it, or has released the lock, or ends in a fault. -/
theorem Step.releasing (k : Step s t e s') (h : (s.phase t).IsReleasing) :
  (∃ f, e = .faults f) ∨ s'.phase t = .outside ∧ s'.count t = s.count t - 1
    ∨ (s'.phase t).IsReleasing ∧ s'.count t = s.count t
  := by
  cases k with
  | call hp => cases ClaimPhase.ne_outside_of_isReleasing h hp
  | leave hp _ => cases ClaimPhase.ne_outside_of_isReleasing h hp
  | access ha =>
      rw [phase_move, if_pos rfl, count_move, if_pos rfl]
      rcases (ClaimPhase.Access.of_access ha).releasing h with hf | ⟨hp, rfl⟩ | ⟨hp, he⟩
      · exact .inl hf
      · exact .inr (.inl ⟨hp, rfl⟩)
      · exact .inr (.inr ⟨hp, by rw [he, id]⟩)
  | enter hp _ =>
      rw [hp] at h
      cases h
  | tryEnter hp _ =>
      rw [hp] at h
      cases h
  | refuse hp _ =>
      rw [hp] at h
      cases h

end RecursiveState

end SyncLayer
