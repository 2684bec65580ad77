import SyncLayer.Lock.Claimant
import SyncLayer.Proofs.System

/-!
# The protocol of a recursive lock

Any threads claim one recursive lock. A step of a thread is the start of a call, or of a release,
one load or store, or what it does with the lock inside: to acquire it when it is free, to fail to,
or to release it. A thread releases only what it has acquired and not released.

The state says also which thread holds the lock inside, from the step that acquires it to the one
that releases it. No step goes by that.
-/

namespace SyncLayer

/-! ### The lock inside -/

namespace Lock

/-- A free lock becomes one that is held, by a thread that finds it free at once or when it is
awake again. -/
inductive Acquires (l : Lock) : Lock → Prop
  | atOnce (settings : Settings) (delay : UInt64) (site : Site) (h : l.word = .free) :
      Acquires l (l.acquire settings delay site)
  | woken (settings : Settings) (delay : UInt64) (site : Site) (h : l.word = .free) :
      Acquires l (l.acquireWoken settings delay site)

variable {l l' : Lock} {settings : Settings} {site : Site}

theorem Acquires.word_eq_free (a : l.Acquires l') :
  l.word = .free
  := by
  cases a with
  | atOnce _ _ _ h => apply h
  | woken _ _ _ h => apply h

/-- A lock that has been acquired is not free. -/
theorem Acquires.word_ne_free (a : l.Acquires l') :
  l'.word ≠ .free
  := by
  cases a with
  | atOnce _ _ _ h => simp [acquire, noteHeld, LockWord.tryTake, LockWord.takeFree, h]
  | woken _ _ _ _ => apply LockWord.contended_ne_free

/-- A call that does not block succeeds as a blocking one does that finds the lock free at once. -/
theorem tryAcquire_of_free (settings : Settings) (site : Site) (h : l.word = .free) :
  l.tryAcquire settings site = (true, l.acquire settings 0 site)
  := by
  have hf : l.word.isFree = true := by
    rw [LockWord.isFree_iff]
    apply h
  simp [tryAcquire, acquire, LockWord.tryTake, hf]

/-- A call that does not block fails if the lock is not free, and changes nothing. -/
theorem tryAcquire_of_ne_free (settings : Settings) (site : Site) (h : l.word ≠ .free) :
  l.tryAcquire settings site = (false, l)
  := by
  have hf : l.word.isFree = false := by
    rw [← Bool.not_eq_true, LockWord.isFree_iff]
    apply h
  simp [tryAcquire, LockWord.tryTake, hf]

theorem acquires_of_tryAcquire (h : l.tryAcquire settings site = (true, l')) :
  l.Acquires l'
  := by
  by_cases hw : l.word = .free
  · rw [tryAcquire_of_free _ _ hw] at h
    cases h
    apply Acquires.atOnce _ _ _ hw
  · rw [tryAcquire_of_ne_free _ _ hw] at h
    cases h

/-- A lock that is released is free, whether it was marked or not. -/
@[simp]
theorem word_release :
  l.release.word = .free
  := by
  by_cases hw : l.word = .held
  · simp [release, LockWord.giveBack, hw]
    rfl
  · simp [release, LockWord.giveBack, hw]

end Lock

/-! ### Releases -/

namespace RecursiveLock

variable {l : RecursiveLock}

/-- A release that is not the last one lowers the depth. -/
theorem release_on_of_one_lt (h : 1 < l.depth) :
  release.on l = (.ok (), { l with depth := l.depth - 1 })
  := by
  have hz : l.depth ≠ 0 := by omega
  simp [release, h, hz]

/-- The last release gives up the owner and releases the lock inside. -/
theorem release_on_of_eq_one (h : l.depth = 1) :
  release.on l = (.ok (), { lock := l.lock.release })
  := by
  simp [release, h]

end RecursiveLock

/-! ### The loads and stores of a thread -/

/-- The loads and stores of a thread, one by one, with its release of the lock inside and the
faults that it may end in. -/
inductive ClaimPhase.Access (me : ThreadId) (l : RecursiveLock) :
  ClaimPhase → ClaimEvent → RecursiveLock → ClaimPhase → Prop
  | read {c : Claim} (h : 0 < l.depth) : Access me l (.reading c) .loads l (.comparing c)
  | readNone {c : Claim} (h : l.depth = 0) :
      Access me l (.reading c) (.tests false) l (c.decide false)
  | compare {c : Claim} :
      Access me l (.comparing c) (.tests (l.owner == some me)) l (c.decide (l.owner == some me))
  | count : Access me l .counting .loads l (.deepening l.depth)
  | deepen {d : Nat} (h : d + 1 < UInt64.size) :
      Access me l (.deepening d) .acquires { l with depth := d + 1 } .outside
  | overflow {d : Nat} (h : ¬ d + 1 < UInt64.size) :
      Access me l (.deepening d) (.faults .additionOverflow) l .outside
  | check (h : l.depth = 0) : Access me l .checking .loads l .signing
  | corrupt (h : l.depth ≠ 0) :
      Access me l .checking (.faults (.depthCorrupted l.depth)) l .outside
  | sign : Access me l .signing .stores { l with owner := some me } .starting
  | start : Access me l .starting .acquires { l with depth := 1 } .outside
  | leaveUnowned (h : l.depth = 0) : Access me l .leaving (.faults .unownedRelease) l .outside
  | leave (h : 1 < l.depth) : Access me l .leaving .loads l (.lowering l.depth)
  | leaveLast (h : l.depth = 1) : Access me l .leaving .loads l .emptying
  | lower {d : Nat} : Access me l (.lowering d) .releases { l with depth := d - 1 } .outside
  | empty : Access me l .emptying .stores { l with depth := 0 } .unsigning
  | unsign : Access me l .unsigning .stores { l with owner := none } .opening
  | unlock : Access me l .opening .releases { l with lock := l.lock.release } .outside

namespace ClaimPhase

variable {me : ThreadId} {l l' : RecursiveLock} {p p' : ClaimPhase} {e : ClaimEvent}

/-- What a thread loads or stores next is one of these. -/
theorem Access.of_access (h : p.access me l = some (e, l', p')) :
  Access me l p e l' p'
  := by
  cases p with
  | reading c =>
      rw [access] at h
      split at h
      · rename_i hd
        cases h
        apply read hd
      · rename_i hd
        cases h
        apply readNone (Nat.eq_zero_of_not_pos hd)
  | comparing c =>
      cases h
      apply compare
  | counting =>
      cases h
      apply count
  | deepening d =>
      rw [access] at h
      split at h
      · rename_i hd
        cases h
        apply deepen hd
      · rename_i hd
        cases h
        apply overflow hd
  | checking =>
      rw [access] at h
      split at h
      · rename_i hd
        cases h
        apply check hd
      · rename_i hd
        cases h
        apply corrupt hd
  | signing =>
      cases h
      apply sign
  | starting =>
      cases h
      apply start
  | leaving =>
      rw [access] at h
      split at h
      · rename_i hd
        cases h
        apply leaveUnowned hd
      · split at h
        · rename_i hd
          cases h
          apply leave hd
        · cases h
          apply leaveLast
          omega
  | lowering d =>
      cases h
      apply lower
  | emptying =>
      cases h
      apply empty
  | unsigning =>
      cases h
      apply unsign
  | opening =>
      cases h
      apply unlock
  | outside => cases h
  | entering c => cases h

/-- A thread in a call goes on by a load or a store, unless it is about to acquire the lock
inside. -/
theorem exists_access (me : ThreadId) (l : RecursiveLock) (hp : p ≠ .outside)
    (he : ∀ c, p ≠ .entering c) :
  ∃ e l' p', p.access me l = some (e, l', p')
  := by
  cases p with
  | outside => apply absurd rfl hp
  | entering c => apply absurd rfl (he c)
  | reading c =>
      rw [access]
      split
      · exact ⟨_, _, _, rfl⟩
      · exact ⟨_, _, _, rfl⟩
  | deepening d =>
      rw [access]
      split
      · exact ⟨_, _, _, rfl⟩
      · exact ⟨_, _, _, rfl⟩
  | checking =>
      rw [access]
      split
      · exact ⟨_, _, _, rfl⟩
      · exact ⟨_, _, _, rfl⟩
  | leaving =>
      rw [access]
      split
      · exact ⟨_, _, _, rfl⟩
      · split
        · exact ⟨_, _, _, rfl⟩
        · exact ⟨_, _, _, rfl⟩
  | comparing c => exact ⟨_, _, _, rfl⟩
  | counting => exact ⟨_, _, _, rfl⟩
  | signing => exact ⟨_, _, _, rfl⟩
  | starting => exact ⟨_, _, _, rfl⟩
  | lowering d => exact ⟨_, _, _, rfl⟩
  | emptying => exact ⟨_, _, _, rfl⟩
  | unsigning => exact ⟨_, _, _, rfl⟩
  | opening => exact ⟨_, _, _, rfl⟩

end ClaimPhase

/-! ### The system -/

/-- How often a thread released the lock in what happened. -/
def releases (t : ThreadId) (h : History ClaimEvent) : Nat :=
  h.count (t, .releases)

/-- A recursive lock, the thread that holds the lock inside, and the threads that claim it. -/
structure RecursiveState where
  lock : RecursiveLock
  holder : Option ThreadId := none
  threads : ThreadId → Claimant := fun _ => {}

namespace RecursiveState

/-- Where a thread stands. -/
def phase (s : RecursiveState) (t : ThreadId) : ClaimPhase :=
  (s.threads t).phase

/-- The number of acquisitions that a thread has not released, as it knows it. -/
def count (s : RecursiveState) (t : ThreadId) : Nat :=
  (s.threads t).count

/-- The state with another lock, another holder of the lock inside, and a thread that stands
somewhere else, with a number of acquisitions. -/
def move (s : RecursiveState) (t : ThreadId) (l : RecursiveLock) (o : Option ThreadId)
    (p : ClaimPhase) (n : Nat) : RecursiveState :=
  { lock := l, holder := o, threads := Function.update s.threads t { phase := p, count := n } }

/-- The steps of a thread. -/
inductive Step : RecursiveState → ThreadId → ClaimEvent → RecursiveState → Prop
  | call {s : RecursiveState} {t : ThreadId} {c : Claim} (h : s.phase t = .outside) :
      Step s t (.calls c) (s.move t s.lock s.holder (.reading c) (s.count t))
  | leave {s : RecursiveState} {t : ThreadId} (h : s.phase t = .outside) (hc : 0 < s.count t) :
      Step s t .leaves (s.move t s.lock s.holder .leaving (s.count t))
  | access {s : RecursiveState} {t : ThreadId} {e : ClaimEvent} {l : RecursiveLock}
      {p : ClaimPhase} (h : (s.phase t).access t s.lock = some (e, l, p)) :
      Step s t e
        (s.move t l (if s.phase t = .opening then none else s.holder) p (e.tally (s.count t)))
  | enter {s : RecursiveState} {t : ThreadId} {l : Lock} (h : s.phase t = .entering .acquire)
      (ha : s.lock.lock.Acquires l) :
      Step s t .enters
        (s.move t { lock := l, owner := s.lock.owner, depth := s.lock.depth } (some t) .checking
          (s.count t))
  | tryEnter {s : RecursiveState} {t : ThreadId} {l : Lock} {settings : Settings} {site : Site}
      (h : s.phase t = .entering .tryAcquire)
      (ha : s.lock.lock.tryAcquire settings site = (true, l)) :
      Step s t .enters
        (s.move t { lock := l, owner := s.lock.owner, depth := s.lock.depth } (some t) .checking
          (s.count t))
  | refuse {s : RecursiveState} {t : ThreadId} {l : Lock} {settings : Settings} {site : Site}
      (h : s.phase t = .entering .tryAcquire)
      (ha : s.lock.lock.tryAcquire settings site = (false, l)) :
      Step s t .refuses (s.move t s.lock s.holder .outside (s.count t))

/-- The threads around a recursive lock that nobody has acquired at first. -/
def system : System RecursiveState ClaimEvent where
  Starts s := ∃ description stats, s = { lock := .fresh description stats }
  Step := Step

variable {s s' : RecursiveState} {t u : ThreadId} {l l' : RecursiveLock} {o o' : Option ThreadId}
  {p p' : ClaimPhase} {n n' : Nat} {h : History ClaimEvent} {e : ClaimEvent} {c : Claim}

theorem threads_move :
  (s.move t l o p n).threads u = if u = t then { phase := p, count := n } else s.threads u
  := Function.update_apply s.threads t _ u

theorem phase_move :
  (s.move t l o p n).phase u = if u = t then p else s.phase u
  := by
  rw [phase, threads_move]
  apply apply_ite

theorem count_move :
  (s.move t l o p n).count u = if u = t then n else s.count u
  := by
  rw [count, threads_move]
  apply apply_ite

theorem move_move :
  (s.move t l o p n).move t l' o' p' n' = s.move t l' o' p' n'
  := by
  simp [move]

theorem count_move_tally (hn : n = e.tally (s.count t)) :
  (s.move t l o p n).count u = if u = t then e.tally (s.count u) else s.count u
  := by
  rw [count_move, hn]
  split
  · rename_i hu
    rw [hu]
  · rfl

/-- A step tells how many acquisitions each thread has not released behind it. -/
theorem Step.count (k : Step s t e s') :
  s'.count u = if u = t then e.tally (s.count u) else s.count u
  := by
  cases k with
  | call _ => exact count_move_tally rfl
  | leave _ _ => exact count_move_tally rfl
  | access _ => exact count_move_tally rfl
  | enter _ _ => exact count_move_tally rfl
  | tryEnter _ _ => exact count_move_tally rfl
  | refuse _ _ => exact count_move_tally rfl

/-- A thread that has got somewhere goes on by a load or a store. -/
theorem path_access (q : system.Path s h (s.move t l o p n))
    (ha : p.access t l = some (e, l', p')) (hp : p ≠ .opening) :
  system.Path s (h ++ [(t, e)]) (s.move t l' o p' (e.tally n))
  := by
  have k := Step.access (s := s.move t l o p n) (t := t) (e := e) (l := l') (p := p') (by
    rw [phase_move, if_pos rfl]
    exact ha)
  rw [move_move, phase_move, if_pos rfl, if_neg hp, count_move, if_pos rfl] at k
  apply q.step k

/-- The two loads of a thread that nobody interrupts tell whether the lock is its own. -/
theorem path_test (c : Claim) (hp : s.phase t = .outside) :
  ∃ h, system.Path s h
    (s.move t s.lock s.holder (c.decide (s.lock.isOwnedBy t)) (s.count t))
  := by
  have q := System.Path.single (S := system) (Step.call (c := c) hp)
  by_cases hd : 0 < s.lock.depth
  · have q := path_access q (by rw [ClaimPhase.access, if_pos hd]) (by simp)
    have q := path_access q rfl (by simp)
    have ho : s.lock.isOwnedBy t = (s.lock.owner == some t) := by
      simp [RecursiveLock.isOwnedBy, hd]
    rw [ho]
    exact ⟨_, q⟩
  · have q := path_access q (by rw [ClaimPhase.access, if_neg hd]) (by simp)
    have ho : s.lock.isOwnedBy t = false := by
      simp [RecursiveLock.isOwnedBy, hd]
    rw [ho]
    exact ⟨_, q⟩

/-- A thread that finds the lock to be its own acquires it once more. -/
theorem path_reenter {c : Claim} (hc : c ≠ .ask) (hp : s.phase t = .outside)
    (ho : s.lock.isOwnedBy t = true) (hd : s.lock.depth + 1 < UInt64.size) :
  ∃ h, system.Path s h (s.move t s.lock.reenter s.holder .outside (s.count t + 1))
  := by
  have hq : c.decide true = .counting := by
    cases c with
    | acquire => rfl
    | tryAcquire => rfl
    | ask => apply absurd rfl hc
  obtain ⟨h, q⟩ := path_test c hp
  rw [ho, hq] at q
  have q := path_access q rfl (by simp)
  have q := path_access q (by rw [ClaimPhase.access, if_pos hd]) (by simp)
  exact ⟨_, q⟩

/-- A thread that has acquired the lock inside makes the lock its own. -/
theorem path_sign {l : Lock} (q : system.Path s h (s.move t s.lock o (.entering c) n))
    (k : Step (s.move t s.lock o (.entering c) n) t .enters
      (s.move t { lock := l, owner := s.lock.owner, depth := s.lock.depth } (some t) .checking n))
    (hd : s.lock.depth = 0) :
  ∃ h, system.Path s h
    (s.move t { lock := l, owner := some t, depth := 1 } (some t) .outside (n + 1))
  := by
  have q := q.step k
  have q := path_access q (by rw [ClaimPhase.access, if_pos hd]) (by simp)
  have q := path_access q rfl (by simp)
  have q := path_access q rfl (by simp)
  exact ⟨_, q⟩

/-- A blocking call that need not wait acquires the lock. -/
theorem path_acquire {settings : Settings} {delay : UInt64} {site : Site}
    (hp : s.phase t = .outside) (hd : s.lock.depth + 1 < UInt64.size)
    (hf : s.lock.isOwnedBy t = false → s.lock.lock.word = .free ∧ s.lock.depth = 0) :
  ∃ h s', system.Path s h s' ∧ s'.lock = s.lock.acquire settings delay site t
    ∧ s'.phase t = .outside ∧ s'.count t = s.count t + 1
  := by
  cases ho : s.lock.isOwnedBy t with
  | true =>
      obtain ⟨h, q⟩ := path_reenter (c := .acquire) (by simp) hp ho hd
      refine ⟨h, _, q, ?_, ?_, ?_⟩
      · simp [RecursiveLock.acquire, RecursiveLock.acquireBy, ho, move]
      · rw [phase_move, if_pos rfl]
      · rw [count_move, if_pos rfl]
  | false =>
      obtain ⟨hw, hd⟩ := hf ho
      obtain ⟨h, q⟩ := path_test .acquire hp
      rw [ho] at q
      have k := Step.enter (s := s.move t s.lock s.holder (.entering .acquire) (s.count t)) (t := t)
        (by rw [phase_move, if_pos rfl]) (.atOnce settings delay site hw)
      rw [move_move, count_move, if_pos rfl] at k
      obtain ⟨h, q⟩ := path_sign q k hd
      refine ⟨h, _, q, ?_, ?_, ?_⟩
      · simp [RecursiveLock.acquire, RecursiveLock.acquireBy, ho, move]
      · rw [phase_move, if_pos rfl]
      · rw [count_move, if_pos rfl]

/-- A call that does not block acquires the lock if it is free or the thread's own, and changes
nothing otherwise. -/
theorem path_tryAcquire {settings : Settings} {site : Site}
    (hp : s.phase t = .outside) (hd : s.lock.depth + 1 < UInt64.size)
    (hf : s.lock.isOwnedBy t = false → s.lock.lock.word = .free → s.lock.depth = 0) :
  ∃ h s', system.Path s h s' ∧ s'.lock = (s.lock.tryAcquire settings site t).2
    ∧ s'.phase t = .outside
    ∧ s'.count t = s.count t + (s.lock.tryAcquire settings site t).1.toNat
  := by
  cases ho : s.lock.isOwnedBy t with
  | true =>
      obtain ⟨h, q⟩ := path_reenter (c := .tryAcquire) (by simp) hp ho hd
      refine ⟨h, _, q, ?_, ?_, ?_⟩
      · simp [RecursiveLock.tryAcquire, ho, move]
      · rw [phase_move, if_pos rfl]
      · rw [count_move, if_pos rfl]
        simp [RecursiveLock.tryAcquire, ho]
  | false =>
      obtain ⟨h, q⟩ := path_test .tryAcquire hp
      rw [ho] at q
      have hq : (s.move t s.lock s.holder (.entering .tryAcquire) (s.count t)).phase t
          = .entering .tryAcquire := by
        rw [phase_move, if_pos rfl]
      by_cases hw : s.lock.lock.word = .free
      · have ha := Lock.tryAcquire_of_free settings site hw
        have k := Step.tryEnter hq ha
        rw [move_move, count_move, if_pos rfl] at k
        obtain ⟨h, q⟩ := path_sign q k (hf ho hw)
        refine ⟨h, _, q, ?_, ?_, ?_⟩
        · simp [RecursiveLock.tryAcquire, ho, ha, move]
        · rw [phase_move, if_pos rfl]
        · rw [count_move, if_pos rfl]
          simp [RecursiveLock.tryAcquire, ho, ha]
      · have ha := Lock.tryAcquire_of_ne_free settings site hw
        have k := Step.refuse hq ha
        rw [move_move, count_move, if_pos rfl] at k
        refine ⟨_, _, q.step k, ?_, ?_, ?_⟩
        · simp [RecursiveLock.tryAcquire, ho, ha, move]
        · rw [phase_move, if_pos rfl]
        · rw [count_move, if_pos rfl]
          simp [RecursiveLock.tryAcquire, ho, ha]

/-- A thread that has got before its release of the lock inside releases it. -/
theorem path_open (q : system.Path s h (s.move t l o .opening n)) :
  system.Path s (h ++ [(t, .releases)])
    (s.move t { lock := l.lock.release, owner := l.owner, depth := l.depth } none .outside (n - 1))
  := by
  have k := Step.access (s := s.move t l o .opening n) (t := t) (by
    rw [phase_move, if_pos rfl]
    rfl)
  rw [move_move, phase_move, if_pos rfl, if_pos rfl, count_move, if_pos rfl] at k
  apply q.step k

/-- A release that nobody interrupts releases the latest acquisition. -/
theorem path_release (hp : s.phase t = .outside) (hc : 0 < s.count t) (hd : 0 < s.lock.depth) :
  ∃ h s', system.Path s h s' ∧ RecursiveLock.release.on s.lock = (.ok (), s'.lock)
    ∧ s'.phase t = .outside ∧ s'.count t = s.count t - 1
  := by
  have hz : s.lock.depth ≠ 0 := Nat.ne_of_gt hd
  have q := System.Path.single (S := system) (Step.leave hp hc)
  by_cases hd' : 1 < s.lock.depth
  · have q := path_access q (by rw [ClaimPhase.access, if_neg hz, if_pos hd']) (by simp)
    have q := path_access q rfl (by simp)
    refine ⟨_, _, q, ?_, ?_, ?_⟩
    · exact RecursiveLock.release_on_of_one_lt hd'
    · rw [phase_move, if_pos rfl]
    · rw [count_move, if_pos rfl]
      rfl
  · have q := path_access q (by rw [ClaimPhase.access, if_neg hz, if_neg hd']) (by simp)
    have q := path_access q rfl (by simp)
    have q := path_access q rfl (by simp)
    refine ⟨_, _, path_open q, ?_, ?_, ?_⟩
    · apply RecursiveLock.release_on_of_eq_one
      omega
    · rw [phase_move, if_pos rfl]
    · rw [count_move, if_pos rfl]
      rfl

end RecursiveState

end SyncLayer
