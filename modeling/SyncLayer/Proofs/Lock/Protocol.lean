import SyncLayer.Lock.Contender
import SyncLayer.Proofs.System

/-!
# The protocol of a lock

Any threads contend for one lock. A step of a thread is the start of a call, one access to the
word, or what the system does with it. The system puts a thread to sleep only if the word is
marked at that moment, and lets a thread that waits go on at any time, for whatever reason.
Whoever wakes a thread wakes one that is asleep if there is one.

A thread holds the lock from the access that found the word free to the one that left it free.
This can be told from what happened in a run, and it is what a thread knows of itself.
-/

namespace SyncLayer

/-- A lock and the threads that contend for it. -/
structure LockState where
  word : LockWord := .free
  threads : ThreadId → Contender := fun _ => {}

/-- What is seen of a step on a lock: that a thread starts a call, what it finds in the word when
it stands somewhere, that it falls asleep, that its wait ends, and whom it wakes. -/
inductive LockEvent where
  | calls (c : LockCall)
  | finds (p : LockPhase) (w : LockWord)
  | sleeps
  | resumes
  | wakes (t : Option ThreadId)
deriving DecidableEq, Repr

namespace LockEvent

/-- The thread takes the lock: it finds the word free in an access that leaves it taken. -/
@[simp]
def takes : LockEvent → Bool
  | .finds .locking w | .finds .trying w | .finds .marking w => w == .free
  | _ => false

/-- The thread gives the lock back: it counts down a word without the mark, or clears the word. -/
@[simp]
def givesBack : LockEvent → Bool
  | .finds .unlocking w => w == .held
  | .finds .clearing _ => true
  | _ => false

end LockEvent

/-- Whether a thread holds the lock behind what happened: it took it and has not given it back. -/
def holdsAfter (t : ThreadId) (h : History LockEvent) : Bool :=
  h.foldl (fun holds (u, e) => if u = t then e.takes || holds && !e.givesBack else holds) false

theorem holdsAfter_concat (t u : ThreadId) (h : History LockEvent) (e : LockEvent) :
  holdsAfter t (h ++ [(u, e)])
    = if u = t then e.takes || holdsAfter t h && !e.givesBack else holdsAfter t h
  := by
  rw [holdsAfter, List.foldl_append]
  rfl

namespace LockState

/-- Where a thread stands. -/
def phase (s : LockState) (t : ThreadId) : LockPhase :=
  (s.threads t).phase

/-- Whether a thread holds the lock. -/
def holds (s : LockState) (t : ThreadId) : Bool :=
  (s.threads t).holds

/-- The state with another word and another thread in the place of one. -/
def set (s : LockState) (t : ThreadId) (w : LockWord) (x : Contender) : LockState :=
  { word := w, threads := Function.update s.threads t x }

/-- The state in which a thread stands somewhere else. -/
def enter (s : LockState) (t : ThreadId) (p : LockPhase) : LockState :=
  s.set t s.word { s.threads t with phase := p }

/-- The steps of a thread. -/
inductive Step : LockState → ThreadId → LockEvent → LockState → Prop
  | call {s : LockState} {t : ThreadId} {c : LockCall} (h : (s.threads t).mayCall c = true) :
      Step s t (.calls c) (s.set t s.word ((s.threads t).call c))
  | access {s : LockState} {t : ThreadId} {w : LockWord} {x : Contender}
      (h : (s.threads t).access s.word = some (w, x)) :
      Step s t (.finds (s.phase t) s.word) (s.set t w x)
  | sleep {s : LockState} {t : ThreadId} (h : s.phase t = .waiting) (hw : s.word = .contended) :
      Step s t .sleeps (s.enter t .asleep)
  | resume {s : LockState} {t : ThreadId} (h : s.phase t = .waiting ∨ s.phase t = .asleep) :
      Step s t .resumes (s.enter t .marking)
  | wake {s : LockState} {t u : ThreadId} (h : s.phase t = .waking) (hu : s.phase u = .asleep) :
      Step s t (.wakes (some u)) ((s.enter u .marking).enter t .outside)
  | wakeNobody {s : LockState} {t : ThreadId} (h : s.phase t = .waking)
      (hn : ∀ u, s.phase u ≠ .asleep) :
      Step s t (.wakes none) (s.enter t .outside)

/-- The threads around a lock that is free at first. -/
def system : System LockState LockEvent where
  Starts s := s = {}
  Step := Step

section

variable {s s' : LockState} {t u : ThreadId} {w : LockWord} {x : Contender} {p : LockPhase}

@[simp]
theorem word_set :
  (s.set t w x).word = w
  := rfl

@[simp]
theorem word_enter :
  (s.enter t p).word = s.word
  := rfl

theorem threads_set :
  (s.set t w x).threads u = if u = t then x else s.threads u
  := Function.update_apply s.threads t x u

theorem phase_set :
  (s.set t w x).phase u = if u = t then x.phase else s.phase u
  := by
  rw [phase, threads_set]
  apply apply_ite

theorem holds_set :
  (s.set t w x).holds u = if u = t then x.holds else s.holds u
  := by
  rw [holds, threads_set]
  apply apply_ite

/-- A thread may be replaced by one that holds the lock just if it did. -/
theorem holds_set_of_eq (h : x.holds = s.holds t) :
  (s.set t w x).holds u = s.holds u
  := by
  rw [holds_set]
  split
  · rename_i hu
    rw [h, hu]
  · rfl

theorem phase_enter :
  (s.enter t p).phase u = if u = t then p else s.phase u
  := phase_set

/-- Where a thread stands says nothing about whether it holds the lock. -/
@[simp]
theorem holds_enter :
  (s.enter t p).holds u = s.holds u
  := holds_set_of_eq rfl

end

end LockState

/-! ### The accesses of a thread -/

/-- The accesses of a thread, one by one: it takes a free lock, it fails to, it finds the mark, it
goes to set the mark, it takes a free lock with the mark, it marks a lock that is taken, it gives
back a lock without the mark, it counts down a lock that is marked, and it clears the word. -/
inductive Contender.Access (w : LockWord) (x : Contender) : LockWord → Contender → Prop
  | take (h : x.phase = .locking ∨ x.phase = .trying) (hw : w = .free) : Access w x .held .holder
  | fail (h : x.phase = .trying) (hw : w ≠ .free) : Access w x w { x with phase := .outside }
  | await (h : x.phase = .locking) (hw : w = .contended) :
      Access w x w { x with phase := .waiting }
  | hurry (h : x.phase = .locking) (hw : w ≠ .free) (hc : w ≠ .contended) :
      Access w x w { x with phase := .marking }
  | takeMarked (h : x.phase = .marking) (hw : w = .free) : Access w x .contended .holder
  | mark (h : x.phase = .marking) (hw : w ≠ .free) :
      Access w x .contended { x with phase := .waiting }
  | giveBack (h : x.phase = .unlocking) (hw : w = .held) : Access w x .free {}
  | lower (h : x.phase = .unlocking) (hw : w ≠ .held) :
      Access w x w.countDown { x with phase := .clearing }
  | clear (h : x.phase = .clearing) : Access w x .free { phase := .waking }

/-- An access of a thread is one of the nine. -/
theorem Contender.Access.of_access {w w' : LockWord} {x x' : Contender}
    (h : x.access w = some (w', x')) :
  x.Access w w' x'
  := by
  cases hp : x.phase with
  | locking =>
      simp only [access, hp, LockWord.takeFree] at h
      by_cases hw : w = .free
      · rw [if_pos hw, if_pos hw] at h
        cases h
        apply take (.inl hp) hw
      · rw [if_neg hw, if_neg hw] at h
        by_cases hc : w = .contended
        · rw [if_pos hc] at h
          cases h
          apply await hp hc
        · rw [if_neg hc] at h
          cases h
          apply hurry hp hw hc
  | trying =>
      simp only [access, hp, LockWord.takeFree] at h
      by_cases hw : w = .free
      · rw [if_pos hw, if_pos hw] at h
        cases h
        apply take (.inr hp) hw
      · rw [if_neg hw, if_neg hw] at h
        cases h
        apply fail hp hw
  | marking =>
      simp only [access, hp, LockWord.mark] at h
      by_cases hw : w = .free
      · rw [if_pos hw] at h
        cases h
        apply takeMarked hp hw
      · rw [if_neg hw] at h
        cases h
        apply mark hp hw
  | unlocking =>
      simp only [access, hp] at h
      by_cases hw : w = .held
      · rw [if_pos hw] at h
        subst hw
        cases h
        apply giveBack hp rfl
      · rw [if_neg hw] at h
        cases h
        apply lower hp hw
  | clearing =>
      simp only [access, hp] at h
      cases h
      apply clear hp
  | outside => simp [access, hp] at h
  | waiting => simp [access, hp] at h
  | asleep => simp [access, hp] at h
  | waking => simp [access, hp] at h

namespace LockState

variable {s s' : LockState} {t u : ThreadId} {h : History LockEvent} {e : LockEvent}

/-- A step tells who holds the lock behind it. -/
theorem Step.holds (k : Step s u e s') :
  s'.holds t = if u = t then e.takes || s.holds t && !e.givesBack else s.holds t
  := by
  cases k with
  | call _ =>
      rw [holds_set]
      by_cases hu : u = t
      · simp [hu, Contender.call, LockState.holds]
      · simp [hu, Ne.symm hu]
  | access ha =>
      by_cases hu : u = t
      · subst hu
        rw [holds_set, if_pos rfl, if_pos rfl, phase, LockState.holds]
        cases Contender.Access.of_access ha with
        | take hp hw =>
            rcases hp with hp | hp
            · simp [hp, hw, Contender.holder]
            · simp [hp, hw, Contender.holder]
        | fail hp hw => simp [hp, hw]
        | await hp hw => simp [hp, hw]
        | hurry hp hw => simp [hp, hw]
        | takeMarked hp hw => simp [hp, hw, Contender.holder]
        | mark hp hw => simp [hp, hw]
        | giveBack hp hw => simp [hp, hw]
        | lower hp hw => simp [hp, hw]
        | clear hp => simp [hp]
      · rw [holds_set, if_neg (Ne.symm hu), if_neg hu]
  | sleep _ _ => simp
  | resume _ => simp
  | wake _ _ => simp
  | wakeNobody _ _ => simp

/-- What a thread knows of itself is what happened: it holds the lock if it took it and has not
given it back. -/
theorem holds_of_run (r : system.Run h s) :
  s.holds t = holdsAfter t h
  := by
  apply r.invariant (I := fun h s => s.holds t = holdsAfter t h)
  · rintro _ rfl
    rfl
  · intro h s u e s' ih k
    rw [holdsAfter_concat, Step.holds k, ih]

/-! ### Calls that nobody interrupts -/

section

variable {w w' : LockWord} {x x' : Contender} {c : LockCall}

theorem set_set :
  (s.set t w x).set t w' x' = s.set t w' x'
  := by
  simp [set]

/-- A call and its first access. -/
theorem path_call (hc : (s.threads t).mayCall c = true)
    (ha : ((s.threads t).call c).access s.word = some (w, x)) :
  system.Path s [(t, .calls c), (t, .finds ((s.threads t).call c).phase s.word)] (s.set t w x)
  := by
  have hx : (s.set t s.word ((s.threads t).call c)).threads t = (s.threads t).call c := by
    rw [threads_set, if_pos rfl]
  have k := Step.access (s := s.set t s.word ((s.threads t).call c)) (t := t) (by rw [hx]; exact ha)
  rw [set_set, phase, hx] at k
  apply System.Path.step (System.Path.single (Step.call hc)) k

/-- A blocking call that finds the lock free takes it. -/
theorem path_lock (hp : s.phase t = .outside) (hw : s.word = .free) :
  system.Path s [(t, .calls .lock), (t, .finds .locking .free)] (s.set t s.word.tryTake.2 .holder)
  := by
  rw [← hw]
  apply path_call (c := .lock)
  · rw [phase] at hp
    simp [Contender.mayCall, hp]
  · simp [Contender.call, LockCall.start, Contender.access, LockWord.tryTake, hw]

/-- A call that does not block takes the lock if it is free, and changes nothing otherwise. -/
theorem path_tryLock (hp : s.phase t = .outside) :
  system.Path s [(t, .calls .tryLock), (t, .finds .trying s.word)]
    (s.set t s.word.tryTake.2 (if s.word.tryTake.1 then .holder else s.threads t))
  := by
  apply path_call (c := .tryLock)
  · rw [phase] at hp
    simp [Contender.mayCall, hp]
  · have hx : { s.threads t with phase := .outside } = s.threads t := by
      rw [← hp]
      rfl
    simp [Contender.call, LockCall.start, Contender.access, LockWord.tryTake, hx]

/-- What a thread does behind a call that does not block is to look at the word. -/
theorem eq_finds_of_trying (hp : s.phase t = .trying) (k : Step s t e s') :
  e = .finds .trying s.word
  := by
  cases k with
  | call hc =>
      rw [phase] at hp
      simp [Contender.mayCall, hp] at hc
  | access _ => rw [hp]
  | sleep hp' _ => simp [hp] at hp'
  | resume hp' => simp [hp] at hp'
  | wake hp' _ => simp [hp] at hp'
  | wakeNobody hp' _ => simp [hp] at hp'

/-- A call that does not block has one outcome if nobody interrupts it. -/
theorem eq_finds_of_path_tryLock (p : system.Path s [(t, .calls .tryLock), (t, e)] s') :
  e = .finds .trying s.word
  := by
  obtain ⟨_, q, k⟩ := System.Path.of_concat (h := [(t, LockEvent.calls .tryLock)]) p
  obtain ⟨_, q, c⟩ := System.Path.of_concat (h := []) q
  obtain rfl := q.eq_of_nil
  cases c with
  | call _ =>
      apply eq_finds_of_trying _ k
      rw [phase_set, if_pos rfl]
      rfl

/-- A thread that is awake again takes the lock with the mark on it if it is free. -/
theorem path_mark (hp : s.phase t = .marking) (hw : s.word = .free) :
  system.Path s [(t, .finds .marking .free)] (s.set t s.word.mark .holder)
  := by
  rw [← hp, ← hw]
  apply System.Path.single
  apply Step.access
  rw [phase] at hp
  simp [Contender.access, hp, hw]

/-- Somebody is woken by whoever stands before that. -/
theorem exists_wakes (hp : s.phase t = .waking) :
  ∃ v s', Step s t (.wakes v) s' ∧ s'.word = s.word ∧ s'.phase t = .outside
    ∧ s'.holds t = s.holds t
  := by
  by_cases ha : ∃ u, s.phase u = .asleep
  · obtain ⟨u, hu⟩ := ha
    refine ⟨some u, _, .wake hp hu, ?_, ?_, ?_⟩
    · simp
    · rw [phase_enter, if_pos rfl]
    · simp
  · refine ⟨none, _, .wakeNobody hp (not_exists.mp ha), ?_, ?_, ?_⟩
    · simp
    · rw [phase_enter, if_pos rfl]
    · simp

/-- A call that gives the lock back leaves the word that it leaves as a whole, and it wakes
somebody if the word was marked. -/
theorem path_unlock (hp : s.phase t = .outside) (hh : s.holds t = true) :
  ∃ h s', system.Path s h s' ∧ s'.word = s.word.giveBack.2 ∧ s'.phase t = .outside
    ∧ s'.holds t = false ∧ ((∃ v, (t, .wakes v) ∈ h) ↔ s.word.giveBack.1 = true)
  := by
  have hc : (s.threads t).mayCall .unlock = true := by
    rw [phase] at hp
    rw [holds] at hh
    simp [Contender.mayCall, hp, hh]
  by_cases hw : s.word = .held
  · have p := path_call (w := s.word.countDown) (x := {}) hc (by
      simp [Contender.call, LockCall.start, Contender.access, hw])
    refine ⟨_, _, p, ?_, ?_, ?_, ?_⟩
    · simp [LockWord.giveBack, hw]
    · rw [phase_set, if_pos rfl]
    · rw [holds_set, if_pos rfl]
    · simp [LockWord.giveBack, hw]
  · have p := path_call (w := s.word.countDown) (x := { s.threads t with phase := .clearing }) hc
      (by simp [Contender.call, LockCall.start, Contender.access, hw])
    have k := Step.access (s := s.set t s.word.countDown { s.threads t with phase := .clearing })
      (t := t) (w := .free) (x := { phase := .waking })
      (by simp [threads_set, Contender.access])
    rw [set_set] at k
    obtain ⟨v, s', k', hw', hp', hh'⟩ :=
      exists_wakes (t := t) (s := s.set t .free { phase := .waking })
        (by rw [phase_set, if_pos rfl])
    refine ⟨_, s', (p.step k).step k', ?_, hp', ?_, ?_⟩
    · rw [hw']
      simp [LockWord.giveBack, hw]
    · rw [hh', holds_set, if_pos rfl]
    · simp [LockWord.giveBack, hw]

end

end LockState

end SyncLayer
