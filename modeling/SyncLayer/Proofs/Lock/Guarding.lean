import SyncLayer.Proofs.Lock.Coherence

/-!
# Data that an instrumented lock guards

A number stands beside an instrumented lock. Whenever a thread has acquired the lock it loads the
number and stores the next one, which are two plain accesses, before it begins the release. No
update is lost, since only the thread that holds the lock stands between its two accesses. So behind
all of them the number, and what the lock counted, is how often the lock was acquired.
-/

namespace SyncLayer

/-- Where a thread stands with the data that the lock guards: it does not use them; it has acquired
the lock; it has loaded the number; or it has stored the next one. -/
inductive SectionPhase where
  | outside
  | entered
  | loaded (v : Nat)
  | stored
deriving DecidableEq, Repr

/-- An instrumented lock, the number that it guards, and where the threads stand with it. -/
structure GuardedState where
  base : InstrumentedState
  value : Nat := 0
  sections : ThreadId → SectionPhase := fun _ => .outside

/-- What is seen of a step: what concerns the lock, and that a thread loads or stores the number. -/
inductive GuardedEvent where
  | uses (e : InstrumentedEvent)
  | loads (v : Nat)
  | stores (v : Nat)
deriving DecidableEq, Repr

namespace GuardedEvent

/-- What is seen of the lock. -/
def used? : GuardedEvent → Option InstrumentedEvent
  | uses e => some e
  | _ => none

/-- The thread stores the number. -/
def isStore : GuardedEvent → Bool
  | stores _ => true
  | _ => false

end GuardedEvent

/-- Where a thread stands with the number behind a step on the lock. -/
def SectionPhase.behind (x : SectionPhase) : InstrumentedEvent → SectionPhase
  | .acts (.acquires _) => entered
  | .acts .leaves => outside
  | _ => x

namespace SectionPhase

/-- The number of acquisitions of a thread for which it has still to store the number. -/
def pending : SectionPhase → Nat
  | entered | loaded _ => 1
  | _ => 0

variable {x : SectionPhase} {p p' : HolderPhase} {e : InstrumentedEvent} {v : Nat}

/-- A thread that uses the number does so behind a step only if it has acquired the lock there. -/
theorem inside_behind (k : p.Turn e p') (i : x ≠ outside → ∃ site, p = .holding site)
    (hx : x.behind e ≠ outside) :
  ∃ site, p' = .holding site
  := by
  cases k with
  | @note site => exact ⟨site, rfl⟩
  | leave => exact absurd rfl hx
  | _ =>
      obtain ⟨_, hp⟩ := i hx
      cases hp

/-- A step on the lock loads nothing. -/
theorem of_behind_eq_loaded (hx : x.behind e = loaded v) :
  x = loaded v
  := by
  rw [behind.eq_def] at hx
  split at hx
  · cases hx
  · cases hx
  · exact hx

/-- A thread that acquires the lock has to store the number, and one that releases it has done
so. -/
theorem pending_behind (k : p.Turn e p') (i : x ≠ outside → ∃ site, p = .holding site)
    (hl : e = .acts .leaves → x = stored) :
  x.pending + e.acquires.toNat = (x.behind e).pending
  := by
  cases k with
  | note =>
      have hx : x = outside := by
        by_contra hx
        obtain ⟨_, hp⟩ := i hx
        cases hp
      rw [hx]
      rfl
  | leave =>
      rw [hl rfl]
      rfl
  | _ => rfl

end SectionPhase

namespace GuardedState

/-- The state with another lock and another number, in which a thread stands somewhere else with
it. -/
def set (g : GuardedState) (t : ThreadId) (s : InstrumentedState) (v : Nat) (x : SectionPhase) :
  GuardedState
  :=
  { base := s, value := v, sections := Function.update g.sections t x }

/-- The steps of a thread. It begins a release only when it has stored the number. -/
inductive Step : GuardedState → ThreadId → GuardedEvent → GuardedState → Prop
  | use {g : GuardedState} {t : ThreadId} {e : InstrumentedEvent} {s : InstrumentedState}
      (k : InstrumentedState.Step g.base t e s) (hl : e = .acts .leaves → g.sections t = .stored) :
      Step g t (.uses e) (g.set t s g.value ((g.sections t).behind e))
  | load {g : GuardedState} {t : ThreadId} (hx : g.sections t = .entered) :
      Step g t (.loads g.value) (g.set t g.base g.value (.loaded g.value))
  | store {g : GuardedState} {t : ThreadId} {v : Nat} (hx : g.sections t = .loaded v) :
      Step g t (.stores (v + 1)) (g.set t g.base (v + 1) .stored)

/-- The threads around a lock that nobody has acquired and a number that is zero. -/
def system : System GuardedState GuardedEvent where
  Starts g := ∃ s, InstrumentedState.system.Starts s ∧ g = { base := s }
  Step := Step

variable {g g' : GuardedState} {t u : ThreadId} {e : GuardedEvent} {h : History GuardedEvent}
  {x : SectionPhase} {s : InstrumentedState} {v : Nat}

@[simp]
theorem base_set :
  (g.set t s v x).base = s
  := rfl

@[simp]
theorem value_set :
  (g.set t s v x).value = v
  := rfl

theorem sections_set :
  (g.set t s v x).sections u = if u = t then x else g.sections u
  := Function.update_apply g.sections t x u

/-- What the threads do with the lock is a run of the protocol of an instrumented lock. -/
theorem base_of_run (r : system.Run h g) :
  InstrumentedState.system.Run (h.through GuardedEvent.used?) g.base
  := by
  refine r.through (f := base) ?_ ?_
  · rintro _ ⟨s, hs, rfl⟩
    exact hs
  · intro g t e g' _ k
    cases k with
    | use k _ => exact k
    | load _ => rfl
    | store _ => rfl

/-- What holds of a guarded number: a thread uses it only while it has acquired the lock; what a
thread has loaded is the number; the number is how often it was stored; and every thread stored it
for each of its acquisitions but the one for which it has still to do so. -/
structure Guarded (h : History GuardedEvent) (g : GuardedState) : Prop where
  inside : ∀ t, g.sections t ≠ .outside → ∃ site, g.base.phases t = .holding site
  current : ∀ t v, g.sections t = .loaded v → v = g.value
  stored : g.value = h.times GuardedEvent.isStore
  balance : ∀ t, (h.through GuardedEvent.used?).timesBy t InstrumentedEvent.acquires
    = h.timesBy t GuardedEvent.isStore + (g.sections t).pending

namespace Guarded

/-- A step that may change where its thread stands, and that stores the number only if no other
thread uses it, keeps it guarded. -/
theorem step (i : Guarded h g) (others : ∀ u, u ≠ t → s.phases u = g.base.phases u)
    (inside : x ≠ .outside → ∃ site, s.phases t = .holding site)
    (current : ∀ w, x = .loaded w → w = v) (stored : v = g.value + e.isStore.toNat)
    (alone : e.isStore = true → ∀ u, u ≠ t → g.sections u = .outside)
    (balance : (g.sections t).pending + (e.used?.any InstrumentedEvent.acquires).toNat
      = x.pending + e.isStore.toNat) :
  Guarded (h ++ [(t, e)]) (g.set t s v x)
  := by
  constructor
  · intro u hu
    rw [sections_set] at hu
    by_cases hut : u = t
    · subst hut
      rw [if_pos rfl] at hu
      apply inside hu
    · rw [if_neg hut] at hu
      obtain ⟨site, hs⟩ := i.inside u hu
      exact ⟨site, (others u hut).trans hs⟩
  · intro u w hu
    rw [sections_set] at hu
    split at hu
    · apply current w hu
    · rename_i hut
      have he : e.isStore = false := by
        by_contra he
        rw [alone (eq_true_of_ne_false he) u hut] at hu
        cases hu
      rw [value_set, stored, he]
      apply i.current u w hu
  · rw [History.times_concat, value_set, stored, i.stored]
  · intro u
    rw [History.timesBy_through_concat, History.timesBy_concat, sections_set, i.balance u]
    by_cases hut : u = t
    · subst hut
      simp only [if_true]
      omega
    · rw [if_neg (Ne.symm hut), if_neg (Ne.symm hut), if_neg hut]
      rfl

/-- A step on the lock keeps the number guarded. -/
theorem use {e : InstrumentedEvent} (i : Guarded h g)
    (r : InstrumentedState.system.Reachable g.base) (k : InstrumentedState.Step g.base t e s)
    (hl : e = .acts .leaves → g.sections t = .stored) :
  Guarded (h ++ [(t, .uses e)]) (g.set t s g.value ((g.sections t).behind e))
  := by
  have turn := k.turn r
  apply i.step
  case others =>
    intro u hu
    apply k.phases_of_ne hu
  case inside =>
    apply SectionPhase.inside_behind turn (i.inside t)
  case current =>
    intro w hw
    apply i.current t w (SectionPhase.of_behind_eq_loaded hw)
  case stored => rfl
  case alone =>
    intro he
    cases he
  case balance =>
    apply SectionPhase.pending_behind turn (i.inside t) hl

/-- A thread loads the number that it guards. -/
theorem load (i : Guarded h g) (hx : g.sections t = .entered) :
  Guarded (h ++ [(t, .loads g.value)]) (g.set t g.base g.value (.loaded g.value))
  := by
  apply i.step
  case others =>
    intro u _
    rfl
  case inside =>
    intro _
    apply i.inside t
    rw [hx]
    simp
  case current =>
    intro w hw
    cases hw
    rfl
  case stored => rfl
  case alone =>
    intro he
    cases he
  case balance =>
    rw [hx]
    rfl

/-- The only thread that has loaded the number stores the next one. -/
theorem store (i : Guarded h g) (r : InstrumentedState.system.Reachable g.base)
    (hx : g.sections t = .loaded v) :
  Guarded (h ++ [(t, .stores (v + 1))]) (g.set t g.base (v + 1) .stored)
  := by
  have ht : g.sections t ≠ .outside := by
    rw [hx]
    simp
  apply i.step
  case others =>
    intro u _
    rfl
  case inside =>
    intro _
    apply i.inside t ht
  case current =>
    intro w hw
    cases hw
  case stored =>
    rw [i.current t v hx]
    rfl
  case alone =>
    intro _ u hut
    by_contra hu
    obtain ⟨_, hs⟩ := i.inside t ht
    obtain ⟨_, hs'⟩ := i.inside u hu
    obtain ⟨_, r⟩ := r
    exact hut (InstrumentedState.eq_of_holding r hs' hs)
  case balance =>
    rw [hx]
    rfl

/-- The number is guarded at any time. -/
theorem of_run (r : system.Run h g) :
  Guarded h g
  := by
  refine r.induct ?_ ?_
  · rintro _ ⟨s, hs, rfl⟩
    constructor
    · intro t ht
      exact absurd rfl ht
    · intro t v ht
      cases ht
    · rfl
    · intro t
      rfl
  · intro h g t e g' r i k
    have rb := (base_of_run r).reachable
    cases k with
    | use k hl => apply i.use rb k hl
    | load hx => apply i.load hx
    | store hx => apply i.store rb hx

end Guarded

end GuardedState

/-! ### The lock and its reports -/

theorem Lock.heldState_eq_locked {l : Lock} :
  l.heldState = "Locked" ↔ l.held = true
  := by
  cases hl : l.held <;> simp [heldState, hl]

namespace InstrumentedState

variable {s s' : InstrumentedState} {h : History InstrumentedEvent} {t : ThreadId}
  {e : InstrumentedEvent} {site : Site}

/-- A call that does not block takes the word if it is free, and ends otherwise and changes
nothing. -/
theorem Step.of_trying (r : system.Run h s) (hp : s.phases t = .taking .tryAcquire site)
    (k : Step s t e s') :
  s.lock.word = .free ∧ s'.phases t = .counting site 0
    ∨ s.lock.word ≠ .free ∧ s'.phases t = .outside ∧ s'.lock = s.lock
  := by
  have m := meets_of_reachable (t := t) r.reachable
  rw [hp] at m
  have hx : s.native.threads t = { phase := .trying } := m
  cases k with
  | call _ _ hp' =>
      rw [hp] at hp'
      cases hp'
  | leave hp' =>
      rw [hp] at hp'
      cases hp'
  | access _ h =>
      rw [hp] at h
      cases h
  | native _ k hc =>
      rw [phases_goOn, if_pos rfl, hp]
      cases k with
      | call _ => exact absurd rfl (hc _)
      | access ha =>
          rw [LockState.threads_set, if_pos rfl]
          rw [hx] at ha
          cases Contender.Access.of_access ha with
          | take _ hw => exact .inl ⟨hw, rfl⟩
          | fail _ hw => exact .inr ⟨hw, rfl, rfl⟩
          | await h | hurry h | takeMarked h | mark h | giveBack h | lower h | clear h => cases h
      | sleep h | resume h | wake h | wakeNobody h => simp [LockState.phase, hx] at h

/-- The start of a call changes nothing of the lock. -/
theorem Step.of_outside (r : system.Run h s) (hp : s.phases t = .outside) (k : Step s t e s') :
  s'.lock = s.lock
  := by
  have m := meets_of_reachable (t := t) r.reachable
  rw [hp] at m
  cases k with
  | call _ _ _ => rfl
  | leave _ => rfl
  | access _ h =>
      rw [hp] at h
      cases h
  | native _ k hc =>
      have out := k.phase_ne_outside hc
      rw [LockState.phase, show s.native.threads t = _ from m] at out
      exact absurd rfl out

/-- Where no thread is in a call and none has acquired the lock, the lock is free, and it is noted
not to be held. -/
theorem free_of_outside (r : system.Run h s) (hp : ∀ t, s.phases t = .outside) :
  s.lock.word = .free ∧ s.lock.held = false ∧ ∀ t, s.contenders t = {}
  := by
  have hx : ∀ t, s.contenders t = {} := by
    intro t
    have m := meets_of_reachable (t := t) r.reachable
    rw [hp] at m
    exact m
  have hn : ∀ t, s.native.holds t = false := by
    intro t
    rw [LockState.holds, show s.native.threads t = _ from hx t]
  exact ⟨(exclusive_of_reachable r.reachable).free_iff.mpr hn, (Coherent.of_run r).idle hn, hx⟩

end InstrumentedState

namespace GuardedState

variable {g : GuardedState} {h : History GuardedEvent}

/-- Where no thread is in a call and none has acquired the lock, the number is how often the lock
was acquired, and every acquisition was counted. -/
theorem acquisitions_of_run (r : system.Run h g) (hp : ∀ t, g.base.phases t = .outside) :
  (h.through GuardedEvent.used?).times InstrumentedEvent.acquires = g.value
    ∧ (h.through GuardedEvent.used?).times InstrumentedEvent.acquires
      = (h.through GuardedEvent.used?).times InstrumentedEvent.counts
  := by
  have i := Guarded.of_run r
  constructor
  · rw [i.stored]
    apply History.times_eq_of_timesBy_eq
    intro t
    have hx : g.sections t = .outside := by
      by_contra hx
      obtain ⟨site, hs⟩ := i.inside t hx
      rw [hp] at hs
      cases hs
    rw [i.balance t, hx]
    rfl
  · apply History.times_eq_of_timesBy_eq
    intro t
    have hc := InstrumentedState.timesBy_of_run (t := t) (f := HolderPhase.unreturned) rfl
      (fun _ _ _ k => k.unreturned) (base_of_run r)
    rw [hc, hp]
    rfl

/-- What an instrumented lock says of its holder is true, whatever the threads do at the same time.
It is noted to be held only while some thread has it. From the return of an acquisition until its
release begins it is noted to be held, and its site is that of the acquisition. The counters are
the number of acquisitions that were counted; each thread counts every acquisition once, before it
returns; and a call that does not block and fails changes nothing. If every thread loads a number
and stores the next one between each acquisition and its release, then behind all of them the number
and the total of the counters are the number of the acquisitions, the lock is noted not to be held,
and a call that does not block acquires it. -/
theorem coherence :
  (∀ h s, InstrumentedState.system.Run h s →
    (s.lock.heldState = "Locked" → ∃ t, holdsAfter t (h.through InstrumentedEvent.native?) = true)
    ∧ (∀ t site, openSite t h = some site →
      s.lock.heldState = "Locked" ∧ s.lock.site = some site)
    ∧ s.lock.stats.counters.uncontended + s.lock.stats.counters.contended
      = .ofNat (h.times InstrumentedEvent.counts)
    ∧ (h.times InstrumentedEvent.counts < UInt64.size →
      s.lock.stats.counters.uncontended.toNat + s.lock.stats.counters.contended.toNat
        = h.times InstrumentedEvent.counts)
    ∧ (∀ t, h.timesBy t InstrumentedEvent.takes
        = h.timesBy t InstrumentedEvent.counts + (s.phases t).uncounted
      ∧ h.timesBy t InstrumentedEvent.counts
        = h.timesBy t InstrumentedEvent.acquires + (s.phases t).unreturned)
    ∧ (∀ t e s', s.phases t = .outside → InstrumentedState.Step s t e s' → s'.lock = s.lock)
    ∧ ∀ t site e s', s.phases t = .taking .tryAcquire site → InstrumentedState.Step s t e s' →
      s.lock.word = .free ∧ s'.phases t = .counting site 0
        ∨ s.lock.word ≠ .free ∧ s'.phases t = .outside ∧ s'.lock = s.lock)
  ∧ ∀ h g, system.Run h g → (∀ t, g.base.phases t = .outside) →
    g.value = (h.through GuardedEvent.used?).times InstrumentedEvent.acquires
    ∧ (g.value < UInt64.size → g.base.lock.stats.counters.total = .ok (.ofNat g.value))
    ∧ g.base.lock.heldState = "Unlocked"
    ∧ ∀ settings site, (g.base.lock.tryAcquire settings site).1 = true
      ∧ ∀ t, ∃ h', InstrumentedState.system.Path g.base h'
        (g.base.set t (g.base.lock.tryAcquire settings site).2 .holder (.holding site))
  := by
  constructor
  · intro h s r
    refine ⟨?_, ?_, InstrumentedState.sum_of_run r, ?_, ?_, ?_, ?_⟩
    · intro hl
      exact InstrumentedState.exists_holdsAfter r (Lock.heldState_eq_locked.mp hl)
    · intro t site ho
      rw [Lock.heldState_eq_locked]
      exact InstrumentedState.held_of_openSite r ho
    · intro hn
      exact (InstrumentedState.total_of_run r hn).1
    · intro t
      exact ⟨InstrumentedState.timesBy_of_run rfl (fun _ _ _ k => k.uncounted) r,
        InstrumentedState.timesBy_of_run rfl (fun _ _ _ k => k.unreturned) r⟩
    · intro t e s' hp k
      exact k.of_outside r hp
    · intro t site e s' hp k
      exact k.of_trying r hp
  · intro h g r hp
    have rb := base_of_run r
    obtain ⟨value, counted⟩ := acquisitions_of_run r hp
    obtain ⟨hw, hh, hx⟩ := InstrumentedState.free_of_outside rb hp
    refine ⟨value.symm, ?_, ?_, ?_⟩
    · intro hn
      rw [← value, counted] at hn ⊢
      exact (InstrumentedState.total_of_run rb hn).2
    · simp [Lock.heldState, hh]
    · intro settings site
      have ht : (g.base.lock.tryAcquire settings site).1 = true := by
        simp [Lock.tryAcquire, LockWord.tryTake, LockWord.isFree, hw]
      refine ⟨ht, ?_⟩
      intro t
      have p := InstrumentedState.path_tryAcquire settings site (hp t) (hx t)
      rw [if_pos ht] at p
      exact p

/-- A thread has stored the number and released the lock, and another one, which tried to acquire
the lock in between, did not. -/
theorem exists_run_refused (a b : Site) :
  ∃ h g, system.Run h g ∧ (∀ t, g.base.phases t = .outside) ∧ g.value = 1
  := by
  have r : system.Run [] { base := { lock := .fresh "" (.fresh none) } } :=
    ⟨_, ⟨_, ⟨"", none, rfl⟩, rfl⟩, .refl⟩
  have r := r.step (Step.use (t := 1) (.call .acquire a rfl) (by simp))
  have r := r.step (Step.use (t := 1)
    (.native 0 (.access (w := .held) (x := .holder) rfl) (by simp)) (by simp))
  have r := r.step (Step.use (t := 1) (.access {} (e := .counts false)
    (l := { word := .held, description := "", stats := .on none ⟨1, 0, 0, 0⟩ })
    (p := .signing a) rfl) (by simp))
  have r := r.step (Step.use (t := 1) (.access {} (e := .signs)
    (l := { word := .held, description := "", site := some a, stats := .on none ⟨1, 0, 0, 0⟩ })
    (p := .noting a) rfl) (by simp))
  have r := r.step (Step.use (t := 1) (.access {} (e := .acquires a)
    (l := ⟨.held, "", some a, true, .on none ⟨1, 0, 0, 0⟩⟩) (p := .holding a) rfl) (by simp))
  have r := r.step (Step.load (t := 1) rfl)
  have r := r.step (Step.use (t := 2) (.call .tryAcquire b rfl) (by simp))
  have r := r.step (Step.use (t := 2)
    (.native 0 (.access (w := .held) (x := {}) rfl) (by simp)) (by simp))
  have r := r.step (Step.store (t := 1) rfl)
  have r := r.step (Step.use (t := 1) (.leave rfl) (fun _ => rfl))
  have r := r.step (Step.use (t := 1) (.access {} (e := .clears)
    (l := ⟨.held, "", some a, false, .on none ⟨1, 0, 0, 0⟩⟩) (p := .givingBack) rfl) (by simp))
  have r := r.step (Step.use (t := 1) (.native 0
    (.access (w := LockWord.held.countDown) (x := {}) rfl) (by simp)) (by simp))
  refine ⟨_, _, r, ?_, rfl⟩
  intro t
  by_cases h1 : t = 1
  · rw [h1]
    rfl
  · by_cases h2 : t = 2
    · rw [h2]
      rfl
    · simp [InstrumentedState.phases_act, InstrumentedState.phases_goOn, h1, h2]

/-- The number and the total of the counters are one, and the lock is free. -/
theorem coherence_refused :
  ∃ h g, system.Run h g ∧ (∀ t, g.base.phases t = .outside) ∧ g.value = 1
    ∧ g.base.lock.stats.counters.total = .ok 1 ∧ g.base.lock.heldState = "Unlocked"
    ∧ (h.through GuardedEvent.used?).times InstrumentedEvent.acquires = 1
  := by
  obtain ⟨h, g, r, hp, hv⟩ := exists_run_refused ⟨"A", "", 1, 1⟩ ⟨"B", "", 2, 1⟩
  obtain ⟨value, total, unlocked, _⟩ := coherence.2 h g r hp
  rw [hv] at value total
  exact ⟨h, g, r, hp, hv, total (by decide), unlocked, value.symm⟩

end GuardedState

end SyncLayer
