import SyncLayer.Lock.Holder
import SyncLayer.Proofs.Lock.Exclusion

/-!
# The protocol of an instrumented lock

Any threads use one instrumented lock. A step of a thread is the start of a call or of a release,
one access to what is kept about the lock, or a step on the word, of which the protocol of a lock
says what it is. Only the word decides who holds the lock, so what the threads do with it is a run
of that protocol, whatever they do with the rest.
-/

namespace SyncLayer

/-- An instrumented lock and the threads that use it: what they are to the word, and where they
stand. -/
structure InstrumentedState where
  lock : Lock
  contenders : ThreadId → Contender := fun _ => {}
  phases : ThreadId → HolderPhase := fun _ => .outside

/-- What is seen of a step: what concerns the word, or what concerns the rest. -/
inductive InstrumentedEvent where
  | native (e : LockEvent)
  | acts (e : HolderEvent)
deriving DecidableEq, Repr

/-- What is seen of a step on the word. -/
def InstrumentedEvent.native? : InstrumentedEvent → Option LockEvent
  | native e => some e
  | acts e => e.native?.map .calls

/-- What a step that does not concern the word makes of a thread there. -/
def HolderEvent.contender (e : HolderEvent) (x : Contender) : Contender :=
  match e.native? with
  | some c => x.call c
  | none => x

namespace InstrumentedState

/-- The word of the lock with the threads that contend for it. -/
def native (s : InstrumentedState) : LockState :=
  { word := s.lock.word, threads := s.contenders }

/-- The state with another lock, and with another thread in the place of one. -/
def set (s : InstrumentedState) (t : ThreadId) (l : Lock) (x : Contender) (p : HolderPhase) :
  InstrumentedState
  :=
  { lock := l
    contenders := Function.update s.contenders t x
    phases := Function.update s.phases t p }

/-- The state behind a step of a thread that does not concern the word. -/
def act (s : InstrumentedState) (t : ThreadId) (e : HolderEvent) (l : Lock) (p : HolderPhase) :
  InstrumentedState
  :=
  s.set t l (e.contender (s.contenders t)) p

/-- The state behind a step of a thread that concerns the word. -/
def goOn (s : InstrumentedState) (t : ThreadId) (n : LockState) (measured : UInt64) :
  InstrumentedState
  :=
  { lock := { s.lock with word := n.word }
    contenders := n.threads
    phases := Function.update s.phases t ((s.phases t).goOn (n.threads t) measured) }

/-- The steps of a thread. A clock may show any delay, and the settings may be any. -/
inductive Step : InstrumentedState → ThreadId → InstrumentedEvent → InstrumentedState → Prop
  | call {s : InstrumentedState} {t : ThreadId} (c : HolderCall) (site : Site)
      (hp : s.phases t = .outside) :
      Step s t (.acts (.calls c site)) (s.act t (.calls c site) s.lock (.taking c site))
  | leave {s : InstrumentedState} {t : ThreadId} {site : Site} (hp : s.phases t = .holding site) :
      Step s t (.acts .leaves) (s.act t .leaves s.lock .leaving)
  | access {s : InstrumentedState} {t : ThreadId} {e : HolderEvent} {l : Lock} {p : HolderPhase}
      (settings : Settings) (h : (s.phases t).access settings s.lock = some (e, l, p)) :
      Step s t (.acts e) (s.act t e l p)
  | native {s : InstrumentedState} {t : ThreadId} {e : LockEvent} {n : LockState}
      (measured : UInt64) (k : LockState.Step s.native t e n) (hc : ∀ c, e ≠ .calls c) :
      Step s t (.native e) (s.goOn t n measured)

/-- The threads around a lock that nobody has acquired and that counts acquisitions. -/
def system : System InstrumentedState InstrumentedEvent where
  Starts s := ∃ description threshold, s = { lock := .fresh description (.fresh threshold) }
  Step := Step

end InstrumentedState

/-! ### The steps on the word -/

namespace LockState

variable {s s' : LockState} {t u : ThreadId} {e : LockEvent} {p : LockPhase}

theorem threads_enter :
  (s.enter t p).threads u
    = if u = t then { phase := p, holds := (s.threads t).holds } else s.threads u
  := threads_set

/-- A thread in no call starts one. -/
theorem Step.phase_ne_outside (k : Step s t e s') (hc : ∀ c, e ≠ .calls c) :
  s.phase t ≠ .outside
  := by
  intro hp
  cases k with
  | call _ => exact absurd rfl (hc _)
  | access ha =>
      rw [phase] at hp
      simp [Contender.access, hp] at ha
  | sleep hp' _ => simp [hp] at hp'
  | resume hp' => simp [hp] at hp'
  | wake hp' _ => simp [hp] at hp'
  | wakeNobody hp' _ => simp [hp] at hp'

/-- A thread takes the word in a call to do so, and if it is free. -/
theorem Step.of_takes (k : Step s t e s') (he : e.takes = true) :
  s.word = .free ∧ (s.phase t = .locking ∨ s.phase t = .trying ∨ s.phase t = .marking)
  := by
  cases k with
  | access _ =>
      cases hp : s.phase t with
      | locking => simpa [hp] using he
      | trying => simpa [hp] using he
      | marking => simpa [hp] using he
      | _ => simp [hp] at he
  | _ => simp at he

end LockState

/-! ### The accesses of a thread -/

namespace HolderPhase

/-- The accesses of a thread, one by one: it counts an acquisition that was not contended, or one
that was, or it does not count; it adds the delay, it keeps the delay if it is the longest, and it
stores its site; it notes that the lock is held, and that it is not. -/
inductive Access (l : Lock) : HolderPhase → HolderEvent → Lock → HolderPhase → Prop
  | count {site : Site} {delay : UInt64} (ho : l.stats.isOn = true) :
      Access l (counting site delay) (.counts false)
        { l with stats := l.stats.change (.count false) } (signing site)
  | countContended {site : Site} {delay : UInt64} (ho : l.stats.isOn = true) :
      Access l (counting site delay) (.counts true)
        { l with stats := l.stats.change (.count true) } (adding site delay)
  | pass {site : Site} {delay : UInt64} (ho : l.stats.isOn = false) :
      Access l (counting site delay) .passes l (signing site)
  | add {site : Site} {delay : UInt64} :
      Access l (adding site delay) .adds
        { l with stats := l.stats.change (.addDelay delay) } (raising site delay)
  | raise {site : Site} {delay : UInt64} :
      Access l (raising site delay) .raises
        { l with stats := l.stats.change (.raiseDelay delay) } (signing site)
  | sign {site : Site} :
      Access l (signing site) .signs { l with site := some site } (noting site)
  | note {site : Site} :
      Access l (noting site) (.acquires site) { l with held := true } (holding site)
  | clear : Access l leaving .clears { l with held := false } givingBack

variable {settings : Settings} {l l' : Lock} {p p' : HolderPhase} {e : HolderEvent}

/-- An access of a thread is one of the eight. -/
theorem Access.of_access (h : p.access settings l = some (e, l', p')) :
  Access l p e l' p'
  := by
  cases p with
  | counting site delay =>
      rw [access] at h
      cases hs : l.stats with
      | off =>
          rw [hs] at h
          cases h
          apply pass
          rw [hs]
          rfl
      | on threshold c =>
          have ho : l.stats.isOn = true := by
            rw [hs]
            rfl
          rw [hs] at h
          simp only [LockStats.threshold?] at h
          rw [← hs] at h
          split at h
          · cases h
            apply count ho
          · cases h
            apply countContended ho
  | adding site delay =>
      cases h
      apply add
  | raising site delay =>
      cases h
      apply raise
  | signing site =>
      cases h
      apply sign
  | noting site =>
      cases h
      apply note
  | leaving =>
      cases h
      apply clear
  | outside => cases h
  | taking c site => cases h
  | holding site => cases h
  | givingBack => cases h

/-- No such access concerns the word. -/
theorem Access.word (h : Access l p e l' p') :
  l'.word = l.word
  := by
  cases h <;> rfl

/-! ### What a thread is to the word -/

/-- What a thread is to the word, by where it stands. -/
def Meets (x : Contender) : HolderPhase → Prop
  | outside => x = {}
  | taking .acquire _ =>
    x = { phase := .locking } ∨ x = { phase := .marking } ∨ x = { phase := .waiting }
      ∨ x = { phase := .asleep }
  | taking .tryAcquire _ => x = { phase := .trying }
  | givingBack =>
    x = { phase := .unlocking, holds := true } ∨ x = { phase := .clearing, holds := true }
      ∨ x = { phase := .waking }
  | _ => x = .holder

variable {w w' : LockWord} {x x' : Contender} (measured : UInt64)

/-- A thread that waits for the word, or marks it, is in a blocking call. -/
theorem Meets.eq_acquire (m : p.Meets x)
    (h : x.phase = .locking ∨ x.phase = .marking ∨ x.phase = .waiting ∨ x.phase = .asleep) :
  ∃ site, p = taking .acquire site ∧ x.holds = false
  := by
  cases p with
  | taking c site =>
      cases c with
      | acquire => rcases m with rfl | rfl | rfl | rfl <;> exact ⟨site, rfl, rfl⟩
      | tryAcquire =>
          cases m
          simp at h
  | givingBack => rcases m with rfl | rfl | rfl <;> simp at h
  | _ =>
      cases m
      simp [Contender.holder] at h

theorem Meets.eq_tryAcquire (m : p.Meets x) (h : x.phase = .trying) :
  ∃ site, p = taking .tryAcquire site ∧ x = { phase := .trying }
  := by
  cases p with
  | taking c site =>
      cases c with
      | acquire => rcases m with rfl | rfl | rfl | rfl <;> cases h
      | tryAcquire => exact ⟨site, rfl, m⟩
  | givingBack => rcases m with rfl | rfl | rfl <;> cases h
  | _ =>
      cases m
      cases h

theorem Meets.eq_givingBack (m : p.Meets x)
    (h : x.phase = .unlocking ∨ x.phase = .clearing ∨ x.phase = .waking) :
  p = givingBack
  := by
  cases p with
  | taking c site =>
      cases c with
      | acquire => rcases m with rfl | rfl | rfl | rfl <;> simp at h
      | tryAcquire =>
          cases m
          simp at h
  | givingBack => rfl
  | _ =>
      cases m
      simp [Contender.holder] at h

theorem Meets.eq_waking (m : p.Meets x) (h : x.phase = .waking) :
  p = givingBack ∧ x = { phase := .waking }
  := by
  obtain rfl := m.eq_givingBack (.inr (.inr h))
  rcases m with rfl | rfl | hx
  · cases h
  · cases h
  · exact ⟨rfl, hx⟩

/-- A thread is behind an access to the word what it is to be there. -/
theorem Meets.access (m : p.Meets x) (a : x.Access w w' x') :
  (p.goOn x' measured).Meets x'
  := by
  cases a with
  | take h _ =>
      rcases h with h | h
      · obtain ⟨site, rfl, _⟩ := m.eq_acquire (.inl h)
        rfl
      · obtain ⟨site, rfl, _⟩ := m.eq_tryAcquire h
        rfl
  | fail h _ =>
      obtain ⟨site, rfl, rfl⟩ := m.eq_tryAcquire h
      rfl
  | await h _ =>
      obtain ⟨site, rfl, hx⟩ := m.eq_acquire (.inl h)
      rw [hx]
      exact .inr (.inr (.inl rfl))
  | hurry h _ _ =>
      obtain ⟨site, rfl, hx⟩ := m.eq_acquire (.inl h)
      rw [hx]
      exact .inr (.inl rfl)
  | takeMarked h _ =>
      obtain ⟨site, rfl, _⟩ := m.eq_acquire (.inr (.inl h))
      rfl
  | mark h _ =>
      obtain ⟨site, rfl, hx⟩ := m.eq_acquire (.inr (.inl h))
      rw [hx]
      exact .inr (.inr (.inl rfl))
  | giveBack h _ =>
      obtain rfl := m.eq_givingBack (.inl h)
      rfl
  | lower h _ =>
      obtain rfl := m.eq_givingBack (.inl h)
      rcases m with rfl | rfl | rfl
      · exact .inr (.inl rfl)
      · cases h
      · cases h
  | clear h =>
      obtain rfl := m.eq_givingBack (.inr (.inl h))
      exact .inr (.inr rfl)

section

variable {s n : LockState} {t u : ThreadId} {f : LockEvent}

/-- A thread is behind a step on the word what it is to be there. -/
theorem Meets.goOn (m : p.Meets (s.threads t)) (k : LockState.Step s t f n)
    (hc : ∀ c, f ≠ .calls c) :
  (p.goOn (n.threads t) measured).Meets (n.threads t)
  := by
  cases k with
  | call _ => exact absurd rfl (hc _)
  | access ha =>
      rw [LockState.threads_set, if_pos rfl]
      apply m.access _ (.of_access ha)
  | sleep hp _ =>
      obtain ⟨site, rfl, hx⟩ := m.eq_acquire (.inr (.inr (.inl hp)))
      rw [LockState.threads_enter, if_pos rfl, hx]
      exact .inr (.inr (.inr rfl))
  | resume hp =>
      obtain ⟨site, rfl, hx⟩ := m.eq_acquire (.inr (.inr hp))
      rw [LockState.threads_enter, if_pos rfl, hx]
      exact .inr (.inl rfl)
  | @wake v hp hv =>
      have hvt : t ≠ v := by
        rintro rfl
        rw [hp] at hv
        cases hv
      obtain ⟨rfl, hx⟩ := m.eq_waking hp
      rw [LockState.threads_enter, if_pos rfl, LockState.threads_enter, if_neg hvt, hx]
      rfl
  | wakeNobody hp _ =>
      obtain ⟨rfl, hx⟩ := m.eq_waking hp
      rw [LockState.threads_enter, if_pos rfl, hx]
      rfl

/-- A step of a thread on the word leaves another one what it is to be, also if that is woken. -/
theorem Meets.of_ne (m : p.Meets (s.threads u)) (k : LockState.Step s t f n) (hu : u ≠ t) :
  p.Meets (n.threads u)
  := by
  cases k with
  | @wake v _ hv =>
      rw [LockState.threads_enter, if_neg hu, LockState.threads_enter]
      split
      · rename_i huv
        subst huv
        obtain ⟨site, rfl, hx⟩ := m.eq_acquire (.inr (.inr (.inr hv)))
        rw [hx]
        exact .inr (.inl rfl)
      · apply m
  | call | access =>
      rw [LockState.threads_set, if_neg hu]
      apply m
  | sleep | resume | wakeNobody =>
      rw [LockState.threads_enter, if_neg hu]
      apply m

end

/-- Where a thread goes by a step that does not concern the word it is what it is to be. -/
theorem Meets.contender (m : p.Meets x) (a : Access l p e l' p') :
  p'.Meets (e.contender x)
  := by
  cases a with
  | clear =>
      cases m
      exact .inl rfl
  | _ => exact m

end HolderPhase

namespace InstrumentedState

variable {s s' : InstrumentedState} {t u : ThreadId} {e : InstrumentedEvent} {n : LockState}
  {f : LockEvent} {h : History InstrumentedEvent} {measured : UInt64} {g : HolderEvent} {l : Lock}
  {p : HolderPhase}

theorem phases_act :
  (s.act t g l p).phases u = if u = t then p else s.phases u
  := Function.update_apply s.phases t p u

theorem contenders_act :
  (s.act t g l p).contenders u = if u = t then g.contender (s.contenders t) else s.contenders u
  := Function.update_apply s.contenders t _ u

theorem phases_goOn :
  (s.goOn t n measured).phases u
    = if u = t then (s.phases t).goOn (n.threads t) measured else s.phases u
  := Function.update_apply s.phases t _ u

/-- Every thread is to the word what it is to be where it stands. -/
theorem meets_of_reachable (r : system.Reachable s) :
  (s.phases t).Meets (s.contenders t)
  := by
  refine r.invariant (I := fun s => ∀ t, (s.phases t).Meets (s.contenders t)) ?_ ?_ t
  · rintro _ ⟨description, threshold, rfl⟩ t
    rfl
  · intro s t e s' ih k u
    cases k with
    | call c site hp =>
        rw [phases_act, contenders_act]
        split
        · have hx := ih t
          rw [hp] at hx
          rw [show s.contenders t = {} from hx]
          cases c with
          | acquire => exact .inl rfl
          | tryAcquire => rfl
        · apply ih
    | leave hp =>
        rw [phases_act, contenders_act]
        split
        · have m := ih t
          rw [hp] at m
          exact m
        · apply ih
    | access _ h =>
        rw [phases_act, contenders_act]
        split
        · apply (ih t).contender (.of_access h)
        · apply ih
    | native _ k hc =>
        rw [phases_goOn]
        split
        · rename_i hu
          subst hu
          apply (ih u).goOn _ k hc
        · rename_i hu
          apply (ih u).of_ne k hu

/-- A step that asks nothing of the word leaves the word and what the threads are to it. -/
theorem native_act_of_none (hw : l.word = s.lock.word) (hg : g.native? = none) :
  (s.act t g l p).native = s.native
  := by
  simp [native, act, set, HolderEvent.contender, hg, hw]

/-- A step that asks something of the word is the start of a call there. -/
theorem step_act {c : LockCall} (hw : l.word = s.lock.word) (hg : g.native? = some c)
    (hc : (s.contenders t).mayCall c = true) :
  LockState.Step s.native t (.calls c) (s.act t g l p).native
  := by
  have hn :
      (s.act t g l p).native = s.native.set t s.native.word ((s.native.threads t).call c) := by
    simp [native, act, set, HolderEvent.contender, LockState.set, hg, hw]
  rw [hn]
  apply LockState.Step.call hc

/-- What the threads do with the word is a run of the protocol of a lock. -/
theorem native_of_run (r : system.Run h s) :
  LockState.system.Run (h.through InstrumentedEvent.native?) s.native
  := by
  refine r.through (f := native) ?_ ?_
  · rintro _ ⟨description, threshold, rfl⟩
    rfl
  · intro s t e s' r k
    have m := meets_of_reachable (t := t) r
    cases k with
    | call c site hp =>
        rw [hp] at m
        apply step_act rfl rfl
        rw [show s.contenders t = {} from m]
        cases c <;> rfl
    | leave hp => exact native_act_of_none rfl rfl
    | access _ h =>
        have a := HolderPhase.Access.of_access h
        generalize hp : s.phases t = p at m a
        have hw := a.word
        cases a with
        | clear =>
            apply step_act hw rfl
            rw [show s.contenders t = .holder from m]
            rfl
        | _ => exact native_act_of_none hw rfl
    | native _ k hc => exact k

/-- One thread at most holds the lock. -/
theorem exclusive_of_reachable (r : system.Reachable s) :
  LockState.Exclusive s.native
  := by
  obtain ⟨_, r⟩ := r
  apply LockState.Exclusive.of_reachable (native_of_run r).reachable

/-! ### Calls that nobody interrupts -/

variable {l l' : Lock} {x x' : Contender} {p p' : HolderPhase} {site : Site} {settings : Settings}
  {delay : UInt64}

@[simp]
theorem lock_set :
  (s.set t l x p).lock = l
  := rfl

@[simp]
theorem contenders_set :
  (s.set t l x p).contenders t = x
  := by
  simp [set]

@[simp]
theorem phases_set :
  (s.set t l x p).phases t = p
  := by
  simp [set]

theorem set_set :
  (s.set t l x p).set t l' x' p' = s.set t l' x' p'
  := by
  simp [set]

/-- A thread goes on from where it stands. -/
theorem step_set (settings : Settings) (h : p.access settings l = some (g, l', p')) :
  Step (s.set t l x p) t (.acts g) (s.set t l' (g.contender x) p')
  := by
  have k := Step.access (s := s.set t l x p) (t := t) settings (by rw [phases_set]; exact h)
  rw [act, contenders_set, set_set] at k
  exact k

/-- A thread accesses the word where it stands. -/
theorem step_word {w : LockWord} {y : Contender} (measured : UInt64)
    (h : x.access l.word = some (w, y)) :
  ∃ f, Step (s.set t l x p) t (.native f) (s.set t { l with word := w } y (p.goOn y measured))
  := by
  have k : LockState.Step (s.set t l x p).native t
      (.finds ((s.set t l x p).native.phase t) l.word) ((s.set t l x p).native.set t w y) := by
    apply LockState.Step.access
    simpa [native] using h
  have k := Step.native measured k (by simp)
  have hs : (s.set t l x p).goOn t ((s.set t l x p).native.set t w y) measured
      = s.set t { l with word := w } y (p.goOn y measured) := by
    simp [goOn, native, LockState.set, set]
  rw [hs] at k
  exact ⟨_, k⟩

/-- A thread that has counted the acquisition notes that it holds the lock. -/
theorem path_signing (l : Lock) (site : Site) :
  ∃ h, system.Path (s.set t l .holder (.signing site)) h
    (s.set t (l.noteHeld site) .holder (.holding site))
  := by
  have sign : Step (s.set t l .holder (.signing site)) t (.acts .signs)
      (s.set t { l with site := some site } .holder (.noting site)) := step_set {} rfl
  have note : Step (s.set t { l with site := some site } .holder (.noting site)) t
      (.acts (.acquires site)) (s.set t (l.noteHeld site) .holder (.holding site)) :=
    step_set {} rfl
  exact ⟨_, (System.Path.single sign).step note⟩

/-- A thread that has taken the word counts the acquisition, and notes that it holds the lock. -/
theorem path_counting (settings : Settings) (delay : UInt64) (l : Lock) (site : Site) :
  ∃ h, system.Path (s.set t l .holder (.counting site delay)) h
    (s.set t ({ l with stats := l.stats.record settings delay }.noteHeld site) .holder
      (.holding site))
  := by
  cases hs : l.stats with
  | off =>
      have pass : Step (s.set t l .holder (.counting site delay)) t (.acts .passes)
          (s.set t l .holder (.signing site)) := by
        apply step_set settings
        simp [HolderPhase.access, hs, LockStats.threshold?]
      obtain ⟨h, p⟩ := path_signing (s := s) (t := t) l site
      rw [LockStats.record, ← hs]
      exact ⟨_, (System.Path.single pass).trans p⟩
  | on threshold c =>
      by_cases hd : delay ≤ threshold.getD settings.threshold
      · have count : Step (s.set t l .holder (.counting site delay)) t (.acts (.counts false))
            (s.set t { l with stats := .on threshold (c.count false) } .holder
              (.signing site)) := by
          apply step_set settings
          simp [HolderPhase.access, hs, LockStats.threshold?, hd, LockStats.change]
        obtain ⟨h, p⟩ := path_signing (s := s) (t := t)
          { l with stats := .on threshold (c.count false) } site
        rw [LockStats.record, Counters.record, if_pos hd]
        exact ⟨_, (System.Path.single count).trans p⟩
      · have count : Step (s.set t l .holder (.counting site delay)) t (.acts (.counts true))
            (s.set t { l with stats := .on threshold (c.count true) } .holder
              (.adding site delay)) := by
          apply step_set settings
          simp [HolderPhase.access, hs, LockStats.threshold?, hd, LockStats.change]
        have add : Step (s.set t { l with stats := .on threshold (c.count true) } .holder
              (.adding site delay)) t (.acts .adds)
            (s.set t { l with stats := .on threshold ((c.count true).addDelay delay) } .holder
              (.raising site delay)) := step_set settings rfl
        have raise : Step (s.set t { l with stats := .on threshold ((c.count true).addDelay delay) }
              .holder (.raising site delay)) t (.acts .raises)
            (s.set t
              { l with
                stats := .on threshold (((c.count true).addDelay delay).raiseDelay delay) } .holder
              (.signing site)) := step_set settings rfl
        obtain ⟨h, p⟩ := path_signing (s := s) (t := t)
          { l with stats := .on threshold (((c.count true).addDelay delay).raiseDelay delay) } site
        rw [LockStats.record, Counters.record, if_neg hd]
        exact ⟨_, (((System.Path.single count).step add).step raise).trans p⟩

/-- A call that finds the lock free acquires it. -/
theorem path_acquire (settings : Settings) (delay : UInt64) (site : Site)
    (hp : s.phases t = .outside) (hx : s.contenders t = {}) (hw : s.lock.word = .free) :
  ∃ h, system.Path s h (s.set t (s.lock.acquire settings delay site) .holder (.holding site))
  := by
  have call : Step s t (.acts (.calls .acquire site))
      (s.set t s.lock { phase := .locking } (.taking .acquire site)) := by
    have k := Step.call .acquire site hp
    rw [act, hx] at k
    exact k
  obtain ⟨f, take⟩ := step_word (s := s) (t := t) (l := s.lock) (x := { phase := .locking })
    (p := .taking .acquire site) (w := s.lock.word.tryTake.2) (y := .holder) delay
    (by simp [Contender.access, LockWord.tryTake, hw])
  obtain ⟨h, p⟩ := path_counting (s := s) (t := t) settings delay
    { s.lock with word := s.lock.word.tryTake.2 } site
  exact ⟨_, ((System.Path.single call).step take).trans p⟩

/-- A call that does not block acquires the lock if it is free, and changes nothing otherwise. -/
theorem path_tryAcquire (settings : Settings) (site : Site) (hp : s.phases t = .outside)
    (hx : s.contenders t = {}) :
  ∃ h, system.Path s h
    (if (s.lock.tryAcquire settings site).1 then
      s.set t (s.lock.tryAcquire settings site).2 .holder (.holding site)
    else s.set t (s.lock.tryAcquire settings site).2 {} .outside)
  := by
  have call : Step s t (.acts (.calls .tryAcquire site))
      (s.set t s.lock { phase := .trying } (.taking .tryAcquire site)) := by
    have k := Step.call .tryAcquire site hp
    rw [act, hx] at k
    exact k
  by_cases hw : s.lock.word = .free
  · obtain ⟨f, take⟩ := step_word (s := s) (t := t) (l := s.lock) (x := { phase := .trying })
      (p := .taking .tryAcquire site) (w := .held) (y := .holder) 0
      (by simp [Contender.access, LockWord.takeFree, hw])
    obtain ⟨h, p⟩ := path_counting (s := s) (t := t) settings 0 { s.lock with word := .held } site
    simp only [Lock.tryAcquire, LockWord.tryTake, LockWord.isFree, LockWord.takeFree, hw,
      beq_self_eq_true, if_true]
    exact ⟨_, ((System.Path.single call).step take).trans p⟩
  · obtain ⟨f, fail⟩ := step_word (s := s) (t := t) (l := s.lock) (x := { phase := .trying })
      (p := .taking .tryAcquire site) (w := s.lock.word) (y := {}) 0
      (by simp [Contender.access, LockWord.takeFree, hw])
    simp only [Lock.tryAcquire, LockWord.tryTake, LockWord.isFree, beq_eq_false_iff_ne.mpr hw]
    exact ⟨_, (System.Path.single call).step fail⟩

/-- A release leaves the lock that it leaves as a whole. -/
theorem path_release {site : Site} (hp : s.phases t = .holding site)
    (hx : s.contenders t = .holder) :
  ∃ h s', system.Path s h s' ∧ s'.lock = s.lock.release ∧ s'.phases t = .outside
  := by
  have leave : Step s t (.acts .leaves) (s.set t s.lock .holder .leaving) := by
    have k := Step.leave hp
    rw [act, hx] at k
    exact k
  have clear : Step (s.set t s.lock .holder .leaving) t (.acts .clears)
      (s.set t { s.lock with held := false } { phase := .unlocking, holds := true } .givingBack) :=
    step_set {} rfl
  by_cases hw : s.lock.word = .held
  · obtain ⟨f, giveBack⟩ := step_word (s := s) (t := t) (l := { s.lock with held := false })
      (x := { phase := .unlocking, holds := true }) (p := .givingBack)
      (w := s.lock.word.countDown) (y := {}) 0 (by simp [Contender.access, hw])
    refine ⟨_, _, ((System.Path.single leave).step clear).step giveBack, ?_, ?_⟩
    · simp [Lock.release, LockWord.giveBack, hw]
    · simp [HolderPhase.goOn]
  · obtain ⟨f, lower⟩ := step_word (s := s) (t := t) (l := { s.lock with held := false })
      (x := { phase := .unlocking, holds := true }) (p := .givingBack)
      (w := s.lock.word.countDown) (y := { phase := .clearing, holds := true }) 0
      (by simp [Contender.access, hw])
    obtain ⟨g, empty⟩ := step_word (s := s) (t := t)
      (l := { s.lock with held := false, word := s.lock.word.countDown })
      (x := { phase := .clearing, holds := true }) (p := .givingBack)
      (w := .free) (y := { phase := .waking }) 0 rfl
    set r := s.set t { s.lock with held := false, word := .free } { phase := .waking } .givingBack
    obtain ⟨v, n, wake, hn, hw', _⟩ := LockState.exists_wakes (s := r.native) (t := t)
      (by simp [r, native, LockState.phase])
    refine ⟨_, _, ((((System.Path.single leave).step clear).step lower).step empty).step
      (Step.native 0 wake (by simp)), ?_, ?_⟩
    · simp [goOn, hn, r, native, Lock.release, LockWord.giveBack, hw]
    · rw [phases_goOn, if_pos rfl]
      rw [LockState.phase] at hw'
      simp [r, HolderPhase.goOn, hw']

end InstrumentedState

end SyncLayer
