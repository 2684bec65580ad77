import SyncLayer.Proofs.Lock.Instrumentation

/-!
# What an instrumented lock says of its holder

The note that the lock is held, the site and the counters are written apart from the word, and read
by anybody at any time. But only the thread that has taken the word writes the note and the site, so
that both are true from the return of an acquisition until the release begins. The note is there
only while somebody holds the lock, though not all that time. Every acquisition is counted once.
-/

namespace SyncLayer

/-! ### What is counted of a history -/

namespace InstrumentedEvent

/-- The thread takes the word. -/
def takes : InstrumentedEvent → Bool
  | native e => e.takes
  | acts _ => false

/-- The thread counts an acquisition. -/
def counts : InstrumentedEvent → Bool
  | acts (.counts _) => true
  | _ => false

/-- The thread counts an acquisition that was contended, or one that was not. -/
def countsAs (contended : Bool) : InstrumentedEvent → Bool
  | acts (.counts b) => b == contended
  | _ => false

/-- The thread has acquired the lock. -/
def acquires : InstrumentedEvent → Bool
  | acts (.acquires _) => true
  | _ => false

/-- The site from which a thread has acquired the lock, behind a step of that thread, if it has and
has not begun to release it. -/
def openSite : InstrumentedEvent → Option Site → Option Site
  | acts (.acquires site), _ => some site
  | acts .leaves, _ => none
  | _, o => o

end InstrumentedEvent

/-- The site from which a thread has acquired a lock in what happened, if it did and has not begun
to release the lock. -/
def openSite (t : ThreadId) (h : History InstrumentedEvent) : Option Site :=
  h.foldl (fun o (u, e) => if u = t then e.openSite o else o) none

theorem openSite_concat (t u : ThreadId) (h : History InstrumentedEvent) (e : InstrumentedEvent) :
  openSite t (h ++ [(u, e)]) = if u = t then e.openSite (openSite t h) else openSite t h
  := by
  rw [openSite, List.foldl_append]
  rfl

/-! ### The steps of a thread, one by one -/

namespace HolderPhase

/-- How a thread moves by a step, where acquisitions are counted. -/
inductive Turn : HolderPhase → InstrumentedEvent → HolderPhase → Prop
  | call {c : HolderCall} {site : Site} : Turn outside (.acts (.calls c site)) (taking c site)
  | wait {c : HolderCall} {site : Site} {e : LockEvent} (he : e.takes = false) :
      Turn (taking c site) (.native e) (taking c site)
  | take {c : HolderCall} {site : Site} {delay : UInt64} {e : LockEvent} (he : e.takes = true) :
      Turn (taking c site) (.native e) (counting site delay)
  | fail {c : HolderCall} {site : Site} {e : LockEvent} (he : e.takes = false) :
      Turn (taking c site) (.native e) outside
  | count {site : Site} {delay : UInt64} :
      Turn (counting site delay) (.acts (.counts false)) (signing site)
  | countContended {site : Site} {delay : UInt64} :
      Turn (counting site delay) (.acts (.counts true)) (adding site delay)
  | add {site : Site} {delay : UInt64} :
      Turn (adding site delay) (.acts .adds) (raising site delay)
  | raise {site : Site} {delay : UInt64} :
      Turn (raising site delay) (.acts .raises) (signing site)
  | sign {site : Site} : Turn (signing site) (.acts .signs) (noting site)
  | note {site : Site} : Turn (noting site) (.acts (.acquires site)) (holding site)
  | leave {site : Site} : Turn (holding site) (.acts .leaves) leaving
  | clear : Turn leaving (.acts .clears) givingBack
  | giveBack {p : HolderPhase} {e : LockEvent} (he : e.takes = false)
      (hp : p = givingBack ∨ p = outside) :
      Turn givingBack (.native e) p

variable {l l' : Lock} {p p' : HolderPhase} {e : HolderEvent}

@[simp]
theorem isOn_change {f : Counters → Counters} {stats : LockStats} :
  (stats.change f).isOn = stats.isOn
  := by
  cases stats <;> rfl

/-- An access leaves it as it is whether acquisitions are counted. -/
theorem Access.isOn (a : Access l p e l' p') :
  l'.stats.isOn = l.stats.isOn
  := by
  cases a <;> simp

/-- An access is one of the ways to move. -/
theorem Access.turn (a : Access l p e l' p') (ho : l.stats.isOn = true) :
  p.Turn (.acts e) p'
  := by
  cases a with
  | count _ => exact .count
  | countContended _ => exact .countContended
  | pass hn =>
      rw [ho] at hn
      cases hn
  | add => exact .add
  | raise => exact .raise
  | sign => exact .sign
  | note => exact .note
  | clear => exact .clear

/-- A step on the word is one of the ways to move. -/
theorem Meets.turn {s n : LockState} {t : ThreadId} {e : LockEvent} (m : p.Meets (s.threads t))
    (measured : UInt64) (k : LockState.Step s t e n) (hc : ∀ c, e ≠ .calls c) :
  p.Turn (.native e) (p.goOn (n.threads t) measured)
  := by
  have out := k.phase_ne_outside hc
  have m' := m.goOn measured k hc
  have holds := k.holds (t := t)
  rw [if_pos rfl] at holds
  cases p with
  | taking c site =>
      have hx : s.holds t = false := by
        cases c with
        | acquire => rcases m with h | h | h | h <;> rw [LockState.holds, h]
        | tryAcquire => rw [LockState.holds, show s.threads t = _ from m]
      rw [hx, Bool.false_and, Bool.or_false] at holds
      rw [HolderPhase.goOn] at m' ⊢
      split
      · rename_i hp
        rw [if_pos hp] at m'
        apply Turn.wait
        rw [← holds]
        cases c with
        | acquire => rcases m' with h | h | h | h <;> rw [LockState.holds, h]
        | tryAcquire => rw [LockState.holds, show n.threads t = _ from m']
      · split
        · rename_i hh
          apply Turn.take
          rw [← holds]
          exact hh
        · rename_i hh
          apply Turn.fail
          rw [← holds]
          exact eq_false_of_ne_true hh
  | givingBack =>
      have he : e.takes = false := by
        by_contra he
        obtain ⟨_, hp⟩ := k.of_takes (Bool.not_eq_false _ ▸ he)
        rw [LockState.phase] at hp
        rcases m with h | h | h <;> simp [h] at hp
      rw [HolderPhase.goOn]
      split
      · exact .giveBack he (.inl rfl)
      · exact .giveBack he (.inr rfl)
  | _ =>
      rw [LockState.phase, show s.threads t = _ from m] at out
      exact absurd rfl out

end HolderPhase

namespace InstrumentedState

variable {s s' : InstrumentedState} {t u : ThreadId} {e : InstrumentedEvent}
  {h : History InstrumentedEvent}

/-- Acquisitions are counted. -/
theorem isOn_of_reachable (r : system.Reachable s) :
  s.lock.stats.isOn = true
  := by
  refine r.invariant (I := fun s => s.lock.stats.isOn = true) ?_ ?_
  · rintro _ ⟨description, threshold, rfl⟩
    rfl
  · intro s t e s' ih k
    cases k with
    | access _ h => exact (HolderPhase.Access.of_access h).isOn.trans ih
    | _ => exact ih

/-- A step of a thread leaves the others where they stand. -/
theorem Step.phases_of_ne (k : Step s t e s') (hu : u ≠ t) :
  s'.phases u = s.phases u
  := by
  cases k with
  | call | leave | access => rw [phases_act, if_neg hu]
  | native => rw [phases_goOn, if_neg hu]

/-- A thread moves by a step in one of the ways. -/
theorem Step.turn (r : system.Reachable s) (k : Step s t e s') :
  (s.phases t).Turn e (s'.phases t)
  := by
  have m := meets_of_reachable (t := t) r
  cases k with
  | call _ _ hp =>
      rw [phases_act, if_pos rfl, hp]
      apply HolderPhase.Turn.call
  | leave hp =>
      rw [phases_act, if_pos rfl, hp]
      apply HolderPhase.Turn.leave
  | access _ h =>
      rw [phases_act, if_pos rfl]
      apply (HolderPhase.Access.of_access h).turn (isOn_of_reachable r)
  | native _ k hc =>
      rw [phases_goOn, if_pos rfl]
      apply m.turn _ k hc

end InstrumentedState

/-! ### The note and the site -/

namespace HolderPhase

variable {l l' : Lock} {p p' : HolderPhase} {e : HolderEvent}

/-- How the note and the site fit the thread that holds the lock, by where it stands. -/
def Fits (l : Lock) : HolderPhase → Prop
  | counting _ _ | adding _ _ | raising _ _ | signing _ => l.held = false
  | noting site => l.held = false ∧ l.site = some site
  | holding site => l.held = true ∧ l.site = some site
  | leaving => l.held = true
  | givingBack => l.held = false
  | outside | taking _ _ => False

/-- What a thread stores that holds the lock keeps the note and the site fit. -/
theorem Access.fits (a : Access l p e l' p') (i : p.Fits l) :
  p'.Fits l'
  := by
  cases a with
  | count | countContended | pass | add | raise => exact i
  | sign => exact ⟨i, rfl⟩
  | note => exact ⟨rfl, i.2⟩
  | clear => rfl

/-- The word says nothing about the note and the site. -/
theorem fits_word {w : LockWord} :
  p.Fits { l with word := w } ↔ p.Fits l
  := by
  cases p <;> rfl

/-- A thread that stores anything but the word holds the lock. -/
theorem Meets.of_access {x : Contender} (m : p.Meets x) (a : Access l p e l' p') :
  x.holds = true
  := by
  cases a <;> rw [show x = _ from m] <;> rfl

end HolderPhase

namespace InstrumentedState

/-- The note and the site fit the thread that holds the lock, and the lock is not noted to be held
if nobody holds it. -/
structure Coherent (s : InstrumentedState) : Prop where
  fits : ∀ t, s.native.holds t = true → (s.phases t).Fits s.lock
  idle : (∀ t, s.native.holds t = false) → s.lock.held = false

namespace Coherent

variable {s s' : InstrumentedState} {t u : ThreadId} {e : InstrumentedEvent} {g : HolderEvent}
  {l : Lock} {p : HolderPhase}

theorem holds_act :
  (s.act t g l p).native.holds u = s.native.holds u
  := by
  change ((s.act t g l p).contenders u).holds = (s.contenders u).holds
  rw [contenders_act]
  split
  · rename_i hu
    rw [HolderEvent.contender, hu]
    split <;> rfl
  · rfl

/-- A thread that changes nothing but where it stands keeps the note and the site fit. -/
theorem move (i : Coherent s) (hp : s.native.holds t = true → p.Fits s.lock) :
  Coherent (s.act t g s.lock p)
  := by
  constructor
  · intro u hu
    rw [holds_act] at hu
    rw [phases_act]
    split
    · rename_i hut
      subst hut
      apply hp hu
    · apply i.fits u hu
  · intro hn
    apply i.idle
    intro u
    rw [← hn u, holds_act]

/-- The thread that holds the lock may store anything but the word. -/
theorem access (i : Coherent s) (x : LockState.Exclusive s.native) (ht : s.native.holds t = true)
    (a : HolderPhase.Access s.lock (s.phases t) g l p) :
  Coherent (s.act t g l p)
  := by
  constructor
  · intro u hu
    rw [holds_act] at hu
    obtain rfl := x.unique u t hu ht
    rw [phases_act, if_pos rfl]
    apply a.fits (i.fits u hu)
  · intro hn
    have h := hn t
    rw [holds_act, ht] at h
    cases h

/-- What a step on the word does to the note and the site of the thread that holds the lock
behind it. -/
theorem fits_goOn {n : LockState} {f : LockEvent} {measured : UInt64} (i : Coherent s)
    (x : LockState.Exclusive s.native) (m : (s.phases t).Meets (s.contenders t))
    (k : LockState.Step s.native t f n) (hc : ∀ c, f ≠ .calls c) (hn : n.holds t = true) :
  ((s.phases t).goOn (n.threads t) measured).Fits s.lock
  := by
  have turn := m.turn measured k hc
  have m' := m.goOn measured k hc
  have fits := i.fits t
  have kept : f.takes = false → s.native.holds t = true := by
    intro he
    have holds := k.holds (t := t)
    rw [if_pos rfl, hn, he] at holds
    exact (Bool.and_eq_true_iff.mp holds.symm).1
  generalize s.phases t = p at turn m' fits
  generalize p.goOn (n.threads t) measured = p' at turn m'
  cases turn with
  | wait he => exact (fits (kept he)).elim
  | take he =>
      -- The thread found the word free, so that nobody held the lock.
      exact i.idle (x.free_iff.mp (k.of_takes he).1)
  | fail he => exact (fits (kept he)).elim
  | giveBack he hp =>
      rcases hp with rfl | rfl
      · exact fits (kept he)
      · rw [LockState.holds, show n.threads t = _ from m'] at hn
        cases hn

/-- A step on the word keeps the note and the site fit. -/
theorem native {n : LockState} {f : LockEvent} {measured : UInt64} (i : Coherent s)
    (x : LockState.Exclusive s.native) (m : (s.phases t).Meets (s.contenders t))
    (k : LockState.Step s.native t f n) (hc : ∀ c, f ≠ .calls c) :
  Coherent (s.goOn t n measured)
  := by
  have others : ∀ u, u ≠ t → n.holds u = s.native.holds u := by
    intro u hu
    rw [k.holds, if_neg (Ne.symm hu)]
  constructor
  · intro u hu
    have hu : n.holds u = true := hu
    rw [phases_goOn]
    apply HolderPhase.fits_word.mpr
    split
    · rename_i hut
      subst hut
      apply i.fits_goOn x m k hc hu
    · rename_i hut
      apply i.fits u
      rw [← others u hut, hu]
  · intro hn
    change s.lock.held = false
    by_cases ht : s.native.holds t = true
    · -- A thread that holds the lock and accesses the word is about to give it back.
      have turn := m.turn measured k hc
      have fits := i.fits t ht
      generalize s.phases t = p at turn fits
      generalize p.goOn (n.threads t) measured = p' at turn
      cases turn with
      | wait | take | fail => exact fits.elim
      | giveBack => exact fits
    · apply i.idle
      intro u
      by_cases hut : u = t
      · rw [hut]
        exact eq_false_of_ne_true ht
      · rw [← others u hut]
        apply hn u

theorem start {description : String} {threshold : Option UInt64} :
  Coherent { lock := .fresh description (.fresh threshold) }
  := by
  constructor
  · intro _ h
    cases h
  · intro _
    rfl

/-- The note and the site fit the holder at any time. -/
theorem of_run {h : History InstrumentedEvent} (r : system.Run h s) :
  Coherent s
  := by
  refine r.induct (I := fun _ s => Coherent s) ?_ ?_
  · rintro _ ⟨description, threshold, rfl⟩
    apply start
  · intro h s t e s' r i k
    have x := exclusive_of_reachable r.reachable
    have m := meets_of_reachable (t := t) r.reachable
    cases k with
    | call _ _ hp =>
        apply i.move
        intro ht
        have f := i.fits t ht
        rw [hp] at f
        exact f
    | leave hp =>
        apply i.move
        intro ht
        have f := i.fits t ht
        rw [hp] at f
        exact f.1
    | access _ h =>
        have a := HolderPhase.Access.of_access h
        apply i.access x (m.of_access a) a
    | native _ k hc => apply i.native x m k hc

end Coherent

variable {s : InstrumentedState} {h : History InstrumentedEvent} {t u : ThreadId} {a b : Site}

/-- Of two acquisitions that have returned and are not being released both are one. -/
theorem eq_of_holding (r : system.Run h s) (ht : s.phases t = .holding a)
    (hu : s.phases u = .holding b) :
  t = u
  := by
  have held : ∀ {t a}, s.phases t = .holding a → s.native.holds t = true := by
    intro t a ht
    have m := meets_of_reachable (t := t) r.reachable
    rw [ht] at m
    exact congrArg Contender.holds m
  apply (exclusive_of_reachable r.reachable).unique t u (held ht) (held hu)

end InstrumentedState

/-! ### Acquisitions -/

namespace HolderPhase

/-- The site of an acquisition that is not being released. -/
def site? : HolderPhase → Option Site
  | holding site => some site
  | _ => none

/-- The number of acquisitions that a thread has not counted yet. -/
def uncounted : HolderPhase → Nat
  | counting _ _ => 1
  | _ => 0

/-- The number of acquisitions that a thread has counted and that have not returned yet. -/
def unreturned : HolderPhase → Nat
  | adding _ _ | raising _ _ | signing _ | noting _ => 1
  | _ => 0

variable {p p' : HolderPhase} {e : InstrumentedEvent}

/-- A step opens an acquisition and closes it. -/
theorem Turn.site? (k : p.Turn e p') :
  p'.site? = e.openSite p.site?
  := by
  cases k with
  | giveBack _ hp => rcases hp with rfl | rfl <;> rfl
  | _ => rfl

/-- Every acquisition is counted once. -/
theorem Turn.uncounted (k : p.Turn e p') :
  p.uncounted + e.takes.toNat = p'.uncounted + e.counts.toNat
  := by
  cases k with
  | wait he | take he | fail he =>
      rw [InstrumentedEvent.takes, he]
      rfl
  | giveBack he hp =>
      rw [InstrumentedEvent.takes, he]
      rcases hp with rfl | rfl <;> rfl
  | _ => rfl

/-- Every acquisition that was counted returns once. -/
theorem Turn.unreturned (k : p.Turn e p') :
  p.unreturned + e.counts.toNat = p'.unreturned + e.acquires.toNat
  := by
  cases k with
  | giveBack _ hp => rcases hp with rfl | rfl <;> rfl
  | _ => rfl

end HolderPhase

namespace InstrumentedState

variable {s s' : InstrumentedState} {t : ThreadId} {e : InstrumentedEvent}
  {h : History InstrumentedEvent}

/-- An acquisition is open from its return until the release begins. -/
theorem openSite_of_run (r : system.Run h s) :
  openSite t h = (s.phases t).site?
  := by
  refine r.induct (I := fun h s => openSite t h = (s.phases t).site?) ?_ ?_
  · rintro _ ⟨description, threshold, rfl⟩
    rfl
  · intro h s u e s' r ih k
    rw [openSite_concat, ih]
    split
    · rename_i hu
      subst hu
      exact (k.turn r.reachable).site?.symm
    · rename_i hu
      rw [k.phases_of_ne (Ne.symm hu)]

/-- While an acquisition is open the lock is noted to be held, and its site is the site of that
acquisition. -/
theorem held_of_openSite {site : Site} (r : system.Run h s) (ho : openSite t h = some site) :
  s.lock.held = true ∧ s.lock.site = some site
  := by
  rw [openSite_of_run r] at ho
  have hp : s.phases t = .holding site := by
    generalize s.phases t = p at ho
    cases p with
    | holding _ =>
        cases ho
        rfl
    | _ => cases ho
  have m := meets_of_reachable (t := t) r.reachable
  rw [hp] at m
  have fits := (Coherent.of_run r).fits t (congrArg Contender.holds m)
  rw [hp] at fits
  exact fits

/-- A lock that is noted to be held is held by some thread. -/
theorem exists_holdsAfter (r : system.Run h s) (hl : s.lock.held = true) :
  ∃ t, holdsAfter t (h.through InstrumentedEvent.native?) = true
  := by
  by_contra hn
  have idle := (Coherent.of_run r).idle (fun t => by
    rw [LockState.holds_of_run (native_of_run r)]
    exact eq_false_of_ne_true (not_exists.mp hn t))
  rw [hl] at idle
  cases idle

/-- A number of acquisitions of a thread that goes up with something that happens and down with
something else is what happened more often. -/
theorem timesBy_of_run {p q : InstrumentedEvent → Bool} {f : HolderPhase → Nat}
    (h₀ : f .outside = 0)
    (turn : ∀ x e y, HolderPhase.Turn x e y → f x + (p e).toNat = f y + (q e).toNat)
    (r : system.Run h s) :
  h.timesBy t p = h.timesBy t q + f (s.phases t)
  := by
  refine r.induct (I := fun h s => h.timesBy t p = h.timesBy t q + f (s.phases t)) ?_ ?_
  · rintro _ ⟨description, threshold, rfl⟩
    change 0 = 0 + f .outside
    rw [h₀]
  · intro h s u e s' r ih k
    rw [History.timesBy_concat, History.timesBy_concat, ih]
    by_cases hu : u = t
    · subst hu
      have turn := turn _ _ _ (k.turn r.reachable)
      rw [if_pos rfl, if_pos rfl]
      omega
    · rw [if_neg hu, if_neg hu, Nat.add_zero, Nat.add_zero, k.phases_of_ne (Ne.symm hu)]

end InstrumentedState

/-! ### The counters -/

namespace Counters

/-- The counter of the acquisitions that were contended, or of those that were not. -/
def number (contended : Bool) (c : Counters) : UInt64 :=
  if contended then c.contended else c.uncontended

theorem number_count {a b : Bool} {c : Counters} :
  (c.count a).number b = c.number b + if a = b then 1 else 0
  := by
  cases a <;> cases b <;> simp [count, number]

/-- The total of counters is what was counted, if that fits. -/
theorem total_of_number {c : Counters} {m n : Nat} (hm : c.uncontended = .ofNat m)
    (hn : c.contended = .ofNat n) (h : m + n < UInt64.size) :
  c.uncontended.toNat + c.contended.toNat = m + n ∧ c.total = .ok (.ofNat (m + n))
  := by
  have hm' : c.uncontended.toNat = m := by
    rw [hm]
    exact UInt64.toNat_ofNat_of_lt (by omega)
  have hn' : c.contended.toNat = n := by
    rw [hn]
    exact UInt64.toNat_ofNat_of_lt (by omega)
  refine ⟨by rw [hm', hn'], ?_⟩
  rw [total, hm', hn', if_pos h, hm, hn, UInt64.ofNat_add]

end Counters

/-- What a lock has counted of the acquisitions that were contended, or of those that were not. -/
def LockStats.number (contended : Bool) (stats : LockStats) : UInt64 :=
  stats.counters.number contended

theorem LockStats.number_count {a b : Bool} {stats : LockStats} (h : stats.isOn = true) :
  (stats.change (.count a)).number b = stats.number b + if a = b then 1 else 0
  := by
  cases stats with
  | off => cases h
  | on threshold c => exact Counters.number_count

theorem LockStats.number_change {b : Bool} {f : Counters → Counters} {stats : LockStats}
    (hf : ∀ c, (f c).number b = c.number b) :
  (stats.change f).number b = stats.number b
  := by
  cases stats with
  | off => rfl
  | on threshold c => apply hf

namespace InstrumentedState

variable {s s' : InstrumentedState} {t : ThreadId} {e : InstrumentedEvent}
  {h : History InstrumentedEvent} {b : Bool}

/-- A step adds to a counter if it counts an acquisition there, and does not touch it otherwise. -/
theorem Step.number (k : Step s t e s') :
  s'.lock.stats.number b = s.lock.stats.number b + if e.countsAs b then 1 else 0
  := by
  cases k with
  | call | leave | native => exact (UInt64.add_zero _).symm
  | access _ h =>
      generalize s.phases t = p at h
      cases HolderPhase.Access.of_access h with
      | count ho | countContended ho =>
          exact (LockStats.number_count ho).trans (by cases b <;> rfl)
      | @add site delay =>
          exact (LockStats.number_change (f := .addDelay delay) (fun _ => rfl)).trans
            (UInt64.add_zero _).symm
      | @raise site delay =>
          exact (LockStats.number_change (f := .raiseDelay delay) (fun _ => rfl)).trans
            (UInt64.add_zero _).symm
      | pass | sign | note | clear => exact (UInt64.add_zero _).symm

/-- The counters are what was counted, modulo what they hold. -/
theorem number_of_run (r : system.Run h s) :
  s.lock.stats.number b = UInt64.ofNat (h.times (InstrumentedEvent.countsAs b))
  := by
  refine r.invariant
    (I := fun h s =>
      s.lock.stats.number b = UInt64.ofNat (h.times (InstrumentedEvent.countsAs b))) ?_ ?_
  · rintro _ ⟨description, threshold, rfl⟩
    cases b <;> rfl
  · intro h s t e s' ih k
    rw [k.number, ih, History.times_concat]
    cases e.countsAs b <;> simp

theorem times_counts (h : History InstrumentedEvent) :
  h.times InstrumentedEvent.counts
    = h.times (InstrumentedEvent.countsAs false) + h.times (InstrumentedEvent.countsAs true)
  := by
  induction h using List.reverseRecOn with
  | nil => rfl
  | append_singleton h x ih =>
      obtain ⟨t, e⟩ := x
      have he : e.counts.toNat = (e.countsAs false).toNat + (e.countsAs true).toNat := by
        cases e with
        | native _ => rfl
        | acts e =>
            cases e with
            | counts b => cases b <;> rfl
            | _ => rfl
      rw [History.times_concat, History.times_concat, History.times_concat, ih, he]
      omega

/-- The counters hold together what was counted, modulo what a number holds. -/
theorem sum_of_run (r : system.Run h s) :
  s.lock.stats.counters.uncontended + s.lock.stats.counters.contended
    = .ofNat (h.times InstrumentedEvent.counts)
  := by
  rw [times_counts, UInt64.ofNat_add, ← number_of_run r, ← number_of_run r]
  rfl

/-- The counters hold together what was counted, if that fits. -/
theorem total_of_run (r : system.Run h s) (hn : h.times InstrumentedEvent.counts < UInt64.size) :
  s.lock.stats.counters.uncontended.toNat + s.lock.stats.counters.contended.toNat
      = h.times InstrumentedEvent.counts
    ∧ s.lock.stats.counters.total = .ok (.ofNat (h.times InstrumentedEvent.counts))
  := by
  have uncontended := number_of_run (b := false) r
  have contended := number_of_run (b := true) r
  rw [times_counts] at hn ⊢
  exact Counters.total_of_number uncontended contended hn

end InstrumentedState

end SyncLayer
