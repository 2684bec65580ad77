import SyncLayer.Lock.Dump
import SyncLayer.Proofs.Lock.Coherence
import Mathlib.Algebra.GroupWithZero.Nat

/-!
# Acquisitions that a dump loses

Threads acquire and release a lock while its counters are dumped. An acquisition that is counted
behind the load of its counter, and before zero is stored there, is neither in the report nor left
in the counter. Every other one is reported once or left. So the reports and what is left hold
together what was counted if and only if nobody counts an acquisition at such a time.
-/

namespace SyncLayer

/-- A lock with the threads that use it, and a dump of its counters. -/
structure DumpedState where
  base : InstrumentedState
  dump : DumpPhase := .idle

/-- What is seen of a step: what the threads do with the lock, or what the dump does. -/
inductive DumpedEvent where
  | uses (e : InstrumentedEvent)
  | dumps (e : DumpEvent)
deriving DecidableEq, Repr

/-- Which of the counters counts the acquisitions that were contended, or those that were not. -/
def CounterField.ofContended (b : Bool) : CounterField :=
  if b then .contended else .uncontended

namespace DumpedEvent

/-- The thread counts an acquisition that was contended, or one that was not. -/
def countsAs (b : Bool) : DumpedEvent → Bool
  | uses e => e.countsAs b
  | dumps _ => false

/-- Whether the dump has loaded a counter and has still to set it to zero, behind a step. -/
def exposes (b : Bool) (o : Bool) : DumpedEvent → Bool
  | dumps (.loads f) => o || f == .ofContended b
  | dumps (.clears f) => o && f != .ofContended b
  | _ => o

/-- The counters in a report. -/
def reported? : DumpedEvent → Option Counters
  | dumps (.reports seen) => some seen
  | _ => none

end DumpedEvent

/-- Whether the dump has loaded a counter in what happened and has still to set it to zero, and the
number of the acquisitions that were counted there at such times. -/
def exposure (b : Bool) (h : History DumpedEvent) : Bool × Nat :=
  h.foldl (fun x y => (y.2.exposes b x.1, x.2 + (x.1 && y.2.countsAs b).toNat)) (false, 0)

theorem exposure_concat (b : Bool) (h : History DumpedEvent) (t : ThreadId) (e : DumpedEvent) :
  exposure b (h ++ [(t, e)])
    = (e.exposes b (exposure b h).1, (exposure b h).2 + ((exposure b h).1 && e.countsAs b).toNat)
  := by
  rw [exposure, List.foldl_append]
  rfl

/-- The number of the acquisitions that were counted behind the load of their counter and before it
was set to zero. -/
def overlooked (h : History DumpedEvent) : Nat :=
  (exposure false h).2 + (exposure true h).2

/-- The number of the acquisitions that were counted. -/
def counted (h : History DumpedEvent) : Nat :=
  h.times (DumpedEvent.countsAs false) + h.times (DumpedEvent.countsAs true)

/-- The counters in the reports that were written. -/
def reports (h : History DumpedEvent) : List Counters :=
  h.filterMap (fun x => x.2.reported?)

/-- What the reports say of one of the counters. -/
def reportedAs (b : Bool) (h : History DumpedEvent) : Nat :=
  ((reports h).map (fun c => (c.number b).toNat)).sum

/-- The sum of the totals in the reports. -/
def reportedTotal (h : History DumpedEvent) : Nat :=
  ((reports h).map (fun c =>
    match c.total with
    | .ok n => n.toNat
    | .error _ => 0)).sum

theorem reports_concat (h : History DumpedEvent) (t : ThreadId) (e : DumpedEvent) :
  reports (h ++ [(t, e)]) = reports h ++ e.reported?.toList
  := by
  rw [reports, List.filterMap_append, reports]
  cases he : e.reported? <;> simp [he]

theorem reportedAs_concat (b : Bool) (h : History DumpedEvent) (t : ThreadId) (e : DumpedEvent) :
  reportedAs b (h ++ [(t, e)])
    = reportedAs b h + ((e.reported?.map (Counters.number b)).getD 0).toNat
  := by
  rw [reportedAs, reports_concat, List.map_append, List.sum_append, reportedAs]
  cases e.reported? <;> simp

namespace DumpedState

/-- The state with other counters, in which the dump stands somewhere else. -/
def setDump (d : DumpedState) (stats : LockStats) (p : DumpPhase) : DumpedState :=
  { base := { d.base with lock := { d.base.lock with stats } }, dump := p }

/-- The steps of the threads and of the dump, which any of them may take. -/
inductive Step : DumpedState → ThreadId → DumpedEvent → DumpedState → Prop
  | use {d : DumpedState} {t : ThreadId} {e : InstrumentedEvent} {s : InstrumentedState}
      (k : InstrumentedState.Step d.base t e s) :
      Step d t (.uses e) { d with base := s }
  | dump {d : DumpedState} {t : ThreadId} {e : DumpEvent} {stats : LockStats} {p : DumpPhase}
      (h : d.dump.access d.base.lock.stats = (e, stats, p)) :
      Step d t (.dumps e) (d.setDump stats p)

/-- The threads around a lock that nobody has acquired, and no dump. -/
def system : System DumpedState DumpedEvent where
  Starts d := ∃ s, InstrumentedState.system.Starts s ∧ d = { base := s }
  Step := Step

end DumpedState

/-! ### A dump that nobody interrupts -/

namespace DumpedState

variable {d : DumpedState} {t : ThreadId} {stats stats' : LockStats} {p p' : DumpPhase}
  {e : DumpEvent}

/-- A dump goes on from where it stands. -/
theorem step_setDump (h : p.access stats = (e, stats', p')) :
  Step (d.setDump stats p) t (.dumps e) (d.setDump stats' p')
  := Step.dump (d := d.setDump stats p) h

/-- A dump reports the counters that it finds, and leaves what resetting them as a whole leaves. -/
theorem path_dump {n : UInt64} (hd : d.dump = .idle)
    (hn : d.base.lock.stats.counters.total = .ok n) :
  ∃ h d', system.Path d h d' ∧ reports h = [d.base.lock.stats.counters]
    ∧ d'.base = { d.base with lock := d.base.lock.resetStats } ∧ d'.dump = .idle
  := by
  generalize hs : d.base.lock.stats = stats at hn
  have start : Step d 0 (.dumps .starts) (d.setDump stats (.loading .uncontended .zero)) := by
    apply Step.dump
    rw [hd, hs]
    rfl
  have p := System.Path.single (S := system) start
  have p := p.step (step_setDump (t := 0) rfl)
  have p := p.step (step_setDump (t := 0) rfl)
  have p := p.step (step_setDump (t := 0) rfl)
  have p := p.step (step_setDump (t := 0) rfl)
  have report : (DumpPhase.writing stats.counters).access stats
      = (.reports stats.counters, stats, .clearing .uncontended) := by
    rw [DumpPhase.access, hn]
  have p := p.step (step_setDump (t := 0) report)
  have p := p.step (step_setDump (t := 0) rfl)
  have p := p.step (step_setDump (t := 0) rfl)
  have p := p.step (step_setDump (t := 0) rfl)
  have p := p.step (step_setDump (t := 0) rfl)
  refine ⟨_, _, p, rfl, ?_, rfl⟩
  simp only [setDump, Lock.resetStats, hs]
  cases stats <;> rfl

end DumpedState

/-! ### Where a dump stands with a counter -/

namespace CounterField

/-- Whether a dump that stands before a counter is behind the one of the acquisitions that were
contended, or of those that were not. -/
def isBehind (b : Bool) : CounterField → Bool
  | uncontended => false
  | contended => !b
  | totalDelay | maxDelay => true

end CounterField

namespace DumpPhase

/-- Whether a dump has loaded a counter and has still to set it to zero. -/
def exposes (b : Bool) : DumpPhase → Bool
  | idle => false
  | loading f _ => f.isBehind b
  | writing _ => true
  | clearing f => !f.isBehind b

/-- What a dump has still to report of a counter that it has loaded. -/
def unreported (b : Bool) : DumpPhase → UInt64
  | loading _ seen | writing seen => seen.number b
  | idle | clearing _ => 0

/-- What has been counted and is neither reported nor overlooked. -/
def pending (b : Bool) (stats : LockStats) (p : DumpPhase) : UInt64 :=
  if p.exposes b then p.unreported b else stats.number b

variable {b : Bool} {stats stats' : LockStats} {p p' : DumpPhase} {e : DumpEvent}

/-- The steps of a dump, one by one: it starts, it loads a counter, it writes the report, it fails
to, and it sets a counter to zero. -/
inductive Access (stats : LockStats) : DumpPhase → DumpEvent → LockStats → DumpPhase → Prop
  | start : Access stats idle .starts stats (loading .uncontended .zero)
  | load {f : CounterField} {seen : Counters} :
      Access stats (loading f seen) (.loads f) stats
        (match f.next? with
          | some g => loading g (f.put (f.get stats.counters) seen)
          | none => writing (f.put (f.get stats.counters) seen))
  | report {seen : Counters} {n : UInt64} (h : seen.total = .ok n) :
      Access stats (writing seen) (.reports seen) stats (clearing .uncontended)
  | fault {seen : Counters} {f : Fault} (h : seen.total = .error f) :
      Access stats (writing seen) (.faults f) stats idle
  | clear {f : CounterField} :
      Access stats (clearing f) (.clears f) (stats.change (fun c => f.put 0 c))
        (match f.next? with
          | some g => clearing g
          | none => idle)

/-- A step of a dump is one of the five. -/
theorem Access.of_access (h : p.access stats = (e, stats', p')) :
  Access stats p e stats' p'
  := by
  cases p with
  | idle =>
      cases h
      apply start
  | loading f seen =>
      cases h
      apply load
  | writing seen =>
      rw [access] at h
      split at h
      · rename_i hn
        cases h
        apply report hn
      · rename_i hf
        cases h
        apply fault hf
  | clearing f =>
      cases h
      apply clear

/-- What a step of a dump exposes is seen of it. -/
theorem Access.exposes (a : Access stats p e stats' p') (hf : ∀ f, e ≠ .faults f) :
  p'.exposes b = (DumpedEvent.dumps e).exposes b (p.exposes b)
  := by
  cases a with
  | start => rfl
  | @load f seen => cases f <;> cases b <;> rfl
  | report _ => rfl
  | fault _ => exact absurd rfl (hf _)
  | @clear f => cases f <;> cases b <;> rfl

/-- A step of a dump keeps what is pending, but for what it reports. -/
theorem Access.pending (a : Access stats p e stats' p') (hf : ∀ f, e ≠ .faults f) :
  (p.pending b stats).toNat = (p'.pending b stats').toNat
      + (((DumpedEvent.dumps e).reported?.map (Counters.number b)).getD 0).toNat
  := by
  cases a with
  | start => rfl
  | @load f seen => cases f <;> cases b <;> rfl
  | report _ => exact (Nat.zero_add _).symm
  | fault _ => exact absurd rfl (hf _)
  | @clear f =>
      cases stats with
      | off => cases f <;> cases b <;> rfl
      | on threshold c => cases f <;> cases b <;> rfl

end DumpPhase

/-! ### Nothing else is lost -/

namespace DumpedState

/-- What has been counted of the acquisitions that were contended, or of those that were not, and
is neither reported nor overlooked. -/
def pending (b : Bool) (d : DumpedState) : UInt64 :=
  d.dump.pending b d.base.lock.stats

/-- What holds of a dump at every time: what was counted is reported, overlooked or pending; and the
dump stands where what happened says that it does. -/
structure Balanced (h : History DumpedEvent) (d : DumpedState) : Prop where
  exposed : ∀ b, (exposure b h).1 = d.dump.exposes b
  balance : ∀ b, h.times (DumpedEvent.countsAs b)
    = reportedAs b h + (exposure b h).2 + (d.pending b).toNat
  sound : ∀ c ∈ reports h, ∃ n, c.total = .ok n

namespace Balanced

variable {d : DumpedState} {h : History DumpedEvent} {t : ThreadId}

/-- What a thread counts is pending, unless the dump has loaded the counter. -/
theorem pending_use {e : InstrumentedEvent} {s : InstrumentedState} {b : Bool}
    (k : InstrumentedState.Step d.base t e s) :
  pending b { d with base := s }
    = d.pending b + if !d.dump.exposes b && e.countsAs b then 1 else 0
  := by
  rw [pending, pending, DumpPhase.pending, DumpPhase.pending, k.number]
  cases d.dump.exposes b <;> simp

theorem toNat_add_ite {n : UInt64} {c : Bool} (h : n.toNat + c.toNat < UInt64.size) :
  (n + if c then 1 else 0).toNat = n.toNat + c.toNat
  := by
  cases c with
  | true =>
      rw [if_pos rfl, UInt64.toNat_add]
      apply Nat.mod_eq_of_lt h
  | false =>
      rw [if_neg (by decide), UInt64.add_zero]
      rfl

/-- A step of a thread keeps the balance. -/
theorem use {e : InstrumentedEvent} {s : InstrumentedState} (i : Balanced h d)
    (k : InstrumentedState.Step d.base t e s) (hn : counted (h ++ [(t, .uses e)]) < UInt64.size) :
  Balanced (h ++ [(t, .uses e)]) { d with base := s }
  := by
  constructor
  · intro b
    rw [exposure_concat]
    apply i.exposed
  · intro b
    have hb := i.balance b
    have hc : h.times (DumpedEvent.countsAs b) + (e.countsAs b).toNat < UInt64.size := by
      rw [counted, History.times_concat, History.times_concat] at hn
      simp only [DumpedEvent.countsAs] at hn
      cases b <;> omega
    -- The acquisition is overlooked or pending.
    have split : (e.countsAs b).toNat = (d.dump.exposes b && e.countsAs b).toNat
        + (!d.dump.exposes b && e.countsAs b).toNat := by
      cases d.dump.exposes b <;> simp
    rw [History.times_concat, reportedAs_concat, exposure_concat, i.exposed b, pending_use k,
      toNat_add_ite (by omega)]
    simp only [DumpedEvent.countsAs, DumpedEvent.reported?, Option.map_none, Option.getD_none,
      UInt64.toNat_zero]
    omega
  · rw [reports_concat, show (DumpedEvent.uses e).reported? = none from rfl, Option.toList_none,
      List.append_nil]
    apply i.sound

/-- There is a report of what a dump has loaded. -/
theorem exists_total {seen : Counters} (i : Balanced h d) (hp : d.dump = .writing seen)
    (hn : counted h < UInt64.size) :
  ∃ n, seen.total = .ok n
  := by
  have uncontended := i.balance false
  have contended := i.balance true
  simp only [pending, hp, DumpPhase.pending, DumpPhase.exposes, DumpPhase.unreported,
    Counters.number, if_true, Bool.false_eq_true, if_false] at uncontended contended
  rw [counted] at hn
  rw [Counters.total, if_pos (by omega)]
  exact ⟨_, rfl⟩

/-- A step of the dump keeps the balance. -/
theorem dump {e : DumpEvent} {stats : LockStats} {p : DumpPhase} (i : Balanced h d)
    (a : DumpPhase.Access d.base.lock.stats d.dump e stats p) (hn : counted h < UInt64.size) :
  Balanced (h ++ [(t, .dumps e)]) (d.setDump stats p)
  := by
  have hf : ∀ f, e ≠ .faults f := by
    rintro f rfl
    generalize hp : d.dump = q at a
    cases a with
    | fault hf =>
        obtain ⟨n, hok⟩ := i.exists_total hp hn
        rw [hok] at hf
        cases hf
  constructor
  · intro b
    rw [exposure_concat, i.exposed]
    apply (a.exposes hf).symm
  · intro b
    have hb := i.balance b
    have hp := a.pending (b := b) hf
    rw [pending] at hb
    rw [History.times_concat, reportedAs_concat, exposure_concat, pending, setDump]
    simp only [DumpedEvent.countsAs, Bool.and_false, Bool.toNat_false]
    omega
  · intro c hc
    rw [reports_concat, List.mem_append] at hc
    rcases hc with hc | hc
    · apply i.sound c hc
    · generalize d.dump = q at a
      cases a with
      | @report seen n hn =>
          obtain rfl := List.mem_singleton.mp hc
          use n, hn
      | _ => cases hc

/-- The balance is kept at any time, as long as the acquisitions fit into their number. -/
theorem of_run (r : system.Run h d) (hn : counted h < UInt64.size) :
  Balanced h d
  := by
  refine r.invariant (I := fun h d => counted h < UInt64.size → Balanced h d) ?_ ?_ hn
  · rintro _ ⟨s, ⟨description, threshold, rfl⟩, rfl⟩ _
    constructor
    · intro b
      rfl
    · intro b
      cases b <;> rfl
    · intro c hc
      cases hc
  · intro h d t e d' ih k hn
    have hn' : counted h < UInt64.size := by
      rw [counted, History.times_concat, History.times_concat] at hn
      rw [counted]
      omega
    cases k with
    | use k => apply (ih hn').use k hn
    | dump ha => apply (ih hn').dump (.of_access ha) hn'

end Balanced

variable {d : DumpedState} {h : History DumpedEvent}

/-- The totals of reports are what these say of the acquisitions of both kinds. -/
theorem reportedTotal_eq (hs : ∀ c ∈ reports h, ∃ n, c.total = .ok n) :
  reportedTotal h = reportedAs false h + reportedAs true h
  := by
  rw [reportedTotal, reportedAs, reportedAs]
  generalize reports h = l at hs ⊢
  induction l with
  | nil => rfl
  | cons c l ih =>
      obtain ⟨n, hn⟩ := hs c List.mem_cons_self
      have ih := ih (fun c hc => hs c (List.mem_cons_of_mem _ hc))
      have hc : n.toNat = (c.number false).toNat + (c.number true).toNat := by
        rw [Counters.total] at hn
        split at hn
        · rename_i hlt
          cases hn
          rw [UInt64.toNat_add]
          apply Nat.mod_eq_of_lt hlt
        · cases hn
      simp only [List.map_cons, List.sum_cons, hn, ih, hc]
      omega

/-- Where no dump is going on, what was counted is in the reports, or left in the counters, or was
counted behind the load of its counter and before zero was stored there. So the reports and what is
left hold together what was counted if and only if nothing was counted at such a time. -/
theorem accounting (r : system.Run h d) (hd : d.dump = .idle) (hn : counted h < UInt64.size) :
  ∃ left, d.base.lock.stats.counters.total = .ok left
    ∧ reportedTotal h + overlooked h + left.toNat = counted h
    ∧ (reportedTotal h + left.toNat = counted h ↔ overlooked h = 0)
  := by
  have i := Balanced.of_run r hn
  have uncontended := i.balance false
  have contended := i.balance true
  simp only [pending, hd, DumpPhase.pending, DumpPhase.exposes, LockStats.number, Counters.number,
    if_true, Bool.false_eq_true, if_false] at uncontended contended
  have total := reportedTotal_eq i.sound
  rw [counted] at hn ⊢
  have hlt : d.base.lock.stats.counters.uncontended.toNat
      + d.base.lock.stats.counters.contended.toNat < UInt64.size := by omega
  refine ⟨_, if_pos hlt, ?_⟩
  rw [UInt64.toNat_add, Nat.mod_eq_of_lt hlt, overlooked]
  omega

/-- A thread counts an acquisition after the load of the counter and before zero is stored there. -/
theorem exists_run_overlooked (a : Site) :
  ∃ h d, system.Run h d ∧ d.dump = .idle ∧ counted h = 1 ∧ reportedTotal h = 0
    ∧ overlooked h = 1 ∧ d.base.lock.stats.counters = .zero
  := by
  have r : system.Run [] { base := { lock := .fresh "" (.fresh none) } } :=
    ⟨_, ⟨_, ⟨"", none, rfl⟩, rfl⟩, .refl⟩
  have r := r.step (Step.dump (t := 2) rfl)
  have r := r.step (Step.dump (t := 2) rfl)
  have r := r.step (Step.dump (t := 2) rfl)
  have r := r.step (Step.dump (t := 2) rfl)
  have r := r.step (Step.dump (t := 2) rfl)
  have r := r.step (Step.dump (t := 2) rfl)
  have r := r.step (Step.use (t := 1) (.call .acquire a rfl))
  have r := r.step (Step.use (t := 1)
    (.native 0 (.access (w := .held) (x := .holder) rfl) (by simp)))
  have r := r.step (Step.use (t := 1) (.access {} (e := .counts false)
    (l := { word := .held, description := "", stats := .on none ⟨1, 0, 0, 0⟩ })
    (p := .signing a) rfl))
  have r := r.step (Step.dump (t := 2) rfl)
  have r := r.step (Step.dump (t := 2) rfl)
  have r := r.step (Step.dump (t := 2) rfl)
  have r := r.step (Step.dump (t := 2) rfl)
  exact ⟨_, _, r, rfl, rfl, rfl, rfl, rfl⟩

/-- The acquisition is neither reported nor left. -/
theorem accounting_overlooked :
  ∃ h d left, system.Run h d ∧ d.dump = .idle ∧ d.base.lock.stats.counters.total = .ok left
    ∧ reportedTotal h + left.toNat ≠ counted h ∧ reportedTotal h + 1 + left.toNat = counted h
  := by
  obtain ⟨h, d, r, hd, hn, _, ho, _⟩ := exists_run_overlooked ⟨"A", "", 1, 1⟩
  obtain ⟨left, total, sum, iff⟩ := accounting r hd (by rw [hn]; decide)
  rw [ho] at sum iff
  refine ⟨h, d, left, r, hd, total, ?_, sum⟩
  intro he
  cases iff.mp he

/-- So it is not true that every acquisition is reported or left. -/
theorem not_conserved :
  ¬ ∀ h d left, system.Run h d → d.dump = .idle →
    d.base.lock.stats.counters.total = .ok left → reportedTotal h + left.toNat = counted h
  := by
  intro conserved
  obtain ⟨h, d, r, hd, hn, ht, _, hc⟩ := exists_run_overlooked ⟨"A", "", 1, 1⟩
  have sum := conserved h d 0 r hd (by rw [hc]; rfl)
  rw [ht, hn] at sum
  cases sum

end DumpedState

end SyncLayer
