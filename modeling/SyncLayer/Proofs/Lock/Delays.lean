import SyncLayer.Lock.Delays
import SyncLayer.Proofs.System
import Mathlib.Algebra.GroupWithZero.Nat
import Mathlib.Algebra.Order.BigOperators.Group.List
import Mathlib.Algebra.Order.Ring.Nat

/-!
# What statistics make of delays

Any threads count acquisitions in the same statistics, each in up to three accesses behind a look at
the threshold. When all have come to an end, the statistics are what the delays and the thresholds
that were in force make of them, in whatever order the accesses were done.
-/

namespace SyncLayer

/-- Statistics, the settings of the process, and the threads that count acquisitions. -/
structure DelayState where
  settings : Settings
  stats : LockStats
  phases : ThreadId → DelayPhase := fun _ => .idle

/-! ### What is seen of a step -/

namespace DelayEvent

/-- The delay of an acquisition that is to be counted. -/
def called? : DelayEvent → Option UInt64
  | calls d => some d
  | _ => none

/-- The delay and the threshold of an acquisition that is judged. -/
def judged? : DelayEvent → Option (UInt64 × UInt64)
  | judges d n => some (d, n)
  | _ => none

/-- The delay of an acquisition that is found to be contended, or not to be. -/
def judgedAs? (contended : Bool) (e : DelayEvent) : Option UInt64 :=
  (e.judged?.filter (fun x => decide (x.2 < x.1) = contended)).map Prod.fst

/-- The delay of an acquisition that is counted as contended, or as not. -/
def countedAs? (contended : Bool) : DelayEvent → Option UInt64
  | counts d b => if b = contended then some d else none
  | _ => none

/-- The delay that is added. -/
def added? : DelayEvent → Option UInt64
  | adds d => some d
  | _ => none

/-- The delay that is kept if it is the longest. -/
def raised? : DelayEvent → Option UInt64
  | raises d => some d
  | _ => none

/-- The threshold of the process behind a step. -/
def threshold (n : UInt64) : DelayEvent → UInt64
  | sets m => m
  | _ => n

end DelayEvent

/-- The delays that were to be counted. -/
def calledDelays (h : History DelayEvent) : List UInt64 :=
  h.seen DelayEvent.called?

/-- The delays that were judged, with their thresholds. -/
def judgedDelays (h : History DelayEvent) : List (UInt64 × UInt64) :=
  h.seen DelayEvent.judged?

/-- The delays above their thresholds. -/
def contendedDelays (l : List (UInt64 × UInt64)) : List UInt64 :=
  (l.filter (fun x => x.2 < x.1)).map Prod.fst

/-- The threshold of the process behind what happened, which was another one at first. -/
def thresholdAfter (n : UInt64) (h : History DelayEvent) : UInt64 :=
  h.foldl (fun n x => x.2.threshold n) n

namespace DelayState

/-- The state behind a step that makes a thread stand somewhere else. -/
def enter (s : DelayState) (t : ThreadId) (stats : LockStats) (p : DelayPhase) : DelayState :=
  { s with stats, phases := Function.update s.phases t p }

/-- The steps of a thread. It may also change the threshold of the process. -/
inductive Step : DelayState → ThreadId → DelayEvent → DelayState → Prop
  | call {s : DelayState} {t : ThreadId} (delay : UInt64) (hp : s.phases t = .idle) :
      Step s t (.calls delay) (s.enter t s.stats (.judging delay))
  | access {s : DelayState} {t : ThreadId} {e : DelayEvent} {stats : LockStats} {p : DelayPhase}
      (h : (s.phases t).access s.settings s.stats = some (e, stats, p)) :
      Step s t e (s.enter t stats p)
  | set {s : DelayState} {t : ThreadId} (n : UInt64) :
      Step s t (.sets n) { s with settings := { s.settings with threshold := n } }

/-- Where the threads start: none counts an acquisition, and the statistics have just been reset. -/
def start (settings : Settings) (own : Option UInt64) (c : Counters) : DelayState where
  settings := settings
  stats := (LockStats.on own c).reset

@[simp]
theorem phases_start {settings : Settings} {own : Option UInt64} {c : Counters} {t : ThreadId} :
  (start settings own c).phases t = .idle
  := rfl

/-- The threads that count acquisitions in the statistics. -/
def system : System DelayState DelayEvent where
  Starts s := ∃ settings own c, s = start settings own c
  Step := Step

end DelayState

/-! ### The steps of a thread, one by one -/

namespace DelayPhase

/-- How a step goes on from the threshold of the process, the counters, and where the thread stands:
the thread is to count an acquisition; it judges the acquisition by the threshold in force; it
counts one that was not contended, or one that was; it adds the delay, and keeps it if it is the
longest; and it changes the threshold of the process. -/
inductive Move (own : Option UInt64) (n : UInt64) (c : Counters) :
    DelayPhase → DelayEvent → UInt64 → Counters → DelayPhase → Prop
  | call {d : UInt64} : Move own n c idle (.calls d) n c (judging d)
  | judge {d : UInt64} :
      Move own n c (judging d) (.judges d (own.getD n)) n c
        (counting d (!decide (d ≤ own.getD n)))
  | count {d : UInt64} : Move own n c (counting d false) (.counts d false) n (c.count false) idle
  | countContended {d : UInt64} :
      Move own n c (counting d true) (.counts d true) n (c.count true) (adding d)
  | add {d : UInt64} : Move own n c (adding d) (.adds d) n (c.addDelay d) (raising d)
  | raise {d : UInt64} : Move own n c (raising d) (.raises d) n (c.raiseDelay d) idle
  | set {p : DelayPhase} {m : UInt64} : Move own n c p (.sets m) m c p

/-- The acquisition that a thread has still to judge. -/
def unjudged : DelayPhase → List UInt64
  | judging d => [d]
  | _ => []

/-- The acquisition that a thread has still to count as contended, or as not. -/
def uncounted (contended : Bool) : DelayPhase → List UInt64
  | counting d b => if b = contended then [d] else []
  | _ => []

/-- The delay that a thread has still to add. -/
def unadded : DelayPhase → List UInt64
  | adding d => [d]
  | _ => []

/-- The delay that a thread has still to keep if it is the longest. -/
def unraised : DelayPhase → List UInt64
  | raising d => [d]
  | _ => []

variable {own : Option UInt64} {n n' : UInt64} {c c' : Counters} {p p' : DelayPhase}
  {e : DelayEvent} {s : Settings} {stats : LockStats}

/-- An access to statistics that count is one of the moves. -/
theorem Move.of_access (h : p.access s (.on own c) = some (e, stats, p')) :
  ∃ c', stats = .on own c' ∧ Move own s.threshold c p e s.threshold c' p'
  := by
  cases p with
  | idle => cases h
  | judging d =>
      cases h
      exact ⟨c, rfl, judge⟩
  | counting d b =>
      cases h
      cases b with
      | false => exact ⟨_, rfl, count⟩
      | true => exact ⟨_, rfl, countContended⟩
  | adding d =>
      cases h
      exact ⟨_, rfl, add⟩
  | raising d =>
      cases h
      exact ⟨_, rfl, raise⟩

theorem Move.threshold (k : Move own n c p e n' c' p') :
  n' = e.threshold n
  := by
  cases k <;> rfl

theorem Move.judges (k : Move own n c p e n' c' p') {d m : UInt64} (he : e = .judges d m) :
  m = own.getD n
  := by
  subst he
  cases k
  rfl

/-! What a thread has still to do is what it came to do less what it does. -/

theorem Move.unjudged (k : Move own n c p e n' c' p') :
  p.unjudged ++ e.called?.toList = (e.judged?.map Prod.fst).toList ++ p'.unjudged
  := by
  cases k with
  | @set p m => cases p <;> rfl
  | _ => rfl

theorem Move.uncounted (b : Bool) (k : Move own n c p e n' c' p') :
  p.uncounted b ++ (e.judgedAs? b).toList = (e.countedAs? b).toList ++ p'.uncounted b
  := by
  cases k with
  | @judge d =>
      have above : (!decide (d ≤ own.getD n)) = decide (own.getD n < d) := by
        rw [← decide_not, decide_eq_decide]
        apply UInt64.not_le
      rw [above]
      by_cases hb : decide (own.getD n < d) = b <;>
        simp [DelayPhase.uncounted, DelayEvent.judgedAs?, DelayEvent.judged?, DelayEvent.countedAs?,
          Option.filter, hb]
  | @set p m => cases p <;> simp [DelayEvent.judgedAs?, DelayEvent.judged?, DelayEvent.countedAs?]
  | _ => cases b <;> rfl

theorem Move.unadded (k : Move own n c p e n' c' p') :
  p.unadded ++ (e.countedAs? true).toList = e.added?.toList ++ p'.unadded
  := by
  cases k with
  | @set p m => cases p <;> rfl
  | _ => rfl

theorem Move.unraised (k : Move own n c p e n' c' p') :
  p.unraised ++ e.added?.toList = e.raised?.toList ++ p'.unraised
  := by
  cases k with
  | @set p m => cases p <;> rfl
  | _ => rfl

end DelayPhase

namespace Counters

/-- The counters behind some acquisitions that were not contended and some that were, the delays
that were added, and the delays that were kept if they were the longest. -/
def ofDelays (us cs added raised : List UInt64) : Counters where
  uncontended := .ofNat us.length
  contended := .ofNat cs.length
  totalDelay := .ofNat (added.map UInt64.toNat).sum
  maxDelay := raised.foldl max 0

/-- What the moves of a thread make of the counters. -/
theorem ofDelays_move {own : Option UInt64} {n n' : UInt64} {c' : Counters} {p p' : DelayPhase}
    {e : DelayEvent} {us cs added raised : List UInt64}
    (k : DelayPhase.Move own n (ofDelays us cs added raised) p e n' c' p') :
  c' = ofDelays (us ++ (e.countedAs? false).toList) (cs ++ (e.countedAs? true).toList)
    (added ++ e.added?.toList) (raised ++ e.raised?.toList)
  := by
  cases k <;>
    simp [ofDelays, count, addDelay, raiseDelay, DelayEvent.countedAs?, DelayEvent.added?,
      DelayEvent.raised?, UInt64.ofNat_add]

end Counters

/-! ### What counters say of delays -/

/-- A delay is the longest of some, or zero if there are none. -/
structure IsLongest (l : List UInt64) (longest : UInt64) : Prop where
  le : ∀ d ∈ l, d ≤ longest
  mem : longest ∈ l ∨ l = [] ∧ longest = 0

/-- The counters are those of acquisitions with the given delays, each judged by the threshold that
comes with it. -/
structure Counters.Counts (l : List (UInt64 × UInt64)) (c : Counters) : Prop where
  uncontended : c.uncontended.toNat = l.countP (fun x => x.1 ≤ x.2)
  contended : c.contended.toNat = l.countP (fun x => x.2 < x.1)
  totalDelay : c.totalDelay.toNat = ((contendedDelays l).map UInt64.toNat).sum % UInt64.size
  maxDelay : IsLongest (contendedDelays l) c.maxDelay

section Accounts

variable {l l' : List (UInt64 × UInt64)} {ds ds' : List UInt64} {n n' : UInt64} {c c' : Counters}

theorem isLongest_foldl_max (ds : List UInt64) :
  IsLongest ds (ds.foldl max 0)
  := by
  induction ds using List.reverseRecOn with
  | nil => exact ⟨by simp, .inr ⟨rfl, rfl⟩⟩
  | append_singleton ds d ih =>
      rw [List.foldl_append, List.foldl_cons, List.foldl_nil]
      have last : d ∈ ds ++ [d] := by simp
      by_cases h : ds.foldl max 0 ≤ d
      · rw [show max (ds.foldl max 0) d = d from if_pos h]
        constructor
        · intro e he
          obtain he | rfl := by simpa using he
          · apply UInt64.le_trans (ih.le e he) h
          · apply UInt64.le_refl
        · exact .inl last
      · rw [show max (ds.foldl max 0) d = ds.foldl max 0 from if_neg h]
        have hd : d ≤ ds.foldl max 0 := by grind
        constructor
        · intro e he
          obtain he | rfl := by simpa using he
          · apply ih.le e he
          · exact hd
        · obtain hm | ⟨rfl, _⟩ := ih.mem
          · exact .inl (List.mem_append_left _ hm)
          · exact absurd (UInt64.zero_le) h

/-- The longest of some delays does not depend on their order. -/
theorem IsLongest.unique (i : IsLongest ds n) (i' : IsLongest ds' n') (h : ds.Perm ds') :
  n = n'
  := by
  obtain hn | ⟨rfl, rfl⟩ := i.mem
  · obtain hn' | ⟨rfl, _⟩ := i'.mem
    · exact UInt64.le_antisymm (i'.le n (h.mem_iff.mp hn)) (i.le n' (h.mem_iff.mpr hn'))
    · rw [h.eq_nil] at hn
      cases hn
  · obtain hn' | ⟨_, rfl⟩ := i'.mem
    · rw [← h.nil_eq] at hn'
      cases hn'
    · rfl

theorem IsLongest.of_perm (i : IsLongest ds n) (h : ds.Perm ds') :
  IsLongest ds' n
  := by
  constructor
  · intro d hd
    exact i.le d (h.mem_iff.mpr hd)
  · obtain hn | ⟨rfl, rfl⟩ := i.mem
    · exact .inl (h.mem_iff.mp hn)
    · exact .inr ⟨h.nil_eq.symm, rfl⟩

/-- A delay above a threshold is not zero. -/
theorem pos_of_mem_contendedDelays {d : UInt64} (h : d ∈ contendedDelays l) :
  0 < d.toNat
  := by
  simp only [contendedDelays, List.mem_map, List.mem_filter] at h
  obtain ⟨⟨d, m⟩, ⟨_, hm⟩, rfl⟩ := h
  have hm : m < d := by simpa using hm
  exact Nat.zero_lt_of_lt (UInt64.lt_iff_toNat_lt.mp hm)

theorem length_contendedDelays (l : List (UInt64 × UInt64)) :
  (contendedDelays l).length = l.countP (fun x => x.2 < x.1)
  := by
  simp [contendedDelays, List.countP_eq_length_filter]

theorem contendedDelays_perm (h : l.Perm l') :
  (contendedDelays l).Perm (contendedDelays l')
  := (h.filter _).map _

/-- The counters do not depend on the order of the acquisitions. -/
theorem Counters.Counts.unique (i : Counts l c) (i' : Counts l' c') (h : l.Perm l') :
  c = c'
  := by
  have delays := contendedDelays_perm h
  have total : c.totalDelay.toNat = c'.totalDelay.toNat := by
    rw [i.totalDelay, i'.totalDelay, (delays.map _).sum_eq]
  have uncontended : c.uncontended.toNat = c'.uncontended.toNat := by
    rw [i.uncontended, i'.uncontended, h.countP_eq]
  have contended : c.contended.toNat = c'.contended.toNat := by
    rw [i.contended, i'.contended, h.countP_eq]
  have longest := i.maxDelay.unique i'.maxDelay delays
  cases c
  cases c'
  simp_all [UInt64.toNat_inj]

/-- The longest of some delays is not more than all of them together. -/
theorem IsLongest.le_sum (i : IsLongest ds n) :
  n.toNat ≤ (ds.map UInt64.toNat).sum
  := by
  obtain hn | ⟨_, rfl⟩ := i.mem
  · exact List.single_le_sum (fun _ _ => Nat.zero_le _) _ (List.mem_map_of_mem hn)
  · exact Nat.zero_le _

/-- Delays are together not more than the longest of them, as often as there are delays. -/
theorem IsLongest.sum_le (i : IsLongest ds n) :
  (ds.map UInt64.toNat).sum ≤ ds.length * n.toNat
  := by
  have each : ∀ m ∈ ds.map UInt64.toNat, m ≤ n.toNat := by
    intro m hm
    obtain ⟨d, hd, rfl⟩ := List.mem_map.mp hm
    exact UInt64.le_iff_toNat_le.mp (i.le d hd)
  simpa using List.sum_le_card_nsmul _ _ each

/-- If the delays of the contended acquisitions can be added in 64 bits, then the counters bound one
another, and all of them are zero if one is. -/
theorem Counters.Counts.bounds (i : Counts l c)
    (fits : ((contendedDelays l).map UInt64.toNat).sum < UInt64.size) :
  c.maxDelay ≤ c.totalDelay
    ∧ c.totalDelay.toNat ≤ c.contended.toNat * c.maxDelay.toNat
    ∧ (c.contended = 0 ↔ c.maxDelay = 0)
    ∧ (c.maxDelay = 0 ↔ c.totalDelay = 0)
  := by
  have total := i.totalDelay
  rw [Nat.mod_eq_of_lt fits] at total
  have number := i.contended
  rw [← length_contendedDelays] at number
  have lower : c.maxDelay.toNat ≤ c.totalDelay.toNat := total ▸ i.maxDelay.le_sum
  have upper : c.totalDelay.toNat ≤ c.contended.toNat * c.maxDelay.toNat := by
    rw [total, number]
    apply i.maxDelay.sum_le
  have none_iff : c.contended.toNat = 0 ↔ c.maxDelay.toNat = 0 := by
    rw [number, List.length_eq_zero_iff]
    obtain h | ⟨h, h'⟩ := i.maxDelay.mem
    · have := pos_of_mem_contendedDelays h
      constructor
      · intro he
        rw [he] at h
        cases h
      · omega
    · simp [h, h']
  have zero_iff : c.maxDelay.toNat = 0 ↔ c.totalDelay.toNat = 0 := by
    constructor
    · intro hm
      rw [hm, Nat.mul_zero] at upper
      omega
    · omega
  simp only [← UInt64.toNat_inj, UInt64.le_iff_toNat_le]
  exact ⟨lower, upper, none_iff, zero_iff⟩

/-- The counters behind acquisitions count them, whatever was done in whatever order. -/
theorem Counters.counts_ofDelays {us cs added raised : List UInt64} (hl : l.length < UInt64.size)
    (hus : us.length = l.countP (fun x => x.1 ≤ x.2)) (hcs : cs.Perm (contendedDelays l))
    (hadded : added.Perm (contendedDelays l)) (hraised : raised.Perm (contendedDelays l)) :
  Counts l (ofDelays us cs added raised)
  where
  uncontended := by
    have fits := List.countP_le_length (p := fun x : UInt64 × UInt64 => x.1 ≤ x.2) (l := l)
    rw [ofDelays, hus, UInt64.toNat_ofNat_of_lt' (by omega)]
  contended := by
    have fits := List.countP_le_length (p := fun x : UInt64 × UInt64 => x.2 < x.1) (l := l)
    rw [ofDelays, hcs.length_eq, length_contendedDelays, UInt64.toNat_ofNat_of_lt' (by omega)]
  totalDelay := by
    rw [ofDelays, (hadded.map _).sum_eq, UInt64.toNat_ofNat']
  maxDelay := (isLongest_foldl_max raised).of_perm hraised

end Accounts

namespace DelayState

variable {s s' : DelayState} {t u : ThreadId} {e : DelayEvent} {h : History DelayEvent}
  {own : Option UInt64} {c : Counters} {settings : Settings}

/-- A step moves the thread that does it and no other. -/
theorem Step.move (k : Step s t e s') (hs : s.stats = .on own c) :
  ∃ c', s'.stats = .on own c'
    ∧ DelayPhase.Move own s.settings.threshold c (s.phases t) e s'.settings.threshold c'
      (s'.phases t)
    ∧ ∀ u, u ≠ t → s'.phases u = s.phases u
  := by
  have others {stats : LockStats} {p : DelayPhase} : ∀ u, u ≠ t →
      (s.enter t stats p).phases u = s.phases u := by
    intro u hu
    apply Function.update_of_ne hu
  have self {stats : LockStats} {p : DelayPhase} : (s.enter t stats p).phases t = p := by
    simp [enter]
  cases k with
  | call d hp =>
      refine ⟨c, hs, ?_, others⟩
      rw [self, hp]
      apply DelayPhase.Move.call
  | access h =>
      rw [hs] at h
      obtain ⟨c', hc, k⟩ := DelayPhase.Move.of_access h
      refine ⟨c', hc, ?_, others⟩
      rw [self]
      exact k
  | set n => exact ⟨c, hs, .set, fun _ _ => rfl⟩

/-! ### A call that nobody interrupts -/

/-- An access of a thread leads from where it stands to where it goes. -/
theorem step_enter {stats stats' : LockStats} {p p' : DelayPhase}
    (h : p.access s.settings stats = some (e, stats', p')) :
  Step (s.enter t stats p) t e (s.enter t stats' p')
  := by
  have next : (s.enter t stats p).enter t stats' p' = s.enter t stats' p' := by
    simp [enter]
  rw [← next]
  apply Step.access
  simpa [enter] using h

theorem enter_idle {stats : LockStats} (hp : s.phases t = .idle) :
  s.enter t stats .idle = { s with stats }
  := by
  rw [enter, ← hp, Function.update_eq_self]

/-- A call that nobody interrupts counts the acquisition at once. -/
theorem exists_path_record (d : UInt64) (hp : s.phases t = .idle) :
  ∃ h, system.Path s h { s with stats := s.stats.record s.settings d }
  := by
  have call : system.Path s [(t, .calls d)] (s.enter t s.stats (.judging d)) :=
    .single (Step.call d hp)
  rw [← enter_idle hp]
  cases hs : s.stats with
  | off =>
      rw [hs] at call
      exact ⟨_, call.step (step_enter rfl)⟩
  | on own c =>
      rw [hs] at call
      have judged : system.Path s _ (s.enter t _ _) := call.step (step_enter rfl)
      have counted : system.Path s _ (s.enter t _ _) := judged.step (step_enter rfl)
      rw [LockStats.record, Counters.record]
      by_cases hd : d ≤ own.getD s.settings.threshold
      · simp only [hd, if_true]
        simp only [hd, decide_true, Bool.not_true, Bool.false_eq_true, if_false] at counted
        exact ⟨_, counted⟩
      · simp only [hd, if_false]
        simp only [hd, decide_false, Bool.not_false, if_true] at counted
        have added : system.Path s _ (s.enter t _ _) := counted.step (step_enter rfl)
        exact ⟨_, added.step (step_enter rfl)⟩

/-! ### What a run leads to -/

/-- What is in force behind what happened: the counters of what was counted, added and kept, and the
threshold of the process. -/
structure Reflects (own : Option UInt64) (n : UInt64) (h : History DelayEvent) (s : DelayState) :
  Prop where
  stats : s.stats = .on own (.ofDelays (h.seen (DelayEvent.countedAs? false))
    (h.seen (DelayEvent.countedAs? true)) (h.seen DelayEvent.added?) (h.seen DelayEvent.raised?))
  threshold : s.settings.threshold = thresholdAfter n h

theorem Reflects.step {n : UInt64} (i : Reflects own n h s) (k : Step s t e s') :
  Reflects own n (h ++ [(t, e)]) s'
  := by
  obtain ⟨c', hc, move, _⟩ := k.move i.stats
  constructor
  · rw [hc, Counters.ofDelays_move move]
    simp only [History.seen_concat]
  · rw [move.threshold, i.threshold, thresholdAfter, thresholdAfter, List.foldl_append]
    rfl

theorem Reflects.of_path
    (p : system.Path (start settings own c) h s) :
  Reflects own settings.threshold h s
  := by
  induction p with
  | refl => exact ⟨rfl, rfl⟩
  | step _ k i => exact i.step k

/-- What a thread came to do in what happened is what it did, and what it has still to do. -/
theorem seenBy_of_path {α : Type} {f g : DelayEvent → Option α} {w : DelayPhase → List α}
    (h₀ : w .idle = [])
    (move : ∀ {own n c x e n' c' y}, DelayPhase.Move own n c x e n' c' y →
      w x ++ (f e).toList = (g e).toList ++ w y)
    (p : system.Path (start settings own c) h s) :
  h.seenBy t f = h.seenBy t g ++ w (s.phases t)
  := by
  induction p with
  | refl => rw [phases_start, h₀]; rfl
  | @step h s s' u e p k ih =>
      obtain ⟨c', _, k, others⟩ := k.move (Reflects.of_path p).stats
      by_cases hu : u = t
      · subst hu
        rw [History.seenBy_concat_of_eq, History.seenBy_concat_of_eq, ih, List.append_assoc, move k,
          List.append_assoc]
      · rw [History.seenBy_concat_of_ne hu, History.seenBy_concat_of_ne hu, ih,
          others t (Ne.symm hu)]

/-- When all threads have come to an end, what they came to do is what they did, if not in the same
order. -/
theorem perm_of_path {α : Type} {f g : DelayEvent → Option α} {w : DelayPhase → List α}
    (h₀ : w .idle = [])
    (move : ∀ {own n c x e n' c' y}, DelayPhase.Move own n c x e n' c' y →
      w x ++ (f e).toList = (g e).toList ++ w y)
    (p : system.Path (start settings own c) h s) (ended : ∀ t, s.phases t = .idle) :
  (h.seen f).Perm (h.seen g)
  := by
  apply History.perm_of_seenBy_eq
  intro t
  rw [seenBy_of_path h₀ move p, ended, h₀, List.append_nil]

/-- The acquisitions that are judged to be contended, or not to be. -/
theorem seen_judgedAs? (b : Bool) :
  h.seen (DelayEvent.judgedAs? b)
    = ((judgedDelays h).filter (fun x => decide (x.2 < x.1) = b)).map Prod.fst
  := by
  rw [judgedDelays, History.seen, History.seen, List.filter_filterMap, List.map_filterMap]
  rfl

/-- When all threads have come to an end, the counters count the acquisitions that were judged. -/
theorem counts_of_path (p : system.Path (start settings own c) h s)
    (ended : ∀ t, s.phases t = .idle) (hl : (judgedDelays h).length < UInt64.size) :
  ∃ c', s.stats = .on own c' ∧ c'.Counts (judgedDelays h)
  := by
  have counted (b : Bool) := perm_of_path rfl (DelayPhase.Move.uncounted b) p ended
  have contended :
      (h.seen (DelayEvent.countedAs? true)).Perm (contendedDelays (judgedDelays h)) := by
    apply (counted true).symm.trans
    rw [seen_judgedAs?]
    simp [contendedDelays]
  have added := (perm_of_path rfl DelayPhase.Move.unadded p ended).symm.trans contended
  have raised := (perm_of_path rfl DelayPhase.Move.unraised p ended).symm.trans added
  have uncontended : (h.seen (DelayEvent.countedAs? false)).length
      = (judgedDelays h).countP (fun x => x.1 ≤ x.2) := by
    rw [← (counted false).length_eq, seen_judgedAs?, List.length_map, List.countP_eq_length_filter]
    simp
  exact ⟨_, (Reflects.of_path p).stats,
    Counters.counts_ofDelays hl uncontended contended added raised⟩

/-- Every acquisition is judged by the threshold of the statistics or, if they have none, by that of
the process at the time. -/
theorem threshold_of_path {h₁ h₂ : History DelayEvent} {d n : UInt64}
    (p : system.Path (start settings own c) (h₁ ++ (t, .judges d n) :: h₂) s) :
  n = own.getD (thresholdAfter settings.threshold h₁)
  := by
  rw [List.append_cons] at p
  obtain ⟨_, p, _⟩ := p.split
  obtain ⟨_, p, k⟩ := p.of_concat
  have i := Reflects.of_path p
  obtain ⟨_, _, k, _⟩ := k.move i.stats
  rw [k.judges rfl, i.threshold]

/-- Any threads count acquisitions in statistics that have just been reset, in any order of their
accesses, while the threshold of the process changes; they come to an end, and they count fewer
acquisitions than 64 bits can. Each acquisition has been judged once, by the threshold in force at
the time. The counters are the number of acquisitions with a delay up to their thresholds, the
number with one above, the sum of the latter delays in 64 bits, and the longest of them. They are
the same behind any other run in which the same delays are judged by the same thresholds, in any
order; and if the sum fits into 64 bits, then they bound one another and all are zero if one is. -/
theorem exactness (settings : Settings) (own : Option UInt64) (c : Counters)
    (h : History DelayEvent) (s : DelayState)
    (p : system.Path (start settings own c) h s)
    (ended : ∀ t, s.phases t = .idle) (few : (calledDelays h).length < UInt64.size) :
  (calledDelays h).Perm ((judgedDelays h).map Prod.fst)
    ∧ (∀ h₁ t d n h₂, h = h₁ ++ (t, .judges d n) :: h₂ →
        n = own.getD (thresholdAfter settings.threshold h₁))
    ∧ ∃ counters, s.stats = .on own counters
      ∧ counters.Counts (judgedDelays h)
      ∧ (∀ settings' own' c' h' s',
          system.Path (start settings' own' c') h' s' → (∀ t, s'.phases t = .idle) →
          (judgedDelays h').Perm (judgedDelays h) → s'.stats.counters = counters)
      ∧ (((contendedDelays (judgedDelays h)).map UInt64.toNat).sum < UInt64.size →
          counters.maxDelay ≤ counters.totalDelay
            ∧ counters.totalDelay.toNat ≤ counters.contended.toNat * counters.maxDelay.toNat
            ∧ (counters.contended = 0 ↔ counters.maxDelay = 0)
            ∧ (counters.maxDelay = 0 ↔ counters.totalDelay = 0))
  := by
  have judged : (calledDelays h).Perm ((judgedDelays h).map Prod.fst) := by
    rw [judgedDelays, History.seen, List.map_filterMap]
    exact perm_of_path rfl DelayPhase.Move.unjudged p ended
  have number : (judgedDelays h).length = (calledDelays h).length := by
    rw [judged.length_eq, List.length_map]
  obtain ⟨counters, hs, counts⟩ := counts_of_path p ended (number ▸ few)
  refine ⟨judged, ?_, counters, hs, counts, ?_, counts.bounds⟩
  · rintro h₁ t d n h₂ rfl
    exact threshold_of_path p
  · intro settings' own' c' h' s' p' ended' same
    have few' : (judgedDelays h').length < UInt64.size := by
      rw [same.length_eq, number]
      exact few
    obtain ⟨counters', hs', counts'⟩ := counts_of_path p' ended' few'
    rw [hs', LockStats.counters, counts'.unique counts same]

/-- Two threads count acquisitions, the one between accesses of the other, and the threshold falls
meanwhile. -/
theorem exists_path_ended :
  ∃ h s, system.Path (start { threshold := 10 } none .zero) h s
    ∧ (∀ t, s.phases t = .idle) ∧ (calledDelays h).length < UInt64.size
    ∧ judgedDelays h = [(10, 10), (11, 5), (10, 5)]
  := by
  have p : system.Path (start { threshold := 10 } none .zero) [] _ := .refl
  have p := p.step (Step.call (t := 1) 10 rfl)
  have p := p.step (Step.call (t := 2) 11 rfl)
  have p := p.step (Step.access (t := 1) (p := .counting 10 false) rfl)
  have p := p.step (Step.set (t := 1) 5)
  have p := p.step (Step.access (t := 2) (p := .counting 11 true) rfl)
  have p := p.step (Step.access (t := 1) (p := .idle) rfl)
  have p := p.step (Step.call (t := 1) 10 rfl)
  have p := p.step (Step.access (t := 1) (p := .counting 10 true) rfl)
  have p := p.step (Step.access (t := 2) (p := .adding 11) rfl)
  have p := p.step (Step.access (t := 1) (p := .adding 10) rfl)
  have p := p.step (Step.access (t := 2) (p := .raising 11) rfl)
  have p := p.step (Step.access (t := 1) (p := .raising 10) rfl)
  have p := p.step (Step.access (t := 2) (p := .idle) rfl)
  have p := p.step (Step.access (t := 1) (p := .idle) rfl)
  refine ⟨_, _, p, ?_, by decide, rfl⟩
  intro t
  by_cases h1 : t = 1
  · simp [enter, h1]
  · by_cases h2 : t = 2 <;> simp [enter, Function.update, h1, h2]

/-- The statistics count the acquisitions of these threads. -/
theorem exactness_ended :
  ∃ h s c, system.Path (start { threshold := 10 } none .zero) h s
    ∧ judgedDelays h = [(10, 10), (11, 5), (10, 5)] ∧ s.stats = .on none c
    ∧ c.uncontended.toNat = 1 ∧ c.contended.toNat = 2 ∧ c.totalDelay.toNat = 11 + 10
    ∧ c.maxDelay ≤ c.totalDelay
  := by
  obtain ⟨h, s, p, ended, few, hj⟩ := exists_path_ended
  obtain ⟨_, _, c, hc, counts, _, bounds⟩ :=
    exactness { threshold := 10 } none .zero h s p ended few
  rw [hj] at counts bounds
  exact ⟨h, s, c, p, hj, hc, counts.uncontended, counts.contended, counts.totalDelay,
    (bounds (by decide)).1⟩

end DelayState

end SyncLayer
