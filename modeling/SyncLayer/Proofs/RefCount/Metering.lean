import SyncLayer.Proofs.RefCount.Sharing
import SyncLayer.Proofs.Tally.Interval
import SyncLayer.RefCount.Metered

/-!
# Counts that leave their range

A count moves with every operation, also with one that ends in a fault. So behind any operations it
is the first count with what was counted and without what was counted away, reduced to 64 signed
bits, and a fault tells nothing but that the count stood at an end of its range. A hook runs where
the count was one, and the shadow of the thread counts the timed operations on the count that were
no faults.
-/

namespace SyncLayer

namespace RefCount

variable {c : RefCount} {n : Int64}

/-- One may not count a reference beyond the greatest count, which wraps. -/
theorem increment_on_of_eq (h : c.count = Int64.maxValue) :
  increment.on c = (.error .refcountOverflow, { count := c.count + 1 })
  := by
  simp [increment, h]

/-- One may not count a reference away where there is none. -/
theorem decrement_on_of_le (h : c.count ≤ 0) :
  decrement.on c = (.error .refcountUnderflow, { count := c.count - 1 })
  := by
  simp [decrement, Int64.not_lt.mpr h]

theorem lt_maxValue (h : n ≠ Int64.maxValue) :
  n < Int64.maxValue
  := by
  have hl := n.toInt_le
  have hn : n.toInt ≠ Int64.maxValue.toInt := fun he => h (Int64.toInt_inj.mp he)
  rw [Int64.lt_iff_toInt_lt]
  omega

/-- Counting a reference away leaves zero if it was the only one. -/
theorem sub_one_eq_zero_iff :
  n - 1 = 0 ↔ n = 1
  := by
  constructor
  · intro h
    rw [← Int64.sub_add_cancel n 1, h, Int64.zero_add]
  · rintro rfl
    rfl

end RefCount

namespace CountOperation

variable {σ : Type}

/-- Whether an operation counts a reference. -/
def isIncrement : CountOperation σ → Bool
  | increment _ => true
  | decrement _ _ => false

/-- How an operation is timed. -/
def timing : CountOperation σ → Option Timing
  | increment timing => timing
  | decrement timing _ => timing

/-- The hook of an operation, which does nothing where there is none. -/
def hook : CountOperation σ → CountHook σ
  | decrement _ (some hook) => hook
  | _ => fun s => (false, s)

/-- The count behind an operation. -/
def moved (n : Int64) : CountOperation σ → Int64
  | increment _ => n + 1
  | decrement _ _ => n - 1

/-- Whether the count is at the end of its range that the operation may not leave. -/
def AtEnd (n : Int64) : CountOperation σ → Prop
  | increment _ => n = Int64.maxValue
  | decrement _ _ => n ≤ 0

/-- The fault of an operation on a count at the end of its range. -/
def fault : CountOperation σ → Fault
  | increment _ => .refcountOverflow
  | decrement _ _ => .refcountUnderflow

/-- Whether the operation is timed while the shadow has counted as many operations as it can. -/
def IsFull (m : Merging) (op : CountOperation σ) : Prop :=
  op.timing ≠ none ∧ m.shadow.operations.toNat + 1 = UInt64.size

/-- The tallies behind an operation that they count if it is timed. -/
def tallied (m : Merging) (op : CountOperation σ) : Merging :=
  match op.timing with
  | none => m
  | some t => ((Merging.record t.interval t.cycles).on m).2

variable {m : Merging} {op : CountOperation σ} {t : Timing} {n : Int64}

/-- A count of one is at no end of its range. -/
theorem ne_one_of_atEnd (h : op.AtEnd n) :
  n ≠ 1
  := by
  rintro rfl
  cases op with
  | increment _ => cases h
  | decrement _ _ =>
      change (1 : Int64) ≤ 0 at h
      apply absurd h (by decide)

theorem fault_eq_overflow_iff :
  op.fault = .refcountOverflow ↔ op.isIncrement = true
  := by
  cases op with
  | increment _ => simp [fault, isIncrement]
  | decrement _ _ => simp [fault, isIncrement]

theorem fault_eq_underflow_iff :
  op.fault = .refcountUnderflow ↔ op.isIncrement = false
  := by
  cases op with
  | increment _ => simp [fault, isIncrement]
  | decrement _ _ => simp [fault, isIncrement]

/-- The end of its range that an operation may not leave is the greatest count or none. -/
theorem atEnd_iff :
  op.AtEnd n ↔ op.isIncrement = true ∧ n = Int64.maxValue ∨ op.isIncrement = false ∧ n ≤ 0
  := by
  cases op with
  | increment _ => simp [AtEnd, isIncrement]
  | decrement _ _ => simp [AtEnd, isIncrement]

theorem not_overflow_of_not_atEnd (h : ¬ op.AtEnd n) :
  ¬ (op.isIncrement = true ∧ n = Int64.maxValue)
  := fun hn => h (atEnd_iff.mpr (.inl hn))

theorem not_underflow_of_not_atEnd (h : ¬ op.AtEnd n) :
  ¬ (op.isIncrement = false ∧ n ≤ 0)
  := fun hn => h (atEnd_iff.mpr (.inr hn))

/-- A timed operation fits where the shadow is not full. -/
theorem lt_of_not_isFull (ht : op.timing = some t) (hf : ¬ op.IsFull m) :
  m.shadow.operations.toNat + 1 < UInt64.size
  := by
  have size := m.shadow.operations.toNat_lt_size
  have less : m.shadow.operations.toNat + 1 ≠ UInt64.size := by
    intro he
    apply hf ⟨?_, he⟩
    rw [ht]
    apply Option.some_ne_none
  omega

end CountOperation

namespace MeteredCount

variable {σ : Type} {m : MeteredCount σ} {op : CountOperation σ} {c : RefCount} {n : Int64}
  {f : Fault} {timing : Option Timing} {a : Attempt RefCount Int64}

/-- The operations that a thread has counted, in its shadow or merged into the totals. -/
def counted (m : MeteredCount σ) : UInt64 :=
  (m.merging.totals.add m.merging.shadow).operations

/-- What an operation leaves of which only the count has moved. -/
def move (op : CountOperation σ) (m : MeteredCount σ) : MeteredCount σ :=
  { m with references := { count := op.moved m.references.count } }

/-- An operation that is a fault of the count is not tallied. -/
theorem timed_on_error (h : a.on m.references = (.error f, c)) :
  (timed timing a).on m = (.error f, { m with references := c })
  := by
  simp [timed, h]

/-- A timed operation on the count is tallied if that is no fault. -/
theorem timed_on_ok (h : a.on m.references = (.ok n, c)) :
  (timed timing a).on m
    = match timing with
      | none => (.ok n, { m with references := c })
      | some t =>
        match (Merging.record t.interval t.cycles).on m.merging with
        | (.ok _, merging) => (.ok n, { m with references := c, merging })
        | (.error f, merging) => (.error f, { m with references := c, merging })
  := by
  cases timing with
  | none => simp [timed, h]
  | some t =>
      simp only [timed, h, Attempt.on_bind, Attempt.on_within, Attempt.on_pure]
      obtain ⟨_ | _, _⟩ := (Merging.record t.interval t.cycles).on m.merging
      · rfl
      · rfl

/-- An operation on a count at the end of its range moves it, and is a fault. -/
theorem perform_of_atEnd (h : op.AtEnd m.references.count) :
  (perform op).on m = (.error op.fault, move op m)
  := by
  cases op with
  | increment timing => apply timed_on_error (RefCount.increment_on_of_eq h)
  | decrement timing hook =>
      cases hook with
      | none => apply timed_on_error (RefCount.decrement_on_of_le h)
      | some hook =>
          apply RefCount.thenIfZero_on_error
          apply timed_on_error (RefCount.decrement_on_of_le h)

/-- Where the shadow is full a timed operation on the count is a fault of the shadow. -/
theorem timed_on_of_full (h : a.on m.references = (.ok n, c)) (ht : timing ≠ none)
    (hf : m.merging.shadow.operations.toNat + 1 = UInt64.size) :
  (timed timing a).on m = (.error .additionOverflow, { m with references := c })
  := by
  obtain ⟨t, rfl⟩ := Option.ne_none_iff_exists'.mp ht
  rw [timed_on_ok h]
  simp only [Merging.record_eq_error (not_lt_of_ge hf.ge)]

/-- An operation beyond what the shadow can count moves the count, and is a fault. -/
theorem perform_of_isFull (h : ¬ op.AtEnd m.references.count) (hf : op.IsFull m.merging) :
  (perform op).on m = (.error .additionOverflow, move op m)
  := by
  obtain ⟨ht, hf⟩ := hf
  cases op with
  | increment timing =>
      apply timed_on_of_full (RefCount.increment_on (RefCount.lt_maxValue h)) ht hf
  | decrement timing hook =>
      have pos := Int64.not_le.mp h
      cases hook with
      | none => apply timed_on_of_full (RefCount.decrement_on pos) ht hf
      | some hook =>
          apply RefCount.thenIfZero_on_error
          apply timed_on_of_full (RefCount.decrement_on pos) ht hf

/-- A timed operation on the count is tallied where the shadow is not full. -/
theorem timed_on_of_fits (h : a.on m.references = (.ok n, c)) (ht : op.timing = timing)
    (hf : ¬ op.IsFull m.merging) :
  (timed timing a).on m = (.ok n, { m with references := c, merging := op.tallied m.merging })
  := by
  rw [timed_on_ok h, CountOperation.tallied, ht]
  cases timing with
  | none => rfl
  | some t => simp only [Merging.record_eq_ok (CountOperation.lt_of_not_isFull ht hf)]

/-- Any other operation returns the count that it leaves, unless there is a hook that fails where
the count was one. -/
theorem perform_of_fits (h : ¬ op.AtEnd m.references.count) (hf : ¬ op.IsFull m.merging) :
  (perform op).on m
    = (if m.references.count = 1 ∧ (op.hook m.surroundings).1 = true then .error .hookFailed
        else .ok (op.moved m.references.count),
      { move op m with
        surroundings :=
          if m.references.count = 1 then (op.hook m.surroundings).2 else m.surroundings
        merging := op.tallied m.merging })
  := by
  cases op with
  | increment timing =>
      apply Eq.trans (timed_on_of_fits (RefCount.increment_on (RefCount.lt_maxValue h)) rfl hf)
      simp [CountOperation.hook, CountOperation.moved, move]
  | decrement timing hook =>
      have pos := Int64.not_le.mp h
      cases hook with
      | none =>
          apply Eq.trans (timed_on_of_fits (RefCount.decrement_on pos) rfl hf)
          simp [CountOperation.hook, CountOperation.moved, move]
      | some hook =>
          apply Eq.trans
            (RefCount.thenIfZero_on_ok (timed_on_of_fits (RefCount.decrement_on pos) rfl hf))
          simp only [RefCount.sub_one_eq_zero_iff]
          by_cases one : m.references.count = 1
          · rw [if_pos one, if_pos one]
            simp only [runHook, Attempt.on_ofRun, CountOperation.hook, one, true_and]
            obtain ⟨_ | _, _⟩ := hook m.surroundings
            · simp [CountOperation.moved, move, one]
            · simp [CountOperation.moved, move, one]
          · simp [one, CountOperation.moved, move]

/-- Tallies that are not full count an operation if it is timed. -/
theorem counted_tallied (hf : ¬ op.IsFull m.merging) :
  counted { m with merging := op.tallied m.merging }
    = m.counted + if op.timing.isSome then 1 else 0
  := by
  cases ht : op.timing with
  | none => simp [counted, CountOperation.tallied, ht]
  | some t =>
      have fits := CountOperation.lt_of_not_isFull ht hf
      have kept :=
        (Merging.record_kept fits (@Merging.record_eq_ok _ t.interval t.cycles fits)).1
      simp only [counted, CountOperation.tallied, ht, Merging.record_eq_ok fits, kept]
      rfl

/-! ### What an operation does -/

/-- Whether an operation did what it does to the count without a fault. A hook that fails does so
behind that. -/
def isSound : Except Fault Int64 → Bool
  | .ok _ => true
  | .error f => f == .hookFailed

/-- What an operation returns, and what it leaves. -/
structure Performed (m : MeteredCount σ) (op : CountOperation σ) (r : Except Fault Int64)
    (m' : MeteredCount σ) : Prop where
  /-- The count moves by one and wraps, also behind a fault. -/
  stored : m'.references.count = op.moved m.references.count
  /-- A reference too many is counted just where the count is the greatest. -/
  overflow : r = .error .refcountOverflow
    ↔ op.isIncrement = true ∧ m.references.count = Int64.maxValue
  /-- A reference is counted away in vain just where there is none. -/
  underflow : r = .error .refcountUnderflow
    ↔ op.isIncrement = false ∧ m.references.count ≤ 0
  /-- The shadow fails just where it has counted as many operations as it can. -/
  full : r = .error .additionOverflow
    ↔ ¬ op.AtEnd m.references.count ∧ op.IsFull m.merging
  /-- The hook fails just where it runs, and fails of itself. -/
  failed : r = .error .hookFailed
    ↔ m.references.count = 1 ∧ ¬ op.IsFull m.merging ∧ (op.hook m.surroundings).1 = true
  /-- There are no other faults. -/
  faults : ∀ f, r = .error f →
    f = .refcountOverflow ∨ f = .refcountUnderflow ∨ f = .additionOverflow ∨ f = .hookFailed
  /-- An operation that is no fault returns the count that it leaves. -/
  returned : ∀ n, r = .ok n → n = m'.references.count
  /-- The hook runs just where the count was one. -/
  hooked : ¬ op.IsFull m.merging → m'.surroundings
    = if m.references.count = 1 then (op.hook m.surroundings).2 else m.surroundings
  /-- The thread counts a timed operation that is no fault. -/
  counted : m'.counted = m.counted + if op.timing.isSome && isSound r then 1 else 0

theorem performed_of_atEnd (h : op.AtEnd m.references.count) :
  Performed m op (.error op.fault) (move op m)
  where
  stored := rfl
  overflow := by
    rw [Except.error.injEq, CountOperation.fault_eq_overflow_iff]
    rcases CountOperation.atEnd_iff.mp h with ⟨hi, hn⟩ | ⟨hi, _⟩
    · simp [hi, hn]
    · simp [hi]
  underflow := by
    rw [Except.error.injEq, CountOperation.fault_eq_underflow_iff]
    rcases CountOperation.atEnd_iff.mp h with ⟨hi, _⟩ | ⟨hi, hn⟩
    · simp [hi]
    · simp [hi, hn]
  full := by cases op <;> simp [CountOperation.fault, h]
  failed := by cases op <;> simp [CountOperation.fault, CountOperation.ne_one_of_atEnd h]
  faults := by cases op <;> simp [CountOperation.fault]
  returned := by simp
  hooked := by simp [CountOperation.ne_one_of_atEnd h, move]
  counted := by cases op <;> simp [CountOperation.fault, isSound, move, MeteredCount.counted]

theorem performed_of_isFull (h : ¬ op.AtEnd m.references.count) (hf : op.IsFull m.merging) :
  Performed m op (.error .additionOverflow) (move op m)
  where
  stored := rfl
  overflow := by simpa using CountOperation.not_overflow_of_not_atEnd h
  underflow := by simpa using CountOperation.not_underflow_of_not_atEnd h
  full := by simp [h, hf]
  failed := by simp [hf]
  faults := by simp
  returned := by simp
  hooked := fun hn => absurd hf hn
  counted := by simp [isSound, move, MeteredCount.counted]

theorem performed_of_fits (h : ¬ op.AtEnd m.references.count) (hf : ¬ op.IsFull m.merging) :
  Performed m op
    (if m.references.count = 1 ∧ (op.hook m.surroundings).1 = true then .error .hookFailed
      else .ok (op.moved m.references.count))
    { move op m with
      surroundings :=
        if m.references.count = 1 then (op.hook m.surroundings).2 else m.surroundings
      merging := op.tallied m.merging }
  := by
  have counted := counted_tallied hf
  by_cases fails : m.references.count = 1 ∧ (op.hook m.surroundings).1 = true
  · rw [if_pos fails]
    exact {
      stored := rfl
      overflow := by simpa using CountOperation.not_overflow_of_not_atEnd h
      underflow := by simpa using CountOperation.not_underflow_of_not_atEnd h
      full := by simp [hf]
      failed := by simp [hf, fails]
      faults := by simp
      returned := by simp
      hooked := fun _ => rfl
      counted := by simpa [isSound, MeteredCount.counted, move] using counted }
  · rw [if_neg fails]
    exact {
      stored := rfl
      overflow := by simpa using CountOperation.not_overflow_of_not_atEnd h
      underflow := by simpa using CountOperation.not_underflow_of_not_atEnd h
      full := by simp [hf]
      failed := by simpa [hf] using fails
      faults := by simp
      returned := by simp [move]
      hooked := fun _ => rfl
      counted := by simpa [isSound, MeteredCount.counted, move] using counted }

theorem performed (m : MeteredCount σ) (op : CountOperation σ) :
  Performed m op ((perform op).on m).1 ((perform op).on m).2
  := by
  by_cases atEnd : op.AtEnd m.references.count
  · rw [perform_of_atEnd atEnd]
    apply performed_of_atEnd atEnd
  · by_cases full : op.IsFull m.merging
    · rw [perform_of_isFull atEnd full]
      apply performed_of_isFull atEnd full
    · rw [perform_of_fits atEnd full]
      apply performed_of_fits atEnd full

/-! ### What operations leave -/

variable {ops : List (CountOperation σ)}

/-- How many references operations count. -/
def increments (ops : List (CountOperation σ)) : Nat :=
  ops.countP CountOperation.isIncrement

/-- How many references operations count away. -/
def decrements (ops : List (CountOperation σ)) : Nat :=
  ops.countP (fun op => !op.isIncrement)

/-- How many of what operations returned are of timed ones that were no faults. -/
def timings (rs : List (CountOperation σ × Except Fault Int64)) : Nat :=
  rs.countP (fun (op, r) => op.timing.isSome && isSound r)

/-- The count moves with every operation. -/
theorem count_performEach (ops : List (CountOperation σ)) (m : MeteredCount σ) :
  (performEach ops m).2.references.count
    = m.references.count + Int64.ofInt (increments ops - decrements ops)
  := by
  induction ops generalizing m with
  | nil => simp [performEach, increments, decrements]
  | cons op ops ih =>
      have change : op.moved m.references.count
          = m.references.count + Int64.ofInt (if op.isIncrement then 1 else -1) := by
        cases op with
        | increment _ => rfl
        | decrement _ _ => apply Int64.sub_eq_add_neg
      have total : (if op.isIncrement then 1 else -1) + ((increments ops : Int) - decrements ops)
          = increments (op :: ops) - decrements (op :: ops) := by
        cases h : op.isIncrement <;> simp [increments, decrements, h] <;> omega
      rw [performEach, ih, (performed m op).stored, change, Int64.add_assoc, ← Int64.ofInt_add,
        total]

/-- The thread counts every timed operation that is no fault. -/
theorem counted_performEach (ops : List (CountOperation σ)) (m : MeteredCount σ) :
  (performEach ops m).2.counted
    = m.counted + UInt64.ofNat (timings (performEach ops m).1)
  := by
  induction ops generalizing m with
  | nil => simp [performEach, timings]
  | cons op ops ih =>
      have one : ∀ b : Bool,
          (if b then (1 : UInt64) else 0) = UInt64.ofNat (if b then 1 else 0) := by
        intro b
        cases b
        · rfl
        · rfl
      rw [performEach, ih, (performed m op).counted, one, UInt64.add_assoc, ← UInt64.ofNat_add,
        Nat.add_comm, timings, timings, List.countP_cons]

/-- An operation adds at most one to what the shadow has counted. -/
theorem shadow_perform_le (m : MeteredCount σ) (op : CountOperation σ) :
  ((perform op).on m).2.merging.shadow.operations.toNat
    ≤ m.merging.shadow.operations.toNat + 1
  := by
  by_cases atEnd : op.AtEnd m.references.count
  · rw [perform_of_atEnd atEnd]
    apply Nat.le_succ
  · by_cases full : op.IsFull m.merging
    · rw [perform_of_isFull atEnd full]
      apply Nat.le_succ
    · rw [perform_of_fits atEnd full]
      cases ht : op.timing with
      | none => simp [CountOperation.tallied, ht]
      | some t =>
          have fits := CountOperation.lt_of_not_isFull ht full
          simp only [CountOperation.tallied, ht, Merging.record_eq_ok fits]
          split
          · apply Nat.zero_le
          · apply (Tally.toNat_add_ofCycles fits).le

/-- Operations add at most their number to what the shadow has counted. -/
theorem shadow_performEach_le (ops : List (CountOperation σ)) (m : MeteredCount σ) :
  (performEach ops m).2.merging.shadow.operations.toNat
    ≤ m.merging.shadow.operations.toNat + ops.length
  := by
  induction ops generalizing m with
  | nil => rfl
  | cons op ops ih =>
      have first := shadow_perform_le m op
      have others := ih ((perform op).on m).2
      rw [List.length_cons]
      apply Nat.le_trans others
      omega

/-! ### The counts of a session -/

/-- What the hook of a session does to the number of times that it ran. -/
def effect : Session.Hook → CountHook Nat
  | .none => fun n => (false, n)
  | .note | .revive => fun n => (false, n + 1)
  | .fail => fun n => (true, n)

/-- The count of a session with the tallies of the thread that acts on it. -/
def ofHooked (merging : Merging) (h : Session.HookedCount) : MeteredCount Nat :=
  { references := h.references, surroundings := h.freed, merging }

variable {h : Session.HookedCount} {merging : Merging} {hook : Session.Hook}

/-- An operation on the count of a session is one that is not timed. -/
theorem timed_ofHooked (a : Attempt RefCount Int64) :
  (timed none a).on (ofHooked merging h)
    = (((Session.HookedCount.onCount a).on h).1,
      ofHooked merging ((Session.HookedCount.onCount a).on h).2)
  := by
  rcases ha : a.on h.references with ⟨_ | n, c⟩
  · simp [timed, Session.HookedCount.onCount, ofHooked, ha]
  · simp [timed, Session.HookedCount.onCount, ofHooked, ha]

/-- The hook of a session acts on the number of times that it ran, unless it takes a new
reference. -/
theorem runHook_ofHooked (hn : hook ≠ .revive) :
  (runHook (effect hook)).on (ofHooked merging h)
    = (((Session.HookedCount.run hook).on h).1,
      ofHooked merging ((Session.HookedCount.run hook).on h).2)
  := by
  cases hook with
  | none => rfl
  | note => rfl
  | revive => apply absurd rfl hn
  | fail => rfl

/-- So counting a reference of a session away is an operation that is not timed. -/
theorem decrement_ofHooked (hn : hook ≠ .revive) :
  (perform (.decrement none (some (effect hook)))).on (ofHooked merging h)
    = (((Session.HookedCount.decrement hook).on h).1,
      ofHooked merging ((Session.HookedCount.decrement hook).on h).2)
  := by
  have count := @timed_ofHooked h merging RefCount.decrement
  rcases hd : (Session.HookedCount.onCount RefCount.decrement).on h with ⟨f | n, h'⟩
  · rw [hd] at count
    rw [perform, RefCount.thenIfZero_on_error count, Session.HookedCount.decrement,
      RefCount.thenIfZero_on_error hd]
  · rw [hd] at count
    rw [perform, RefCount.thenIfZero_on_ok count, Session.HookedCount.decrement,
      RefCount.thenIfZero_on_ok hd, runHook_ofHooked hn]
    by_cases hz : n = 0
    · rw [if_pos hz, if_pos hz]
      obtain ⟨_ | _, _⟩ := (Session.HookedCount.run hook).on h'
      · rfl
      · rfl
    · rw [if_neg hz, if_neg hz]

/-- A hook that takes a new reference does so as an operation behind the one that it belongs to. -/
theorem decrement_revive :
  (Session.HookedCount.decrement .revive).on h
    = match (Session.HookedCount.decrement .note).on h with
      | (.ok n, h') =>
        (.ok n,
          if n = 0 then ((Session.HookedCount.onCount RefCount.increment).on h').2 else h')
      | (.error f, h') => (.error f, h')
  := by
  by_cases pos : 0 < h.references.count
  · have count : (Session.HookedCount.onCount RefCount.decrement).on h
        = (.ok (h.references.count - 1),
          { h with references := { count := h.references.count - 1 } }) := by
      simp [Session.HookedCount.onCount, RefCount.decrement_on pos]
    rw [Session.HookedCount.decrement, RefCount.thenIfZero_on_ok count,
      Session.HookedCount.decrement, RefCount.thenIfZero_on_ok count]
    by_cases hz : h.references.count - 1 = 0
    · have fits : (0 : Int64) < Int64.maxValue := by decide
      simp [Session.HookedCount.run, Session.HookedCount.onCount, RefCount.increment_on, hz, fits]
    · rw [if_neg hz, if_neg hz]
      simp [hz]
  · have count : (Session.HookedCount.onCount RefCount.decrement).on h
        = (.error .refcountUnderflow,
          { h with references := { count := h.references.count - 1 } }) := by
      simp [Session.HookedCount.onCount, RefCount.decrement_on_of_le (Int64.not_lt.mp pos)]
    rw [Session.HookedCount.decrement, RefCount.thenIfZero_on_error count,
      Session.HookedCount.decrement, RefCount.thenIfZero_on_error count]

/-- Operations on a count, also behind faults. The count is the first one with what was counted and
without what was counted away, reduced to 64 signed bits. Whatever was done, the next operation
moves the count by one and returns it, unless the count was at the end of its range, which is a
fault; the shadow has counted as many operations as it can, which is another one, but not before
that many operations; or the hook fails, which runs where the count was one. The thread has counted
the timed operations that were no faults. -/
theorem arithmetic (m : MeteredCount σ) (ops : List (CountOperation σ)) (op : CountOperation σ) :
  (performEach ops m).2.references.count.toInt
      = (m.references.count.toInt + increments ops - decrements ops).bmod (2 ^ 64)
    ∧ Performed (performEach ops m).2 op ((perform op).on (performEach ops m).2).1
      ((perform op).on (performEach ops m).2).2
    ∧ (m.merging.shadow.operations.toNat + ops.length + 1 < UInt64.size →
      ((perform op).on (performEach ops m).2).1 ≠ .error .additionOverflow)
    ∧ (performEach ops m).2.counted = m.counted + UInt64.ofNat (timings (performEach ops m).1)
  := by
  have next := performed (performEach ops m).2 op
  refine ⟨?_, next, ?_, counted_performEach ops m⟩
  · rw [count_performEach, Int64.toInt_add, Int64.toInt_ofInt, Int.add_bmod_bmod, Int.add_sub_assoc]
    rfl
  · intro hn hf
    obtain ⟨_, _, full⟩ := next.full.mp hf
    have shadow := shadow_performEach_le ops m
    omega

/-- A reference too many that is counted away again, a timed one, leaves the greatest count, from
which one may be counted away. -/
theorem arithmetic_wrapped :
  ∃ (m : MeteredCount Nat) (ops : List (CountOperation Nat)) (op : CountOperation Nat),
    m.references.count = Int64.maxValue ∧ ops.length = 2
      ∧ m.merging.shadow.operations.toNat + ops.length + 1 < UInt64.size
      ∧ (performEach ops m).2.references.count.toInt = 2 ^ 63 - 1
      ∧ ((perform op).on (performEach ops m).2).1 ≠ .error .additionOverflow
  := by
  let m : MeteredCount Nat := { references := { count := Int64.maxValue }, surroundings := 0 }
  let ops : List (CountOperation Nat) :=
    [.increment (some { interval := 2, cycles := 7 }), .decrement none none]
  let op : CountOperation Nat := .decrement (some { interval := 2, cycles := 7 }) none
  obtain ⟨stored, _, fits, _⟩ := arithmetic m ops op
  refine ⟨m, ops, op, rfl, rfl, by decide, ?_, fits (by decide)⟩
  rw [stored]
  decide

end MeteredCount

end SyncLayer
