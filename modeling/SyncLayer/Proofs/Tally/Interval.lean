import SyncLayer.Proofs.Tally.Protocol
import Mathlib.Data.List.Induction
import Mathlib.Algebra.BigOperators.Group.List.Basic
import Mathlib.Algebra.GroupWithZero.Nat

/-!
# Merging at intervals

A thread that counts one operation after the other under the same interval merges its shadow
behind every operation that makes it hold as many as the interval says. So the totals have got as
many operations as there are whole intervals among those that were counted, and the shadow keeps
the rest. The interval may change between two operations, and then the shadow may hold more than
the new one says; but the next operation merges it, and nothing is lost.
-/

namespace SyncLayer

namespace Tally

/-- The tally of operations with the given cycles. -/
def ofCycles (cs : List UInt64) : Tally :=
  { operations := UInt64.ofNat cs.length, cycles := UInt64.ofNat (cs.map UInt64.toNat).sum }

variable {t u v : Tally} {c : UInt64} {cs ds : List UInt64}

@[simp]
theorem ofCycles_nil :
  ofCycles [] = .zero
  := rfl

theorem ofCycles_singleton :
  ofCycles [c] = { operations := 1, cycles := c }
  := by
  simp [ofCycles]

theorem ofCycles_append :
  ofCycles (cs ++ ds) = (ofCycles cs).add (ofCycles ds)
  := by
  simp [ofCycles, add, UInt64.ofNat_add]

theorem add_assoc :
  (t.add u).add v = t.add (u.add v)
  := by
  simp [add, UInt64.add_assoc]

@[simp]
theorem add_zero :
  t.add .zero = t
  := by
  simp [add, zero]

@[simp]
theorem zero_add :
  Tally.zero.add t = t
  := by
  simp [add, zero]

/-- A tally with another operation, which fits. -/
theorem toNat_add_ofCycles (h : t.operations.toNat + 1 < UInt64.size) :
  (t.add (ofCycles [c])).operations.toNat = t.operations.toNat + 1
  := by
  rw [ofCycles_singleton, add, UInt64.toNat_add]
  apply Nat.mod_eq_of_lt h

/-- The number of operations fits if it is less than a number of 64 bits. -/
theorem toNat_ofCycles (h : cs.length < UInt64.size) :
  (ofCycles cs).operations.toNat = cs.length
  := UInt64.toNat_ofNat_of_lt' h

theorem isEmpty_iff :
  t.isEmpty = true ↔ t = .zero
  := by
  cases t
  simp [isEmpty, zero]

end Tally

namespace Merging

/-- Count operations one after the other, each under the interval that is in force and with its
cycles, as long as none is a fault. -/
def recordEach : List (UInt64 × UInt64) → Attempt Merging Unit
  | [] => pure ()
  | (interval, cycles) :: calls => do
    record interval cycles
    recordEach calls

variable {m m' : Merging} {interval c : UInt64} {cs : List UInt64} {calls : List (UInt64 × UInt64)}

/-- As many operations of the same cycles as a session counts at once are counted one after the
other. -/
theorem times_record_on (n : Nat) :
  (Attempt.times () (record interval c) n).on m
    = (recordEach (List.replicate n (interval, c))).on m
  := by
  induction n generalizing m with
  | zero => rfl
  | succ n ih =>
      rw [List.replicate_succ, recordEach, Attempt.on_bind]
      cases n with
      | zero =>
          change (record interval c).on m = _
          obtain ⟨_ | _, _⟩ := (record interval c).on m
          · rfl
          · rfl
      | succ n =>
          rw [Attempt.times, Attempt.on_bind]
          simp only [ih]

/-- Merging a shadow adds it to the totals, also if it is empty. -/
theorem flush_eq :
  m.flush = { shadow := .zero, totals := m.totals.add m.shadow }
  := by
  rw [flush]
  split
  · rename_i h
    rw [Tally.isEmpty_iff.mp h, Tally.add_zero]
  · rfl

/-- An operation that fits is counted, and the shadow is merged if it is full. -/
theorem record_eq_ok (h : m.shadow.operations.toNat + 1 < UInt64.size) :
  (record interval c).on m
    = (.ok (),
      if interval ≠ 0 ∧ interval ≤ (m.shadow.add (.ofCycles [c])).operations then
        { shadow := .zero, totals := m.totals.add (m.shadow.add (.ofCycles [c])) }
      else { m with shadow := m.shadow.add (.ofCycles [c]) })
  := by
  rw [record_on h rfl, flush_eq, Tally.ofCycles_singleton]
  rfl

/-- An operation too many is a fault, behind which nothing has changed. -/
theorem record_eq_error (h : ¬ m.shadow.operations.toNat + 1 < UInt64.size) :
  (record interval c).on m = (.error .additionOverflow, m)
  := by
  simp [record, Tally.record_on_of_not_lt h, Attempt.ofExcept]

/-- Counting operations goes on with a last one behind the others. -/
theorem recordEach_concat :
  (recordEach (calls ++ [(interval, c)])).on m
    = match (recordEach calls).on m with
      | (.ok _, m') => (record interval c).on m'
      | (.error f, m') => (.error f, m')
  := by
  induction calls generalizing m with
  | nil =>
      simp only [List.nil_append, recordEach, Attempt.on_bind, Attempt.on_pure]
      split <;> simp_all
  | cons x calls ih =>
      simp only [List.cons_append, recordEach, Attempt.on_bind, ih]
      obtain ⟨_ | _, m'⟩ := (record x.1 x.2).on m
      · rfl
      · rfl

/-! ### One interval -/

/-- How many of `n` operations are merged by an interval: those in the whole intervals. -/
def merged (interval : UInt64) (n : Nat) : Nat :=
  interval.toNat * (n / interval.toNat)

variable {n : Nat}

/-- What is not merged is less than an interval. -/
theorem merged_add_mod (interval : UInt64) (n : Nat) :
  merged interval n + n % interval.toNat = n
  := Nat.div_add_mod n interval.toNat

/-- The operation that fills an interval completes it. -/
theorem merged_succ_of_eq (h : n % interval.toNat + 1 = interval.toNat) :
  merged interval (n + 1) = n + 1
  := by
  have hm := merged_add_mod interval (n + 1)
  have hz : (n + 1) % interval.toNat = 0 := by
    rw [← Nat.mod_add_mod, h, Nat.mod_self]
  omega

/-- Any other operation completes none. -/
theorem merged_succ_of_lt (h : n % interval.toNat + 1 < interval.toNat) :
  merged interval (n + 1) = merged interval n
  := by
  have hm := merged_add_mod interval n
  have hs := merged_add_mod interval (n + 1)
  have hn : (n + 1) % interval.toNat = n % interval.toNat + 1 := by
    rw [← Nat.mod_add_mod, Nat.mod_eq_of_lt h]
  omega

/-- Under one interval the totals get what is in the whole intervals, and the shadow the rest. -/
theorem recordEach_interval (hi : interval ≠ 0) (hm : m.shadow = .zero) (cs : List UInt64) :
  (recordEach (cs.map (fun c => (interval, c)))).on m
    = (.ok (),
      { shadow := .ofCycles (cs.drop (merged interval cs.length))
        totals := m.totals.add (.ofCycles (cs.take (merged interval cs.length))) })
  := by
  have pos : 0 < interval.toNat := by
    apply Nat.pos_of_ne_zero
    intro hz
    apply hi (UInt64.toNat_inj.mp hz)
  induction cs using List.reverseRecOn with
  | nil =>
      obtain ⟨_, totals⟩ := m
      subst hm
      simp [recordEach]
  | append_singleton cs c ih =>
      have rest := merged_add_mod interval cs.length
      have less := Nat.mod_lt cs.length pos
      have size := interval.toNat_lt_size
      have count : (cs.drop (merged interval cs.length) ++ [c]).length
          = cs.length % interval.toNat + 1 := by
        rw [List.length_append, List.length_drop, List.length_singleton]
        omega
      have fits : (Tally.ofCycles (cs.drop (merged interval cs.length))).operations.toNat + 1
          < UInt64.size := by
        rw [Tally.toNat_ofCycles, List.length_drop]
        · omega
        · rw [List.length_drop]
          omega
      have full :
          interval ≤ (Tally.ofCycles (cs.drop (merged interval cs.length) ++ [c])).operations
          ↔ cs.length % interval.toNat + 1 = interval.toNat := by
        rw [UInt64.le_iff_toNat_le, Tally.toNat_ofCycles, count]
        · omega
        · omega
      rw [List.map_append, List.map_singleton, recordEach_concat, ih, List.length_append,
        List.length_singleton]
      simp only
      rw [record_eq_ok fits, ← Tally.ofCycles_append]
      by_cases hn : cs.length % interval.toNat + 1 = interval.toNat
      · have all : (cs ++ [c]).length = cs.length + 1 := List.length_append
        rw [if_pos ⟨hi, full.mpr hn⟩, merged_succ_of_eq hn, List.drop_of_length_le all.le,
          List.take_of_length_le all.le, Tally.add_assoc, ← Tally.ofCycles_append,
          ← List.append_assoc, List.take_append_drop]
        rfl
      · rw [if_neg (fun h => hn (full.mp h.2)), merged_succ_of_lt (by omega),
          List.drop_append_of_le_length (by omega), List.take_append_of_le_length (by omega)]

/-- Without an interval nothing is merged, and as long as the number of the operations fits they
all stay in the shadow. -/
theorem recordEach_never (cs : List UInt64) :
  ((recordEach (cs.map (fun c => (0, c)))).on m).2.totals = m.totals
    ∧ (m.shadow.operations.toNat + cs.length < UInt64.size →
      (recordEach (cs.map (fun c => (0, c)))).on m
        = (.ok (), { m with shadow := m.shadow.add (.ofCycles cs) }))
  := by
  induction cs generalizing m with
  | nil => simp [recordEach]
  | cons c cs ih =>
      rw [List.map_cons, recordEach, Attempt.on_bind, List.length_cons]
      by_cases fits : m.shadow.operations.toNat + 1 < UInt64.size
      · obtain ⟨totals, shadow⟩ := ih (m := { m with shadow := m.shadow.add (.ofCycles [c]) })
        rw [record_eq_ok fits, if_neg (fun h => h.1 rfl)]
        refine ⟨totals, ?_⟩
        intro hn
        apply Eq.trans (shadow _)
        · rw [Tally.add_assoc, ← Tally.ofCycles_append]
          rfl
        · rw [Tally.toNat_add_ofCycles fits]
          omega
      · rw [record_eq_error fits]
        refine ⟨rfl, ?_⟩
        intro hn
        omega

/-! ### Intervals that change -/

/-- Behind an operation the shadow holds less than the interval, and it holds with the totals the
operation and what they held before. -/
theorem record_kept (h : m.shadow.operations.toNat + 1 < UInt64.size)
    (hr : (record interval c).on m = (.ok (), m')) :
  m'.totals.add m'.shadow = (m.totals.add m.shadow).add (.ofCycles [c])
    ∧ (interval ≠ 0 → m'.shadow.operations < interval)
  := by
  rw [record_eq_ok h] at hr
  obtain ⟨_, rfl⟩ := Prod.mk.inj hr
  split
  · rename_i full
    refine ⟨?_, ?_⟩
    · rw [Tally.add_zero, Tally.add_assoc]
    · intro hi
      apply UInt64.pos_iff_ne_zero.mpr hi
  · rename_i full
    refine ⟨?_, ?_⟩
    · rw [Tally.add_assoc]
    · intro hi
      apply UInt64.not_le.mp
      intro hl
      apply full ⟨hi, hl⟩

/-- Whatever the intervals are, nothing is lost, and behind an operation the shadow holds less than
its interval. A fault tells that the shadow has counted as many operations as it can. -/
theorem recordEach_cases (calls : List (UInt64 × UInt64)) :
  (∃ m', (recordEach calls).on m = (.ok (), m')
      ∧ m'.totals.add m'.shadow
        = (m.totals.add m.shadow).add (.ofCycles (calls.map Prod.snd))
      ∧ ∀ x ∈ calls.getLast?, x.1 ≠ 0 → m'.shadow.operations < x.1)
    ∨ ∃ m', (recordEach calls).on m = (.error .additionOverflow, m')
      ∧ m'.shadow.operations.toNat + 1 = UInt64.size
  := by
  induction calls using List.reverseRecOn with
  | nil =>
      left
      use m
      simp [recordEach]
  | append_singleton calls x ih =>
      obtain ⟨interval, c⟩ := x
      rw [recordEach_concat]
      obtain ⟨m', hr, sum, _⟩ | ⟨m', hr, hn⟩ := ih
      · rw [hr]
        by_cases fits : m'.shadow.operations.toNat + 1 < UInt64.size
        · have hr' := @record_eq_ok m' interval c fits
          obtain ⟨kept, less⟩ := record_kept fits hr'
          left
          refine ⟨_, hr', ?_, ?_⟩
          · rw [kept, sum, Tally.add_assoc, ← Tally.ofCycles_append, List.map_append]
            rfl
          · rw [List.getLast?_concat]
            rintro _ ⟨⟩
            apply less
        · right
          refine ⟨m', record_eq_error fits, ?_⟩
          have size := m'.shadow.operations.toNat_lt_size
          omega
      · right
        rw [hr]
        use m'

/-- Operations that a thread counts are merged at whole intervals. With an empty shadow at first and
one interval, the totals get the operations of the whole intervals with their cycles, and the
shadow holds the rest; with an interval of zero nothing is merged, and the shadow holds everything
that fits. If the interval changes between the operations, then behind each of them the shadow
holds less than its interval, and the shadow and the totals hold together what was counted and what
they held at first; a fault comes only where the shadow has as many operations as a number
holds. -/
theorem quantisation (m : Merging) :
  (∀ (interval : UInt64) (cs : List UInt64), interval ≠ 0 → m.shadow = .zero →
      (recordEach (cs.map (fun c => (interval, c)))).on m
        = (.ok (),
          { shadow :=
              { operations := UInt64.ofNat (cs.length % interval.toNat)
                cycles :=
                  UInt64.ofNat ((cs.drop (merged interval cs.length)).map UInt64.toNat).sum }
            totals :=
              { operations := m.totals.operations + UInt64.ofNat (merged interval cs.length)
                cycles := m.totals.cycles
                  + UInt64.ofNat ((cs.take (merged interval cs.length)).map UInt64.toNat).sum } }))
    ∧ (∀ cs : List UInt64,
      ((recordEach (cs.map (fun c => (0, c)))).on m).2.totals = m.totals
        ∧ (m.shadow.operations.toNat + cs.length < UInt64.size →
          (recordEach (cs.map (fun c => (0, c)))).on m
            = (.ok (), { m with shadow := m.shadow.add (.ofCycles cs) })))
    ∧ ∀ calls : List (UInt64 × UInt64),
      (∃ m', (recordEach calls).on m = (.ok (), m')
          ∧ m'.totals.add m'.shadow
            = (m.totals.add m.shadow).add (.ofCycles (calls.map Prod.snd))
          ∧ ∀ x ∈ calls.getLast?, x.1 ≠ 0 → m'.shadow.operations < x.1)
        ∨ ∃ m', (recordEach calls).on m = (.error .additionOverflow, m')
          ∧ m'.shadow.operations.toNat + 1 = UInt64.size
  := by
  refine ⟨?_, recordEach_never, recordEach_cases⟩
  intro interval cs hi hm
  have rest := merged_add_mod interval cs.length
  have taken : (cs.take (merged interval cs.length)).length = merged interval cs.length := by
    apply List.length_take_of_le
    omega
  have dropped : (cs.drop (merged interval cs.length)).length = cs.length % interval.toNat := by
    rw [List.length_drop]
    omega
  rw [recordEach_interval hi hm, Tally.ofCycles, Tally.ofCycles, Tally.add, taken, dropped]

/-- Two intervals of three operations are merged into totals that wrap, and a seventh operation is
not. -/
theorem quantisation_wrapped :
  (recordEach ([1, 2, 3, 4, 5, 0xffffffffffffffff, 7].map (fun c => (3, c)))).on
      { totals := { operations := 0xfffffffffffffffe, cycles := 9 } }
    = (.ok (),
      { shadow := { operations := 1, cycles := 7 }, totals := { operations := 4, cycles := 23 } })
  := by
  obtain ⟨whole, _⟩ := quantisation { totals := { operations := 0xfffffffffffffffe, cycles := 9 } }
  apply whole 3 [1, 2, 3, 4, 5, 0xffffffffffffffff, 7] (by decide) rfl

end Merging

end SyncLayer
