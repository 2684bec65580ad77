import SyncLayer.Decimal.Numeral
import Mathlib.Logic.Basic
import Mathlib.Tactic.Use

/-!
# Texts that denote numbers

The reader of a number accepts just the texts that are an optional plus sign and some digits, with a
value below its bound, and its result is that value. The digits of a number are one of these texts,
with any zeros in front of them.
-/

namespace SyncLayer.Decimal

/-- A text denotes a number if it is an optional plus sign and some digits with that value. -/
def Spells (cs : List Char) (n : Nat) : Prop :=
  ∃ ds, (cs = ds ∨ cs = '+' :: ds) ∧ ds ≠ [] ∧ (∀ d ∈ ds, d.isDigit = true) ∧ value ds = n

variable {cs ds : List Char} {d : Char} {bound n : Nat}

/-! ### Digits -/

theorem isDigit_of_mem_digits (h : d ∈ digits n) :
  d.isDigit = true
  := Nat.isDigit_of_mem_toDigits (by decide) (by decide) h

theorem value_digits (n : Nat) :
  value (digits n) = n
  := Nat.ofDigitChars_ten_toDigits

/-- The digits of a positive number do not begin with a zero. -/
theorem exists_digits_eq_cons (h : 0 < n) :
  ∃ d ds, digits n = d :: ds ∧ d ≠ '0'
  := by
  induction n using Nat.strongRecOn with
  | ind n ih =>
      by_cases hn : n < 10
      · use n.digitChar, []
        constructor
        · apply Nat.toDigits_of_lt_base hn
        · apply Nat.digitChar_eq_zero.not.mpr (by omega)
      · obtain ⟨d, ds, hd, h0⟩ := ih (n / 10) (by omega) (by omega)
        use d, ds ++ [(n % 10).digitChar]
        refine ⟨?_, h0⟩
        rw [digits] at hd ⊢
        rw [Nat.toDigits_of_base_le (by decide) (by omega), hd]
        rfl

/-- Zeros in front of digits do not count. -/
theorem value_zeros_append (i : Nat) (s : List Char) :
  value (List.replicate i '0' ++ s) = value s
  := by
  induction i with
  | zero => rfl
  | succ i ih =>
      rw [List.replicate_succ, List.cons_append]
      exact ih

/-! ### Numbers -/

/-- The text behind an optional plus sign. -/
theorem dropPlus_eq_iff (hd : ∀ d ∈ ds, d.isDigit = true) (hn : ds ≠ []) :
  dropPlus cs = ds ↔ cs = ds ∨ cs = '+' :: ds
  := by
  obtain ⟨d, ds, rfl⟩ := List.exists_cons_of_ne_nil hn
  have plus : d ≠ '+' := by
    rintro rfl
    cases hd '+' List.mem_cons_self
  constructor
  · intro h
    rw [dropPlus.eq_def] at h
    split at h
    · exact .inr (congrArg _ h)
    · exact .inl h
  · rintro (rfl | rfl)
    · simp [dropPlus, plus]
    · rfl

/-- A text that denotes a number starts with a plus sign or a digit. -/
theorem Spells.head (h : Spells cs n) :
  ∃ c rest, cs = c :: rest ∧ (c = '+' ∨ c.isDigit = true)
  := by
  obtain ⟨ds, rfl | rfl, hn, hd, -⟩ := h
  · obtain ⟨d, ds, rfl⟩ := List.exists_cons_of_ne_nil hn
    exact ⟨d, ds, rfl, .inr (hd d List.mem_cons_self)⟩
  · exact ⟨'+', ds, rfl, .inl rfl⟩

/-- The digits of a number denote it, with any zeros in front of them. -/
theorem spells_digits (i n : Nat) :
  Spells (List.replicate i '0' ++ digits n) n ∧ Spells ('+' :: (List.replicate i '0' ++ digits n)) n
  := by
  have some_digits : List.replicate i '0' ++ digits n ≠ [] := by
    rw [ne_eq, List.append_eq_nil_iff, not_and]
    intro _
    apply Nat.toDigits_ne_nil
  have digit : ∀ d ∈ List.replicate i '0' ++ digits n, d.isDigit = true := by
    intro d hd
    rcases List.mem_append.mp hd with hd | hd
    · rw [List.eq_of_mem_replicate hd]
      rfl
    · apply isDigit_of_mem_digits hd
  have number : value (List.replicate i '0' ++ digits n) = n := by
    rw [value_zeros_append, value_digits]
  exact ⟨⟨_, .inl rfl, some_digits, digit, number⟩, ⟨_, .inr rfl, some_digits, digit, number⟩⟩

/-- The number that is read is the one that the text denotes, if it is below the bound. -/
theorem readBelow?_eq_some_iff :
  readBelow? bound cs = some n ↔ Spells cs n ∧ n < bound
  := by
  simp only [readBelow?, Option.ite_none_right_eq_some, Option.some.injEq, List.all_eq_true]
  constructor
  · rintro ⟨⟨hn, hd, hv⟩, rfl⟩
    exact ⟨⟨_, (dropPlus_eq_iff hd hn).mp rfl, hn, hd, rfl⟩, hv⟩
  · rintro ⟨⟨ds, hc, hn, hd, rfl⟩, hv⟩
    rw [(dropPlus_eq_iff hd hn).mpr hc]
    exact ⟨⟨hn, hd, hv⟩, rfl⟩

theorem readUInt64?_eq_some_iff {n : UInt64} :
  readUInt64? cs = some n ↔ Spells cs n.toNat
  := by
  simp only [readUInt64?, Option.map_eq_some_iff, readBelow?_eq_some_iff]
  constructor
  · rintro ⟨v, ⟨h, hv⟩, rfl⟩
    rwa [UInt64.toNat_ofNat_of_lt' hv]
  · intro h
    exact ⟨n.toNat, ⟨h, n.toNat_lt_size⟩, UInt64.ofNat_toNat⟩

theorem readUInt32?_eq_some_iff {n : UInt32} :
  readUInt32? cs = some n ↔ Spells cs n.toNat
  := by
  simp only [readUInt32?, Option.map_eq_some_iff, readBelow?_eq_some_iff]
  constructor
  · rintro ⟨v, ⟨h, hv⟩, rfl⟩
    rwa [UInt32.toNat_ofNat_of_lt' hv]
  · intro h
    exact ⟨n.toNat, ⟨h, n.toNat_lt_size⟩, UInt32.ofNat_toNat⟩

theorem readUInt64?_eq_none_iff :
  readUInt64? cs = none ↔ ¬ ∃ n : UInt64, Spells cs n.toNat
  := by
  simp only [Option.eq_none_iff_forall_ne_some, ne_eq, readUInt64?_eq_some_iff, not_exists]

theorem readUInt32?_eq_none_iff :
  readUInt32? cs = none ↔ ¬ ∃ n : UInt32, Spells cs n.toNat
  := by
  simp only [Option.eq_none_iff_forall_ne_some, ne_eq, readUInt32?_eq_some_iff, not_exists]

end SyncLayer.Decimal
