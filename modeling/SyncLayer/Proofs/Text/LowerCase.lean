import SyncLayer.Text.LowerCase
import Mathlib.Data.List.Forall2
import Mathlib.Tactic.SplitIfs

/-!
# Words up to case

The lower-case form of a text is a word of small ASCII letters just if the text has the same
letters, each of them small or capital. No other character has such a letter for its lower-case
form, but for the Kelvin sign, whose form is a small k. So the words here have no k.
-/

namespace SyncLayer.Text

/-- A small ASCII letter other than the k. -/
def IsSmallLetter (w : Char) : Prop :=
  'a' ≤ w ∧ w ≤ 'z' ∧ w ≠ 'k'

/-- A word of such letters. -/
def IsSmallWord (word : List Char) : Prop :=
  ∀ w ∈ word, IsSmallLetter w

instance (w : Char) : Decidable (IsSmallLetter w) :=
  inferInstanceAs (Decidable (_ ∧ _))

instance (word : List Char) : Decidable (IsSmallWord word) :=
  List.decidableBAll _ word

/-- A letter or its capital. -/
def IsCaseOf (w c : Char) : Prop :=
  c = w ∨ c = w.toUpper

/-- A text is a word with some of its letters in capitals. -/
def IsVariant (word s : String) : Prop :=
  List.Forall₂ IsCaseOf word.toList s.toList

variable {c w : Char} {s word : List Char}

/-! ### Letters -/

theorem IsSmallLetter.bounds (h : IsSmallLetter w) :
  97 ≤ w.toNat ∧ w.toNat < 123 ∧ w.toNat ≠ 107
  := by
  obtain ⟨low, high, kelvin⟩ := h
  refine ⟨low, Nat.lt_succ_of_le high, ?_⟩
  intro hk
  apply kelvin (Char.toNat_inj.mp hk)

/-- A letter has its small letter for its lower-case form. -/
theorem lowerChar_ofNat :
  ∀ n < 123, 97 ≤ n → lowerChar (.ofNat n) = [.ofNat n]
    ∧ lowerChar (Char.ofNat n).toUpper = [.ofNat n]
    ∧ (Char.ofNat n).toUpper.toNat + 32 = n
  := by
  decide +kernel

/-- Other capitals than those of ASCII have small letters outside of it, but for the Kelvin sign. -/
theorem cases_of_mem_capitalRuns :
  ∀ run ∈ capitalRuns, (run.first = 0x41 ∧ run.last = 0x5a ∧ run.offset = 32)
    ∨ 128 ≤ run.first + run.offset
    ∨ (run.first = 0x212a ∧ run.last = 0x212a ∧ run.offset = -8383)
  := by
  decide +kernel

/-- The lower-case form of a small letter and of its capital. -/
theorem IsSmallLetter.lowerChar_eq (h : IsSmallLetter w) (hc : IsCaseOf w c) :
  lowerChar c = [w]
  := by
  obtain ⟨low, high, _⟩ := h.bounds
  obtain ⟨small, capital, _⟩ := lowerChar_ofNat w.toNat high low
  rw [Char.ofNat_toNat] at small capital
  rcases hc with rfl | rfl
  · exact small
  · exact capital

/-- Only a letter itself and its capital have the letter for their lower-case form. -/
theorem IsSmallLetter.isCaseOf (hw : IsSmallLetter w) (h : lowerChar c = [w]) :
  IsCaseOf w c
  := by
  obtain ⟨low, high, kelvin⟩ := hw.bounds
  have capital := (lowerChar_ofNat w.toNat high low).2.2
  rw [Char.ofNat_toNat] at capital
  rw [lowerChar] at h
  split_ifs at h with hi
  -- the dotted capital I has a mark behind the small letter
  · cases h
  · cases hr : capitalRuns.find? (·.covers c.toNat) with
    | none =>
        rw [hr] at h
        cases h
        left
        rfl
    | some run =>
        rw [hr] at h
        have image : (c.toNat + run.offset).toNat = w.toNat := by
          have code := List.singleton_inj.mp h
          by_cases valid : (c.toNat + run.offset).toNat.isValidChar
          · rw [← code, Char.ofNat, dif_pos valid]
            rfl
          · rw [← code, Char.ofNat, dif_neg valid] at low
            exact absurd low (by decide)
        have covers := List.find?_some hr
        simp only [CapitalRun.covers, Bool.and_eq_true, decide_eq_true_eq] at covers
        rcases cases_of_mem_capitalRuns run (List.mem_of_find?_eq_some hr) with
          ⟨_, _, offset⟩ | foreign | ⟨first, last, offset⟩
        · right
          apply Char.toNat_inj.mp
          omega
        -- the form lies behind the letters, or is the k, which no word has
        · omega
        · omega

/-- A letter and its capital are ASCII letters. -/
theorem IsSmallLetter.isAlpha (h : IsSmallLetter w) (hc : IsCaseOf w c) :
  c.isAlpha = true
  := by
  have letters : ∀ n < 123, 97 ≤ n →
      (Char.ofNat n).isAlpha = true ∧ (Char.ofNat n).toUpper.isAlpha = true := by
    decide
  obtain ⟨low, high, _⟩ := h.bounds
  obtain ⟨small, capital⟩ := letters w.toNat high low
  rw [Char.ofNat_toNat] at small capital
  rcases hc with rfl | rfl
  · exact small
  · exact capital

/-- The lower-case form of a character is one character, if there are only letters in it. -/
theorem exists_lowerChar (h : IsSmallWord (lowerChar c)) :
  ∃ w, lowerChar c = [w]
  := by
  rw [lowerChar] at h ⊢
  split_ifs at h ⊢ with hi
  · exact absurd (h '\u0307' (by simp)) (by decide)
  · split
    · exact ⟨_, rfl⟩
    · exact ⟨_, rfl⟩

/-! ### Words -/

/-- A text has a word for its lower-case form just if it has the letters of the word, small or
capital. -/
theorem lower_eq_iff (hw : IsSmallWord word) :
  lower s = word ↔ List.Forall₂ IsCaseOf word s
  := by
  constructor
  · rintro rfl
    induction s with
    | nil => exact .nil
    | cons c s ih =>
        rw [lower, List.flatMap_cons] at hw ⊢
        obtain ⟨first, others⟩ := List.forall_mem_append.mp hw
        obtain ⟨w, hc⟩ := exists_lowerChar first
        rw [hc] at first ⊢
        exact .cons ((first w List.mem_cons_self).isCaseOf hc) (ih others)
  · intro h
    induction h with
    | nil => rfl
    | cons hc _ ih =>
        obtain ⟨first, others⟩ := List.forall_mem_cons.mp hw
        rw [lower, List.flatMap_cons, first.lowerChar_eq hc, List.singleton_append]
        exact congrArg _ (ih others)

/-- The letters of a word, small or capital, are ASCII letters. -/
theorem isAlpha_of_forall₂ (hw : IsSmallWord word) (h : List.Forall₂ IsCaseOf word s) :
  ∀ c ∈ s, c.isAlpha = true
  := by
  induction h with
  | nil => nofun
  | cons hc _ ih =>
      obtain ⟨first, others⟩ := List.forall_mem_cons.mp hw
      rw [List.forall_mem_cons]
      exact ⟨first.isAlpha hc, ih others⟩

/-- A text reads as a word just if it is a variant of it. -/
theorem readsAs_iff {word s : String} (hw : IsSmallWord word.toList) :
  readsAs word s = true ↔ IsVariant word s
  := by
  rw [readsAs, beq_iff_eq, lower_eq_iff hw, IsVariant]

end SyncLayer.Text
