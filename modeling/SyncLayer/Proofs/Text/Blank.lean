import SyncLayer.Text.Blank
import Mathlib.Data.List.DropRight
import Mathlib.Data.List.TakeWhile

/-!
# Blanks around a text

The blanks at the two ends of a text are what can be taken away from there. What is left neither
begins nor ends with a blank, and there is only one such text.
-/

namespace SyncLayer.Text

/-- A text with blanks around another one, which itself neither begins nor ends with a blank. -/
structure Padded (s cs : List Char) : Prop where
  around : ∃ before after, s = before ++ cs ++ after ∧ (∀ c ∈ before, isBlank c = true)
    ∧ ∀ c ∈ after, isBlank c = true
  first : ∀ h : cs ≠ [], isBlank (cs.head h) = false
  last : ∀ h : cs ≠ [], isBlank (cs.getLast h) = false

variable {c : Char} {s cs : List Char}

theorem isBlank_of_isDigit (h : c.isDigit = true) :
  isBlank c = false
  := by
  have bounds : 48 ≤ c.toNat ∧ c.toNat ≤ 57 := by
    simpa [Char.isDigit, UInt32.le_iff_toNat_le] using h
  simp only [isBlank, blankRanges, Ranges.covers]
  grind

theorem trimRight_eq (s : List Char) :
  trimRight s = s.rdropWhile isBlank
  := by
  induction s with
  | nil => rfl
  | cons c s ih =>
      have front : (c :: s).rdropWhile isBlank
          = (if (s.rdropWhile isBlank).isEmpty then [c].rdropWhile isBlank
            else c :: s.rdropWhile isBlank) := by
        simp only [List.rdropWhile, List.reverse_cons, List.dropWhile_append,
          List.isEmpty_reverse]
        split <;> simp
      rw [front, trimRight, ih]
      cases s.rdropWhile isBlank with
      | nil => exact (List.rdropWhile_singleton isBlank c).symm
      | cons d kept => rfl

/-- What neither begins nor ends with a blank is left of the text with blanks around it. -/
theorem Padded.trim_eq (h : Padded s cs) :
  trim s = cs
  := by
  obtain ⟨⟨before, after, rfl, hb, ha⟩, first, last⟩ := h
  rw [trim, trimRight_eq, List.append_assoc, List.dropWhile_append_of_pos hb]
  cases cs with
  | nil => rw [List.nil_append, List.dropWhile_eq_nil_iff.mpr ha, List.rdropWhile_nil]
  | cons c cs =>
      have nonblank : ¬ isBlank c = true := by simpa using first (List.cons_ne_nil c cs)
      have back : (c :: cs).rdropWhile isBlank = c :: cs := by
        apply List.rdropWhile_eq_self_iff.mpr
        simpa using last
      rw [List.cons_append, List.dropWhile_cons_of_neg nonblank, ← List.cons_append,
        List.rdropWhile, List.reverse_append, List.dropWhile_append_of_pos (by simpa using ha)]
      exact back

/-- Only blanks are taken away. -/
theorem padded_trim (s : List Char) :
  Padded s (trim s)
  := by
  rw [trim, trimRight_eq]
  constructor
  · refine ⟨s.takeWhile isBlank, (s.dropWhile isBlank).rtakeWhile isBlank, ?_, ?_, ?_⟩
    · rw [List.append_assoc, List.rdropWhile_append_rtakeWhile, List.takeWhile_append_dropWhile]
    · intro c hc
      apply List.mem_takeWhile_imp hc
    · intro c hc
      apply List.mem_rtakeWhile_imp hc
  · intro h
    rw [(List.rdropWhile_prefix isBlank _).head h]
    apply List.head_dropWhile_not
  · intro h
    simpa using List.rdropWhile_last_not isBlank _ h

/-- A text without any blank is left when there are blanks around it. -/
theorem Padded.of_forall {before after : List Char} (hb : ∀ c ∈ before, isBlank c = true)
    (ha : ∀ c ∈ after, isBlank c = true) (h : ∀ c ∈ cs, isBlank c = false) :
  Padded (before ++ cs ++ after) cs
  := ⟨⟨before, after, rfl, hb, ha⟩, fun hn => h _ (List.head_mem hn),
    fun hn => h _ (List.getLast_mem hn)⟩

/-- What is left of a text is what there are only blanks around. -/
theorem trim_eq_iff :
  trim s = cs ↔ Padded s cs
  := by
  constructor
  · rintro rfl
    apply padded_trim
  · apply Padded.trim_eq

end SyncLayer.Text
