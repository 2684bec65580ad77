import SyncLayer.Binary64.Layout
import SyncLayer.Proofs.Toml.Lexeme
import SyncLayer.Text.Lines
import SyncLayer.Text.Pieces

/-!
# Texts on one line

Texts without control characters, of which the text of a number is one; and the lines that a text
is cut into, if it was put together from such lines.
-/

namespace SyncLayer

namespace Text

variable {c : Char} {s : List Char}

/-- No character of a text is a control character, so that the text is on one line. -/
def IsPlain (s : List Char) : Prop :=
  ∀ c ∈ s, ' ' ≤ c

instance (s : List Char) : Decidable (IsPlain s) :=
  List.decidableBAll _ s

theorem IsPlain.append {t : List Char} (hs : IsPlain s) (ht : IsPlain t) :
  IsPlain (s ++ t)
  := by
  intro c hc
  rw [List.mem_append] at hc
  exact hc.elim (hs c) (ht c)

theorem IsPlain.cons (hc : ' ' ≤ c) (hs : IsPlain s) :
  IsPlain (c :: s)
  := by
  intro d hd
  obtain rfl | hd := List.mem_cons.mp hd
  · exact hc
  · exact hs d hd

theorem IsPlain.of_subset {t : List Char} (hs : IsPlain s) (h : t ⊆ s) :
  IsPlain t
  := by
  intro c hc
  exact hs c (h hc)

theorem isPlain_nil :
  IsPlain []
  := by
  rintro _ ⟨⟩

theorem isPlain_of_isDigit (h : ∀ c ∈ s, c.isDigit = true) :
  IsPlain s
  := by
  intro c hc
  have digit := h c hc
  rw [Char.isDigit, Bool.and_eq_true, decide_eq_true_iff] at digit
  exact UInt32.le_trans (show (' ' : Char).val ≤ 48 by decide) digit.1

theorem isPlain_digits (n : Nat) :
  IsPlain (Decimal.digits n)
  := isPlain_of_isDigit (fun _ => Decimal.isDigit_of_mem_digits)

theorem isPlain_zeros (i : Nat) :
  IsPlain (List.replicate i '0')
  := isPlain_of_isDigit (fun c hc => by rw [List.eq_of_mem_replicate hc]; rfl)

theorem isPlain_placePoint (p : Int) (hs : IsPlain s) :
  IsPlain (Binary64.placePoint s p)
  := by
  have zero : IsPlain ['0', '.'] := by decide
  rw [Binary64.placePoint]
  split_ifs
  · exact (zero.append (isPlain_zeros _)).append hs
  · exact (hs.append (isPlain_zeros _)).append (by decide)
  · exact (hs.of_subset (List.take_subset _ _)).append
      (.cons (by decide) (hs.of_subset (List.drop_subset _ _)))

theorem isPlain_placeExponent (p : Int) (hs : IsPlain s) :
  IsPlain (Binary64.placeExponent s p)
  := by
  have sign : ' ' ≤ (if p - 1 < 0 then '-' else '+') := by
    split <;> decide
  have exponent :=
    IsPlain.cons (show ' ' ≤ 'e' by decide) (.cons sign (isPlain_digits (p - 1).natAbs))
  match s with
  | [] => exact exponent
  | [d] => exact hs.append exponent
  | d :: e :: rest =>
      have point : IsPlain (d :: '.' :: e :: rest) :=
        .cons (hs d List.mem_cons_self)
          (.cons (by decide) (hs.of_subset (List.subset_cons_self d (e :: rest))))
      exact point.append exponent

theorem IsPlain.signed (negative : Bool) (hs : IsPlain s) :
  IsPlain (Binary64.signed negative s)
  := by
  cases negative with
  | false => exact hs
  | true => exact .cons (by decide) hs

/-- The text of a number with its shortest digits. -/
theorem isPlain_layout (layout : Binary64.Layout) (x : Binary64) :
  IsPlain (layout.text x)
  := by
  cases x with
  | finite negative m e =>
      apply IsPlain.signed
      split_ifs
      · decide
      · simp only [Binary64.Layout.render]
        split
        · exact isPlain_placePoint _ (isPlain_digits _)
        · exact isPlain_placeExponent _ (isPlain_digits _)
  | infinite negative => exact .signed negative (show IsPlain "inf".toList by decide)
  | nan => exact (show IsPlain "NaN".toList by decide)

/-- The text of a number with a fixed number of places. -/
theorem isPlain_fixed (places : Nat) (x : Binary64) :
  IsPlain (x.fixed places)
  := by
  cases x with
  | finite negative m e =>
      apply IsPlain.signed
      have padded {i n : Nat} : IsPlain (List.replicate i '0' ++ Decimal.digits n) :=
        (isPlain_zeros i).append (isPlain_digits n)
      exact (padded.of_subset (List.take_subset _ _)).append
        (.cons (by decide) (padded.of_subset (List.drop_subset _ _)))
  | infinite negative => exact .signed negative (show IsPlain "inf".toList by decide)
  | nan => exact (show IsPlain "NaN".toList by decide)

theorem IsPlain.not_mem_newline (hs : IsPlain s) :
  '\n' ∉ s
  := by
  intro h
  exact absurd (hs _ h) (by decide)

/-! ### Lines -/

/-- A text in which there is no separator is the only piece of it. -/
theorem pieces_of_not_mem (h : c ∉ s) :
  pieces c s = [s]
  := by
  induction s with
  | nil => rfl
  | cons d s ih =>
      rw [List.mem_cons, not_or] at h
      rw [pieces, if_neg (Ne.symm h.1), ih h.2]

/-- What stands in front of the first separator is the first piece. -/
theorem pieces_append_cons {t : List Char} (h : c ∉ s) :
  pieces c (s ++ c :: t) = s :: pieces c t
  := by
  induction s with
  | nil => rw [List.nil_append, pieces, if_pos rfl]
  | cons d s ih =>
      rw [List.mem_cons, not_or] at h
      rw [List.cons_append, pieces, if_neg (Ne.symm h.1), ih h.2]

/-- Lines that were joined are the lines of the text, if there is at least one. -/
theorem pieces_joinLines {lines : List String} (hn : lines ≠ [])
    (h : ∀ line ∈ lines, '\n' ∉ line.toList) :
  pieces '\n' (joinLines lines).toList = lines.map String.toList
  := by
  induction lines with
  | nil => cases hn rfl
  | cons line lines ih =>
      have first := h line List.mem_cons_self
      cases lines with
      | nil => exact pieces_of_not_mem first
      | cons next lines =>
          have others := ih (List.cons_ne_nil _ _) (fun l hl => h l (List.mem_cons_of_mem line hl))
          rw [joinLines, String.toList_append, String.toList_append, List.append_assoc,
            List.map_cons, ← others]
          · exact pieces_append_cons first
          · exact List.cons_ne_nil _ _

end Text

end SyncLayer
