/-!
# Pieces

The pieces of a text between separators. There is one more of them than there are separators,
and with separators put back between them they are the text again.
-/

namespace SyncLayer.Text

/-- The pieces of a text between the characters that equal a separator. -/
def pieces (separator : Char) : List Char → List (List Char)
  | [] => [[]]
  | c :: rest =>
    if c = separator then [] :: pieces separator rest
    else
      match pieces separator rest with
      | [] => [[c]]
      | piece :: others => (c :: piece) :: others

/-- A text has at least one piece. -/
theorem pieces_ne_nil (separator : Char) (s : List Char) : pieces separator s ≠ [] := by
  cases s with
  | nil => simp [pieces]
  | cons c rest =>
    rw [pieces]
    split
    · simp
    · split <;> simp

/-- The pieces with the separator between them are the text. -/
theorem intercalate_pieces (separator : Char) (s : List Char) :
  [separator].intercalate (pieces separator s) = s
  := by
  induction s with
  | nil => simp [pieces]
  | cons c rest ih =>
    rw [pieces]
    cases hp : pieces separator rest with
    | nil => exact absurd hp (pieces_ne_nil separator rest)
    | cons piece others =>
      rw [hp] at ih
      split
      · next h => rw [List.intercalate_cons_cons, ih, h]; rfl
      · cases others <;> simp_all [List.intercalate_cons_cons]

end SyncLayer.Text
