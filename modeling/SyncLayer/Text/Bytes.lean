/-!
# Texts by bytes

A text is also counted and cut by the bytes that its characters take in UTF-8. A place in the
bytes that lies inside a character is none where the text can be cut.
-/

namespace SyncLayer.Text

/-- The number of bytes that characters take. -/
def byteSize : List Char → Nat
  | [] => 0
  | c :: rest => c.utf8Size + byteSize rest

/-- The text without its first bytes, if a character ends with them. -/
def dropBytes? : Nat → List Char → Option (List Char)
  | 0, s => some s
  | _ + 1, [] => none
  | n + 1, c :: rest => if c.utf8Size ≤ n + 1 then dropBytes? (n + 1 - c.utf8Size) rest else none

/-- The first bytes of a text, if a character ends with them. -/
def takeBytes? : Nat → List Char → Option (List Char)
  | 0, _ => some []
  | _ + 1, [] => none
  | n + 1, c :: rest =>
    if c.utf8Size ≤ n + 1 then (takeBytes? (n + 1 - c.utf8Size) rest).map (c :: ·) else none

/-- The part of a text from one byte up to another, if the text can be cut there. -/
def cut? (start stop : Nat) (s : List Char) : Option (List Char) :=
  (dropBytes? start s).bind (takeBytes? (stop - start))

/-- The bytes of a text behind those of its front are dropped with them. -/
theorem dropBytes?_append (s t : List Char) : dropBytes? (byteSize s) (s ++ t) = some t := by
  induction s with
  | nil => cases t <;> rfl
  | cons c rest ih =>
    have h := c.utf8Size_pos
    obtain ⟨n, hn⟩ : ∃ n, byteSize (c :: rest) = n + 1 := ⟨byteSize (c :: rest) - 1, by
      simp only [byteSize]; omega⟩
    have hr : n + 1 - c.utf8Size = byteSize rest := by simp only [byteSize] at hn; omega
    have hc : c.utf8Size ≤ n + 1 := by simp only [byteSize] at hn; omega
    rw [hn, List.cons_append, dropBytes?, if_pos hc, hr, ih]

end SyncLayer.Text
