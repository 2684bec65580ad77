import SyncLayer.Proofs.Json.Numeral
import SyncLayer.Proofs.Text.Plain
import SyncLayer.Proofs.Text.Quoted
import SyncLayer.Proofs.Toml.Entry

/-!
# Json values are read back

The compact text of a value is read as the value, if its real numbers are finite ones. The text is
on one line, whatever texts the value holds.
-/

namespace SyncLayer

namespace Toml

/-- What is written piece after piece is read piece after piece. What stands behind a piece is of a
kind that the reader may rely on. -/
theorem many_flatMap {α : Type} {read : List Char → Option (α × List Char)} {write : α → List Char}
    {Q : List Char → Prop} {l : List α} {rest : List Char}
    (h : ∀ a ∈ l, ∀ s, Q s → read (write a ++ s) = some (a, s)) (hw : ∀ a, write a ≠ [])
    (hQ : ∀ a s, Q (write a ++ s)) (hq : Q rest) (hr : read rest = none) :
  many read (l.flatMap write ++ rest) = (l, rest)
  := by
  induction l with
  | nil => exact many_of_eq_none hr
  | cons a l ih =>
      have behind : Q (l.flatMap write ++ rest) := by
        cases l with
        | nil => exact hq
        | cons b l =>
            rw [List.flatMap_cons, List.append_assoc]
            exact hQ b _
      have shorter : (l.flatMap write ++ rest).length
          < (write a ++ (l.flatMap write ++ rest)).length := by
        have := List.length_pos_iff.mpr (hw a)
        have longer : (write a ++ (l.flatMap write ++ rest)).length
            = (write a).length + (l.flatMap write ++ rest).length := List.length_append
        omega
      rw [List.flatMap_cons, List.append_assoc,
        many_of_eq_some (h a List.mem_cons_self _ behind) shorter,
        ih (fun b hb => h b (List.mem_cons_of_mem a hb))]

end Toml

namespace Json

variable {c : Char} {s rest : List Char}

/-! ### Texts -/

/-- The code of a character with a small one. -/
theorem codeEscape_eq (hc : c.toNat < 256) :
  codeEscape c = ['\\', 'u', '0', '0', (c.toNat / 16).digitChar, (c.toNat % 16).digitChar]
  := by
  rw [codeEscape]
  by_cases hs : c.toNat < 16
  · have high : c.toNat / 16 = 0 := by omega
    rw [Nat.toDigits_of_lt_base hs, high, Nat.mod_eq_of_lt hs]
    rfl
  · rw [Nat.toDigits_of_base_le (by decide) (not_lt.mp hs),
      Nat.toDigits_of_lt_base (show c.toNat / 16 < 16 by omega)]
    rfl

/-- A control character is read from its code. -/
theorem character?_codeEscape (hc : c < ' ') (rest : List Char) :
  character? (codeEscape c ++ rest) = some (c, rest)
  := by
  have small : c.toNat < 32 := hc
  have high := Text.hexValue?_digitChar (c.toNat / 16) (by omega)
  have low := Text.hexValue?_digitChar (c.toNat % 16) (by omega)
  have zero : Text.hexValue? '0' = some 0 := rfl
  have code : 16 * (16 * (16 * 0 + 0) + c.toNat / 16) + c.toNat % 16 = c.toNat := by omega
  have unit : codeUnit? ('0' :: '0' :: (c.toNat / 16).digitChar :: (c.toNat % 16).digitChar :: rest)
      = some (c.toNat, rest) := by
    simp only [codeUnit?, zero, high, low, Option.bind_eq_bind, Option.bind_some, code]
  have half : ¬ (0xd800 ≤ c.toNat ∧ c.toNat < 0xdc00) := by omega
  have point :
      codePoint? ('0' :: '0' :: (c.toNat / 16).digitChar :: (c.toNat % 16).digitChar :: rest)
        = some (c, rest) := by
    simp only [codePoint?, unit, Option.bind_eq_bind, Option.bind_some, if_neg half,
      Text.charOfCode?_toNat]
  rw [codeEscape_eq (by omega)]
  exact point

/-- A character is read from what it is written as. -/
theorem character?_escapeChar (c : Char) (rest : List Char) :
  character? (escapeChar c ++ rest) = some (c, rest)
  := by
  rw [escapeChar]
  split_ifs with h1 h2 h3 h4 h5 h6 h7 h8
  · subst h1; rfl
  · subst h2; rfl
  · subst h3; rfl
  · subst h4; rfl
  · subst h5; rfl
  · subst h6; rfl
  · subst h7; rfl
  · exact character?_codeEscape h8 rest
  · rw [List.singleton_append, character?, if_neg h8]
    · exact h1
    · exact h2

theorem escapeChar_ne_nil (c : Char) :
  escapeChar c ≠ []
  := by
  intro h
  have read := character?_escapeChar c []
  rw [h] at read
  cases read

/-- A text is read from its characters, whatever they are. -/
theorem text?_textChars (s : String) (rest : List Char) :
  text? (textChars s.toList ++ rest) = some (s, rest)
  := by
  have read : Toml.many character? (s.toList.flatMap escapeChar ++ '"' :: rest)
      = (s.toList, '"' :: rest) :=
    Toml.many_flatMap (Q := fun _ => True) (fun c _ s _ => character?_escapeChar c s)
      escapeChar_ne_nil (fun _ _ => trivial) trivial rfl
  have opened : Toml.expect '"' (textChars s.toList ++ rest)
      = some (s.toList.flatMap escapeChar ++ '"' :: rest) := by
    simp [textChars, Toml.expect]
  rw [text?, opened]
  simp [read, Toml.expect]

/-! ### Values -/

/-- A character that neither is white space nor ends a value. -/
def Opens (s : List Char) : Prop :=
  ∃ c t, s = c :: t ∧ isBlank c = false ∧ c ≠ ',' ∧ c ≠ ']' ∧ c ≠ '\x7d'

theorem Opens.skipBlanks (h : Opens s) :
  skipBlanks s = s
  := by
  obtain ⟨c, t, rfl, hc, _⟩ := h
  simp [Json.skipBlanks, hc]

theorem Opens.append (h : Opens s) (t : List Char) :
  Opens (s ++ t)
  := by
  obtain ⟨c, u, rfl, hc⟩ := h
  exact ⟨c, u ++ t, rfl, hc⟩

theorem opens_textChars (s : List Char) :
  Opens (textChars s)
  := ⟨'"', _, rfl, by decide⟩

theorem opens_of_isDigit (hc : c.isDigit = true) :
  Opens (c :: s)
  := by
  have other {d : Char} (hd : d.isDigit = false) : c ≠ d := Toml.ne_of_kind hc hd
  refine ⟨c, s, rfl, ?_, other rfl, other rfl, other rfl⟩
  simp only [isBlank, Bool.or_eq_false_iff, beq_eq_false_iff_ne]
  exact ⟨⟨⟨other rfl, other rfl⟩, other rfl⟩, other rfl⟩

/-- The parts of an array or an object with commas between them. -/
def partsChars {α : Type} (write : α → List Char) : List α → List Char
  | [] => []
  | a :: l => write a ++ l.flatMap (fun b => ',' :: write b)

theorem itemsChars_eq (items : List Json) :
  itemsChars items = partsChars chars items
  := by
  induction items with
  | nil => rfl
  | cons v items ih =>
      cases items with
      | nil => simp [itemsChars, partsChars]
      | cons w items =>
          rw [itemsChars, ih]
          · rfl
          · exact List.cons_ne_nil w items

theorem membersChars_eq (members : List (String × Json)) :
  membersChars members = partsChars (fun m => textChars m.1.toList ++ ':' :: m.2.chars) members
  := by
  induction members with
  | nil => rfl
  | cons m members ih =>
      cases members with
      | nil => simp [membersChars, partsChars]
      | cons m' members =>
          rw [membersChars, ih]
          · simp [partsChars]
          · exact List.cons_ne_nil m' members

section Parts

variable {α : Type} {read : List Char → Option (α × List Char)} {write : α → List Char}
  {l : List α} {close : Char}

/-- Parts are read up to the closing bracket. -/
theorem parts?_partsChars (rest : List Char) (hc : close = ']' ∨ close = '\x7d')
    (h : ∀ a ∈ l, ∀ s, Ends s → read (write a ++ s) = some (a, s))
    (ho : ∀ a ∈ l, Opens (write a)) :
  parts? read close (partsChars write l ++ close :: rest) = some (l, rest)
  := by
  have closing : skipBlanks (close :: rest) = close :: rest := by
    obtain rfl | rfl := hc <;> rfl
  have closed : Toml.expect close (close :: rest) = some rest := by
    simp [Toml.expect]
  cases l with
  | nil => simp [parts?, partsChars, closing, closed]
  | cons a l =>
      obtain ⟨c, t, hw, _, _, hb, hb'⟩ := ho a List.mem_cons_self
      have front : Toml.expect close (write a ++ (l.flatMap (fun b => ',' :: write b)
          ++ close :: rest)) = none := by
        rw [hw]
        obtain rfl | rfl := hc
        · simp [Toml.expect, hb.symm]
        · simp [Toml.expect, hb'.symm]
      have ends : ∀ b s, Ends (',' :: write b ++ s) := by
        rintro b s _ ⟨⟩
        exact .inl rfl
      have last : Ends (close :: rest) := by
        rintro _ ⟨⟩
        exact .inr hc
      have next : ∀ b ∈ l, ∀ s, Ends s → next? read (',' :: write b ++ s) = some (b, s) := by
        intro b hb s hs
        have hb := List.mem_cons_of_mem a hb
        have comma : Toml.expect ',' (skipBlanks (',' :: write b ++ s)) = some (write b ++ s) := by
          simp [Json.skipBlanks, isBlank, Toml.expect]
        rw [next?, comma, Option.bind_some, ((ho b hb).append s).skipBlanks, h b hb s hs]
      have none : next? read (close :: rest) = none := by
        rw [next?, closing]
        obtain rfl | rfl := hc <;> rfl
      have others := Toml.many_flatMap next (fun b => List.cons_ne_nil ',' (write b)) ends last none
      have behind : Ends (l.flatMap (fun b => ',' :: write b) ++ close :: rest) := by
        cases l with
        | nil => exact last
        | cons b l =>
            rintro _ ⟨⟩
            exact .inl rfl
      rw [parts?, partsChars, List.append_assoc,
        ((ho a List.mem_cons_self).append _).skipBlanks, front]
      simp [h a List.mem_cons_self _ behind, others, closing, closed]

theorem length_le_partsChars (write : α → List Char) {a : α} (h : a ∈ l) :
  (write a).length ≤ (partsChars write l).length
  := by
  cases l with
  | nil => cases h
  | cons b l =>
      rw [partsChars, List.length_append]
      obtain rfl | h := List.mem_cons.mp h
      · omega
      · obtain ⟨l₁, l₂, rfl⟩ := List.append_of_mem h
        rw [List.flatMap_append, List.flatMap_cons, List.length_append, List.length_append,
          List.length_cons]
        omega

end Parts

/-- The real numbers in a value are finite ones. -/
inductive IsReadable : Json → Prop
  | null : IsReadable .null
  | boolean (b : Bool) : IsReadable (.boolean b)
  | natural (n : Nat) : IsReadable (.natural n)
  | real {m : Nat} {e : Int} (negative : Bool) (h : Binary64.IsCanonical m e) :
      IsReadable (.real (.finite negative m e))
  | text (s : String) : IsReadable (.text s)
  | array {items : List Json} (h : ∀ v ∈ items, IsReadable v) : IsReadable (.array items)
  | object {members : List (String × Json)} (h : ∀ m ∈ members, IsReadable m.2) :
      IsReadable (.object members)

variable {r : Json × List Char} {v : Json}

/-- What is read as a number begins with a minus sign or a digit. -/
theorem exists_of_number? (h : number? s = some r) :
  ∃ c t, s = c :: t ∧ (c = '-' ∨ c.isDigit = true)
  := by
  rw [number?.eq_def] at h
  split at h
  · exact ⟨_, _, rfl, .inl rfl⟩
  · obtain ⟨c, t, rfl, hc⟩ := exists_digit_of_unsigned? h
    exact ⟨c, t, rfl, .inr hc⟩

theorem opens_of_number? (h : number? s = some r) :
  Opens s
  := by
  obtain ⟨c, t, rfl, rfl | hc⟩ := exists_of_number? h
  · exact ⟨'-', t, rfl, by decide⟩
  · exact opens_of_isDigit hc

theorem scalar?_of_number? (h : number? s = some r) :
  scalar? s = some r
  := by
  obtain ⟨c, t, rfl, rfl | hc⟩ := exists_of_number? h
  · exact h
  · have other {d : Char} (hd : d.isDigit = false) : c ≠ d := Toml.ne_of_kind hc hd
    rw [scalar?, h]
    all_goals
      rintro _ ⟨⟩
      exact absurd hc (by decide)

theorem number?_cons_ne_some (hm : c ≠ '-') (hd : c.isDigit = false) :
  number? (c :: s) ≠ some r
  := by
  intro h
  obtain ⟨_, _, ⟨⟩, rfl | hc⟩ := exists_of_number? h
  · exact hm rfl
  · rw [hd] at hc
    cases hc

/-- A value that is neither an array nor an object is read at any depth. -/
theorem value?_of_scalar? (depth : Nat) (h : scalar? s = some r) :
  value? depth s = some r
  := by
  cases depth with
  | zero => exact h
  | succ depth =>
      simp only [value?]
      split
      · exact absurd (show number? ('[' :: _) = some r from h)
          (number?_cons_ne_some (by decide) (by decide))
      · exact absurd (show number? ('\x7b' :: _) = some r from h)
          (number?_cons_ne_some (by decide) (by decide))
      · exact h

/-- The text of a readable value begins with a character of the value. -/
theorem IsReadable.opens (h : IsReadable v) :
  Opens v.chars
  := by
  have ends : Ends [] := by
    rintro _ ⟨⟩
  cases h with
  | null => exact ⟨'n', _, rfl, by decide⟩
  | boolean b =>
      cases b with
      | false => exact ⟨'f', _, rfl, by decide⟩
      | true => exact ⟨'t', _, rfl, by decide⟩
  | natural n =>
      rw [chars]
      simpa using opens_of_number? (number?_digits n ends)
  | real negative h =>
      rw [chars]
      simpa using opens_of_number? (number?_real negative h ends)
  | text s => exact opens_textChars s.toList
  | array h => exact ⟨'[', _, rfl, by decide⟩
  | object h => exact ⟨'\x7b', _, rfl, by decide⟩

/-- A member is read from its name and its value. -/
theorem member?_append {value? : List Char → Option (Json × List Char)} {name : String}
    (ho : Opens v.chars) (h : value? (v.chars ++ rest) = some (v, rest)) :
  member? value? (textChars name.toList ++ ':' :: v.chars ++ rest) = some ((name, v), rest)
  := by
  have colon :
      Toml.expect ':' (skipBlanks (':' :: (v.chars ++ rest))) = some (v.chars ++ rest) := by
    simp [Json.skipBlanks, isBlank, Toml.expect]
  rw [List.append_assoc, List.cons_append, member?, text?_textChars]
  simp [colon, (ho.append rest).skipBlanks, h]

/-- A value is read from its text, if enough levels are read. -/
theorem value?_chars (depth : Nat) (h : IsReadable v) (hl : v.chars.length ≤ depth)
    (hr : Ends rest) :
  value? depth (v.chars ++ rest) = some (v, rest)
  := by
  induction depth generalizing v rest with
  | zero =>
      obtain ⟨c, t, ho, _⟩ := h.opens
      rw [ho] at hl
      cases hl
  | succ depth ih =>
      cases h with
      | null => exact value?_of_scalar? _ rfl
      | boolean b => cases b <;> exact value?_of_scalar? _ rfl
      | natural n => exact value?_of_scalar? _ (scalar?_of_number? (number?_digits n hr))
      | real negative h =>
          exact value?_of_scalar? _ (scalar?_of_number? (number?_real negative h hr))
      | text s =>
          apply value?_of_scalar?
          change (text? (textChars s.toList ++ rest)).map _ = _
          rw [text?_textChars]
          rfl
      | @array items h =>
          have shorter {v : Json} (hv : v ∈ items) : v.chars.length ≤ depth := by
            have := length_le_partsChars chars hv
            rw [chars, itemsChars_eq, List.length_cons, List.length_append] at hl
            omega
          have parts := parts?_partsChars rest (.inl rfl)
            (fun v hv _ hs => ih (h v hv) (shorter hv) hs) (fun v hv => (h v hv).opens)
          rw [chars, itemsChars_eq]
          simp [value?, parts]
      | @object members h =>
          have shorter {m : String × Json} (hm : m ∈ members) : m.2.chars.length ≤ depth := by
            have := length_le_partsChars (fun m => textChars m.1.toList ++ ':' :: m.2.chars) hm
            rw [List.length_append, List.length_cons] at this
            rw [chars, membersChars_eq, List.length_cons, List.length_append] at hl
            omega
          have parts := parts?_partsChars rest (.inr rfl)
            (fun m hm _ hs => member?_append (h m hm).opens (ih (h m hm) (shorter hm) hs))
            (fun m _ => (opens_textChars m.1.toList).append _)
          rw [chars, membersChars_eq]
          simp [value?, parts]

/-- A readable value is read from its text. -/
theorem read?_compact (h : IsReadable v) :
  read? v.compact = some v
  := by
  have ends : Ends [] := by
    rintro _ ⟨⟩
  have read := value?_chars v.chars.length h le_rfl ends
  rw [List.append_nil] at read
  rw [read?, compact, String.toList_ofList, h.opens.skipBlanks, read]
  rfl

/-! What is no Json has no value: a line end inside a text, or a number that begins with a zero. -/

example : read? "\"a\nb\"" = none := by cbv

example : read? "[01]" = none := by cbv

/-! ### One line -/

open Text

theorem isPlain_realChars (x : Binary64) :
  IsPlain (realChars x)
  := by
  rw [realChars]
  split
  · exact isPlain_layout .json x
  · decide

theorem isPlain_codeEscape (hc : c < ' ') :
  IsPlain (codeEscape c)
  := by
  have small : c.toNat < 32 := hc
  have digit : ∀ d < 16, ' ' ≤ d.digitChar := by decide
  rw [codeEscape_eq (by omega)]
  exact IsPlain.append (show IsPlain ['\\', 'u', '0', '0'] by decide)
    (.cons (digit _ (by omega)) (.cons (digit _ (by omega)) isPlain_nil))

theorem isPlain_escapeChar (c : Char) :
  IsPlain (escapeChar c)
  := by
  rw [escapeChar]
  split_ifs with _ _ _ _ _ _ _ h
  · decide
  · decide
  · decide
  · decide
  · decide
  · decide
  · decide
  · exact isPlain_codeEscape h
  · exact .cons (Char.not_lt.mp h) isPlain_nil

theorem isPlain_textChars (s : List Char) :
  IsPlain (textChars s)
  := by
  apply IsPlain.cons (by decide)
  apply IsPlain.append _ (by decide)
  intro c hc
  obtain ⟨d, _, hd⟩ := List.mem_flatMap.mp hc
  exact isPlain_escapeChar d c hd

theorem isPlain_partsChars {α : Type} {write : α → List Char} {l : List α}
    (h : ∀ a ∈ l, IsPlain (write a)) :
  IsPlain (partsChars write l)
  := by
  cases l with
  | nil => exact isPlain_nil
  | cons a l =>
      apply IsPlain.append (h a List.mem_cons_self)
      intro c hc
      obtain ⟨b, hb, hd⟩ := List.mem_flatMap.mp hc
      exact IsPlain.cons (by decide) (h b (List.mem_cons_of_mem a hb)) c hd

/-- The text of a readable value holds no control character. -/
theorem IsReadable.isPlain (h : IsReadable v) :
  IsPlain v.chars
  := by
  induction h with
  | null => decide
  | boolean b => cases b <;> decide
  | natural n =>
      rw [chars]
      exact isPlain_digits n
  | real negative h =>
      rw [chars]
      exact isPlain_realChars _
  | text s =>
      rw [chars]
      exact isPlain_textChars s.toList
  | array h ih =>
      rw [chars, itemsChars_eq]
      exact .cons (by decide) ((isPlain_partsChars ih).append (by decide))
  | object h ih =>
      rw [chars, membersChars_eq]
      exact .cons (by decide) (.append (isPlain_partsChars (fun m hm =>
        (isPlain_textChars m.1.toList).append (.cons (by decide) (ih m hm)))) (by decide))

end Json

end SyncLayer
