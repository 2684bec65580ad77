import SyncLayer.Proofs.Toml.Lexeme
import Mathlib.Data.List.Forall2

/-!
# Entries that are read back

A document of lines, each with a bare key and a scalar, is read as what it was written from. An
integer is read as an integer and not as a date, a time or a real number, because digits with a
line end behind them are neither.
-/

namespace SyncLayer.Toml

variable {n : Nat} {c : Char} {s rest : List Char}

/-! ### Integers -/

theorem digits_cases (n : Nat) :
  Decimal.digits n = ['0'] ∨ ∃ d ds, Decimal.digits n = d :: ds ∧ d.isDigit = true ∧ d ≠ '0'
  := by
  rcases Nat.eq_zero_or_pos n with rfl | hn
  · left
    rfl
  · right
    obtain ⟨d, ds, hd, h0⟩ := Decimal.exists_digits_eq_cons hn
    refine ⟨d, ds, hd, ?_, h0⟩
    apply Decimal.isDigit_of_mem_digits (n := n)
    rw [hd]
    apply List.mem_cons_self

/-- The first digit of a number. -/
theorem exists_digit (n : Nat) :
  ∃ d ds, Decimal.digits n = d :: ds ∧ d.isDigit = true
  := by
  rcases digits_cases n with h | ⟨d, ds, h, hd, _⟩
  · exact ⟨_, _, h, rfl⟩
  · exact ⟨d, ds, h, hd⟩

/-- A character of some kind is none of another kind. -/
theorem ne_of_kind {p : Char → Bool} {c d : Char} (hc : p c = true) (hd : p d = false) :
  c ≠ d
  := by
  rintro rfl
  rw [hc] at hd
  cases hd

/-- The digits of a number are read as such, a single zero too. -/
theorem wholeDigits?_digits :
  wholeDigits? (Decimal.digits n ++ '\n' :: rest) = some (Decimal.digits n, '\n' :: rest)
  := by
  have read : digits? Char.isDigit (Decimal.digits n ++ '\n' :: rest)
      = some (Decimal.digits n, '\n' :: rest) := by
    apply digits?_append_cons Nat.toDigits_ne_nil _ rfl rfl (by decide)
    intro d hd
    apply Decimal.isDigit_of_mem_digits hd
  rcases digits_cases n with h | ⟨d, ds, h, _, h0⟩
  · rw [h]
    rfl
  · rw [h, List.cons_append] at read ⊢
    simp [wholeDigits?, read, h0]

theorem splitSign_digits :
  splitSign (Decimal.digits n ++ s) = (false, Decimal.digits n ++ s)
  := by
  obtain ⟨d, ds, h, hd⟩ := exists_digit n
  rw [h, List.cons_append]
  have minus := ne_of_kind hd (d := '-') rfl
  have plus := ne_of_kind hd (d := '+') rfl
  simp [splitSign, minus, plus]

theorem integer?_digits (h : (n : Int) ≤ maxInteger) :
  integer? (Decimal.digits n ++ '\n' :: rest) = some ((n : Int), '\n' :: rest)
  := by
  have bounds : minInteger ≤ (n : Int) ∧ (n : Int) ≤ maxInteger := by
    refine ⟨?_, h⟩
    rw [minInteger]
    omega
  have read : decimalInteger? (Decimal.digits n ++ '\n' :: rest) = some ((n : Int), '\n' :: rest) := by
    simp [decimalInteger?, splitSign_digits, wholeDigits?_digits, Decimal.value_digits,
      checkedInteger?, bounds]
  rcases digits_cases n with hd | ⟨d, ds, hd, _, h0⟩
  · rw [hd] at read ⊢
    exact read
  · rw [hd, List.cons_append] at read ⊢
    simp [integer?, read, h0]

/-! ### What digits are not -/

/-- Behind some digits of a number stands a digit or the line end. -/
theorem expect_of_exactDigits? {k : Nat} {a b : List Char}
    (h : exactDigits? k (Decimal.digits n ++ '\n' :: rest) = some (a, b)) (hc : c.isDigit = false)
    (hn : c ≠ '\n') :
  expect c b = none
  := by
  simp only [exactDigits?, Option.ite_none_right_eq_some, Option.some.injEq, Prod.mk.injEq] at h
  obtain ⟨⟨_, all⟩, _, rfl⟩ := h
  by_cases hk : k ≤ (Decimal.digits n).length
  · rw [List.drop_append_of_le_length hk]
    cases hd : (Decimal.digits n).drop k with
    | nil => simp [expect, hn]
    | cons d ds =>
        have digit : d.isDigit = true := by
          apply Decimal.isDigit_of_mem_digits (n := n)
          apply List.mem_of_mem_drop (i := k)
          rw [hd]
          apply List.mem_cons_self
        simp [expect, (ne_of_kind digit hc).symm]
  · have lineEnd : '\n' ∈ (Decimal.digits n ++ '\n' :: rest).take k := by
      rw [List.take_append]
      apply List.mem_append_right
      obtain ⟨i, hi⟩ := Nat.exists_eq_succ_of_ne_zero (Nat.sub_ne_zero_of_lt (not_le.mp hk))
      rw [hi]
      apply List.mem_cons_self
    have digit := List.all_eq_true.mp all _ lineEnd
    cases digit

theorem expect_of_boundedDigits? {k v : Nat} {accepts : Nat → Bool} {b : List Char}
    (h : boundedDigits? k accepts (Decimal.digits n ++ '\n' :: rest) = some (v, b))
    (hc : c.isDigit = false) (hn : c ≠ '\n') :
  expect c b = none
  := by
  simp only [boundedDigits?, Option.bind_eq_bind, Option.bind_eq_some_iff] at h
  obtain ⟨⟨ds, b'⟩, hd, h⟩ := h
  simp only [Option.ite_none_right_eq_some, Option.some.injEq, Prod.mk.injEq] at h
  obtain ⟨_, _, rfl⟩ := h
  apply expect_of_exactDigits? hd hc hn

/-- A number is no date and no time. -/
theorem moment?_digits :
  moment? (Decimal.digits n ++ '\n' :: rest) = none
  := by
  have date : date? (Decimal.digits n ++ '\n' :: rest) = none := by
    rw [date?]
    cases h : boundedDigits? 4 (fun _ => true) (Decimal.digits n ++ '\n' :: rest) with
    | none => rfl
    | some r => simp [expect_of_boundedDigits? (c := '-') h rfl (by decide)]
  have time : time? (Decimal.digits n ++ '\n' :: rest) = none := by
    rw [time?, hourMinute?]
    cases h : boundedDigits? 2 (· < 24) (Decimal.digits n ++ '\n' :: rest) with
    | none => rfl
    | some r => simp [expect_of_boundedDigits? (c := ':') h rfl (by decide)]
  rw [moment?, date, time]

/-- A number has no fraction and no exponent, and is not named. -/
theorem real?_digits :
  real? (Decimal.digits n ++ '\n' :: rest) = none
  := by
  have decimal : decimalReal? (Decimal.digits n ++ '\n' :: rest) = none := by
    simp [decimalReal?, splitSign_digits, wholeDigits?_digits, fraction?, exponent?]
  have named : namedReal? (Decimal.digits n ++ '\n' :: rest) = none := by
    obtain ⟨d, ds, h, hd⟩ := exists_digit n
    have i := ne_of_kind hd (d := 'i') rfl
    have n := ne_of_kind hd (d := 'n') rfl
    rw [namedReal?, splitSign_digits, h]
    simp [expectText, expect, i.symm, n.symm]
  rw [real?, decimal, named]
  rfl

/-- A number is no text. -/
theorem text?_digits :
  text? (Decimal.digits n ++ s) = none
  := by
  obtain ⟨d, ds, h, hd⟩ := exists_digit n
  have double := ne_of_kind hd (d := '"') rfl
  have single := ne_of_kind hd (d := '\'') rfl
  rw [h, List.cons_append]
  simp [text?, lineText?, double, single]

/-- A number is no truth value. -/
theorem boolean?_digits :
  boolean? (Decimal.digits n ++ s) = none
  := by
  obtain ⟨d, ds, h, hd⟩ := exists_digit n
  have t := ne_of_kind hd (d := 't') rfl
  have f := ne_of_kind hd (d := 'f') rfl
  rw [h, List.cons_append]
  simp [boolean?, expectText, expect, t.symm, f.symm]

/-! ### Scalars as they are written -/

/-- A number, a truth value or a text, as it is written. -/
def Scalar.written : Scalar → List Char
  | .integer n => Decimal.digits n.toNat
  | .boolean b => if b then ['t', 'r', 'u', 'e'] else ['f', 'a', 'l', 's', 'e']
  | .text s => '"' :: (s.toList ++ ['"'])
  | _ => []

/-- The scalars that are read as they are written: the numbers that a document can hold, the truth
values, and the texts of characters that stand for themselves. -/
inductive Scalar.Plain : Scalar → Prop
  | integer {n : Nat} (h : (n : Int) ≤ maxInteger) : Plain (.integer n)
  | boolean (b : Bool) : Plain (.boolean b)
  | text {s : String} (h : ∀ c ∈ s.toList, isTextChar c = true ∧ c ≠ '"' ∧ c ≠ '\\') :
      Plain (.text s)

/-- A character that stands for itself is read as itself. -/
theorem basicChar?_cons (h : isTextChar c = true ∧ c ≠ '"' ∧ c ≠ '\\') :
  basicChar? (c :: s) = some (c, s)
  := by
  obtain ⟨text, quote, backslash⟩ := h
  simp [basicChar?, text]

/-- A text is read up to its last quote. -/
theorem text?_written {cs : List Char}
    (h : ∀ c ∈ cs, isTextChar c = true ∧ c ≠ '"' ∧ c ≠ '\\') :
  text? ('"' :: (cs ++ '"' :: '\n' :: rest)) = some (cs, '\n' :: rest)
  := by
  have read : many basicChar? (cs ++ '"' :: '\n' :: rest) = (cs, '"' :: '\n' :: rest) :=
    many_of_forall (fun c hc s => basicChar?_cons (h c hc)) rfl
  have line : lineText? ('"' :: (cs ++ '"' :: '\n' :: rest)) = some (cs, '\n' :: rest) := by
    simp [lineText?, read, expect]
  cases cs with
  | nil => exact line
  | cons c cs =>
      obtain ⟨_, quote, _⟩ := h c List.mem_cons_self
      rw [List.cons_append] at line ⊢
      simp [text?, line, quote]

theorem scalar?_written {v : Scalar} (h : v.Plain) :
  scalar? (v.written ++ '\n' :: rest) = some (v, '\n' :: rest)
  := by
  cases h with
  | @integer n h =>
      rw [Scalar.written, Int.toNat_natCast]
      simp [scalar?, text?_digits, boolean?_digits, moment?_digits, real?_digits, integer?_digits h]
  | boolean b => cases b <;> rfl
  | text h =>
      rw [Scalar.written, List.cons_append, List.append_assoc]
      simp [scalar?, text?_written h]

theorem Scalar.Plain.exists_written_eq_cons {v : Scalar} (h : v.Plain) :
  ∃ c cs, v.written = c :: cs ∧ isSpace c = false ∧ c ≠ '[' ∧ c ≠ '\x7b'
  := by
  cases h with
  | @integer n h =>
      obtain ⟨d, ds, hn, hd⟩ := exists_digit n
      refine ⟨d, ds, hn, ?_, ne_of_kind hd rfl, ne_of_kind hd rfl⟩
      have space := ne_of_kind hd (d := ' ') rfl
      have tab := ne_of_kind hd (d := '\t') rfl
      simp [isSpace, space, tab]
  | boolean b => cases b <;> exact ⟨_, _, rfl, rfl, by decide, by decide⟩
  | text h => exact ⟨_, _, rfl, rfl, by decide, by decide⟩

theorem value?_written {v : Scalar} (h : v.Plain) (depth : Nat) (rest : List Char) :
  ∃ span, value? depth (v.written ++ '\n' :: rest) = some (.scalar v span, '\n' :: rest)
  := by
  have read : scalar? (v.written ++ '\n' :: rest) = some (v, '\n' :: rest) := scalar?_written h
  cases depth with
  | zero => simp [value?, read]
  | succ depth =>
      obtain ⟨c, cs, hc, _, bracket, brace⟩ := h.exists_written_eq_cons
      rw [hc, List.cons_append] at read ⊢
      simp only [value?]
      split
      · rename_i heq
        cases heq
        cases bracket rfl
      · rename_i heq
        cases heq
        cases brace rfl
      · simp [read]

/-! ### Lines -/

/-- The line of a bare key and a scalar. -/
def entryLine (e : String × Scalar) : List Char :=
  e.1.toList ++ ' ' :: '=' :: ' ' :: (e.2.written ++ ['\n'])

/-- An entry that is read as it is written: its key is bare, and its scalar is plain. -/
structure PlainEntry (e : String × Scalar) : Prop where
  key_ne : e.1.toList ≠ []
  key : ∀ c ∈ e.1.toList, isKeyChar c = true
  value : e.2.Plain

/-- What is read of an entry, wherever it stands. -/
def Pair.Holds (pair : Pair) (e : String × Scalar) : Prop :=
  pair.path = [] ∧ pair.key.name = e.1 ∧ ∃ span, pair.value = .scalar e.2 span

/-- A bare key is read up to the space behind it. -/
theorem keyPart?_bare {k : List Char} (hk : k ≠ []) (h : ∀ c ∈ k, isKeyChar c = true)
    (rest : List Char) :
  ∃ span, keyPart? (k ++ ' ' :: rest) = some ({ name := String.ofList k, span }, ' ' :: rest)
  := by
  rw [keyPart?, takeWhile_append_cons h rfl, dropWhile_append_cons h rfl]
  cases k with
  | nil => cases hk rfl
  | cons c cs => exact ⟨_, rfl⟩

theorem isSpace_of_isKeyChar (h : isKeyChar c = true) :
  isSpace c = false
  := by
  have space := ne_of_kind h (d := ' ') rfl
  have tab := ne_of_kind h (d := '\t') rfl
  simp [isSpace, space, tab]

/-- A bare key is read up to the equals sign behind it. -/
theorem key?_bare {k : List Char} (hk : k ≠ []) (h : ∀ c ∈ k, isKeyChar c = true)
    (rest : List Char) :
  ∃ span, key? (k ++ ' ' :: '=' :: rest)
    = some (([], { name := String.ofList k, span }), '=' :: rest)
  := by
  obtain ⟨span, part⟩ := keyPart?_bare hk h ('=' :: rest)
  have front : skipSpaces (k ++ ' ' :: '=' :: rest) = k ++ ' ' :: '=' :: rest := by
    obtain ⟨c, cs, rfl⟩ := List.exists_cons_of_ne_nil hk
    apply skipSpaces_cons (isSpace_of_isKeyChar (h c List.mem_cons_self))
  have behind : skipSpaces (' ' :: '=' :: rest) = '=' :: rest := rfl
  have last : many (fun s => (expect '.' s).bind spacedPart?) ('=' :: rest) = ([], '=' :: rest) :=
    many_of_eq_none rfl
  use span
  simp [key?, spacedPart?, front, part, behind, last, depthLimit]

/-- A bare key, an equals sign and a plain scalar are read as a pair. -/
theorem pair?_entry {e : String × Scalar} (h : PlainEntry e) (rest : List Char) :
  ∃ pair : Pair, pair? (value? (depthLimit - 1)) (entryLine e ++ rest) = some (pair, '\n' :: rest)
    ∧ pair.Holds e
  := by
  obtain ⟨hk, bare, plain⟩ := h
  have text : entryLine e ++ rest
      = e.1.toList ++ ' ' :: '=' :: ' ' :: (e.2.written ++ '\n' :: rest) := by
    simp [entryLine]
  obtain ⟨span, key⟩ := key?_bare hk bare (' ' :: (e.2.written ++ '\n' :: rest))
  obtain ⟨span', value⟩ := value?_written plain (depthLimit - 1) rest
  have front : skipSpaces (' ' :: (e.2.written ++ '\n' :: rest)) = e.2.written ++ '\n' :: rest := by
    obtain ⟨c, cs, hc, space, _⟩ := plain.exists_written_eq_cons
    rw [hc]
    simp [skipSpaces, isSpace.eq_def ' ', space]
  let pair : Pair := { path := [], key := { name := e.1, span }, value := .scalar e.2 span' }
  refine ⟨pair, ?_, rfl, rfl, span', rfl⟩
  rw [text, pair?, key]
  simp [expect, front, value, skipSpaces_cons (c := '\n') rfl, pair]

/-- The line of an entry is read as the entry. -/
theorem line?_entry {e : String × Scalar} (h : PlainEntry e) (rest : List Char) :
  ∃ pair : Pair, line? (entryLine e ++ rest) = some (.pair pair, rest) ∧ pair.Holds e
  := by
  obtain ⟨pair, read, holds⟩ := pair?_entry h rest
  refine ⟨pair, ?_, holds⟩
  obtain ⟨c, cs, hc⟩ := List.exists_cons_of_ne_nil h.key_ne
  have bare : isKeyChar c = true := by
    apply h.key
    rw [hc]
    apply List.mem_cons_self
  obtain ⟨s, text⟩ : ∃ s, entryLine e ++ rest = c :: s := by
    rw [entryLine, hc]
    exact ⟨_, rfl⟩
  rw [text] at read ⊢
  have front : skipSpaces (c :: s) = c :: s := skipSpaces_cons (isSpace_of_isKeyChar bare)
  have noEnd : lineEnd? (c :: s) = none := by
    have hash := ne_of_kind bare (d := '#') rfl
    have feed := ne_of_kind bare (d := '\n') rfl
    have back := ne_of_kind bare (d := '\r') rfl
    simp [lineEnd?, front, skipComment, newline?, hash, feed, back]
  have content : content? (c :: s) = some (.pair pair, '\n' :: rest) := by
    have bracket := ne_of_kind bare (d := '[') rfl
    simp [content?, read, bracket]
  have last : lineEnd? ('\n' :: rest) = some rest := rfl
  simp [line?, noEnd, front, content, last]

/-- At the end of a document there is no line. -/
theorem many_nil :
  many line? [] = ([], [])
  := by
  have empty : line? [] = some (.empty, []) := rfl
  rw [many, empty]
  rfl

/-- The lines of entries are read as the entries. -/
theorem many_entries {es : List (String × Scalar)} (h : ∀ e ∈ es, PlainEntry e) :
  ∃ pairs : List Pair, many line? (es.flatMap entryLine) = (pairs.map .pair, [])
    ∧ List.Forall₂ Pair.Holds pairs es
  := by
  induction es with
  | nil => exact ⟨[], many_nil, .nil⟩
  | cons e es ih =>
      obtain ⟨pairs, read, holds⟩ := ih (fun e he => h e (List.mem_cons_of_mem _ he))
      obtain ⟨pair, first, hp⟩ := line?_entry (h e List.mem_cons_self) (es.flatMap entryLine)
      refine ⟨pair :: pairs, ?_, .cons hp holds⟩
      have shorter : (es.flatMap entryLine).length < (entryLine e ++ es.flatMap entryLine).length := by
        rw [List.length_append, entryLine, List.length_append]
        simp only [List.length_cons]
        omega
      rw [List.flatMap_cons, many_of_eq_some first shorter, read]
      rfl

theorem sections_pairs (pairs : List Pair) :
  sections (pairs.map .pair) = (pairs, [])
  := by
  induction pairs with
  | nil => rfl
  | cons pair pairs ih => simp [sections, ih]

/-- A pair of a new name without dots is put behind the others. -/
theorem addPair_of_forall_ne {members : Members} {pair : Pair} (hp : pair.path = [])
    (h : ∀ m ∈ members, m.1.name ≠ pair.key.name) :
  addPair .implied members pair = some (members ++ [(pair.key, pair.value)])
  := by
  have new : members.find? pair.key.name = none := by
    apply List.find?_eq_none.mpr
    intro m hm
    simpa using h m hm
  have implied : ((Origin.implied == .dotted) == true) = false := rfl
  rw [addPair, hp, alongPath]
  simp [new, implied]

/-- Pairs of different names without dots are put behind each other. -/
theorem addPairs_of_nodup {pairs : List Pair} {members : Members}
    (hp : ∀ pair ∈ pairs, pair.path = [])
    (hn : (members.map (·.1.name) ++ pairs.map (·.key.name)).Nodup) :
  addPairs members pairs = some (members ++ pairs.map (fun pair => (pair.key, pair.value)))
  := by
  induction pairs generalizing members with
  | nil => simp [addPairs]
  | cons pair pairs ih =>
      have new : ∀ m ∈ members, m.1.name ≠ pair.key.name := by
        intro m hm
        apply (List.nodup_append.mp hn).2.2 _ (List.mem_map_of_mem hm) _ List.mem_cons_self
      have add := addPair_of_forall_ne (hp pair List.mem_cons_self) new
      have nodup : ((members ++ [(pair.key, pair.value)]).map (·.1.name)
          ++ pairs.map (·.key.name)).Nodup := by
        simpa using hn
      have rest := ih (fun pair h => hp pair (List.mem_cons_of_mem _ h)) nodup
      rw [addPairs] at rest ⊢
      rw [List.foldlM_cons, add]
      simpa using rest

/-- A member says what an entry says, wherever it stands. -/
def Says (m : Key × Item) (e : String × Scalar) : Prop :=
  m.1.name = e.1 ∧ ∃ span, m.2 = .scalar e.2 span

/-- Members hold what entries say, in their order. -/
def Members.Hold (members : Members) (es : List (String × Scalar)) : Prop :=
  List.Forall₂ Says members es

/-- A document of entries does not begin with a byte order mark. -/
theorem dropMark_entries {es : List (String × Scalar)} (h : ∀ e ∈ es, PlainEntry e) :
  dropMark (es.flatMap entryLine) = es.flatMap entryLine
  := by
  cases es with
  | nil => rfl
  | cons e es =>
      have plain := h e List.mem_cons_self
      obtain ⟨c, cs, hc⟩ := List.exists_cons_of_ne_nil plain.key_ne
      have mark : c ≠ '\ufeff' := by
        apply ne_of_kind (p := isKeyChar) _ rfl
        apply plain.key
        rw [hc]
        apply List.mem_cons_self
      rw [List.flatMap_cons, entryLine, hc]
      simp [dropMark, mark]

/-- A document of entries with different keys is read as these entries. -/
theorem read?_entries {es : List (String × Scalar)} (h : ∀ e ∈ es, PlainEntry e)
    (hn : (es.map Prod.fst).Nodup) :
  ∃ members : Members, read? (es.flatMap entryLine) = some members ∧ members.Hold es
  := by
  obtain ⟨pairs, read, holds⟩ := many_entries h
  obtain ⟨path, holds⟩ := (List.forall₂_and_left pairs es).mp holds
  have names : pairs.map (·.key.name) = es.map Prod.fst := by
    rw [← List.forall₂_eq_eq_eq, List.forall₂_map_left_iff, List.forall₂_map_right_iff]
    apply holds.imp (fun _ _ h => h.1)
  have nodup : (([] : Members).map (·.1.name) ++ pairs.map (·.key.name)).Nodup := by
    simpa [names] using hn
  have added := addPairs_of_nodup path nodup
  use pairs.map (fun pair => (pair.key, pair.value))
  constructor
  · rw [read?, dropMark_entries h, read]
    simp [sections_pairs, document?, added]
  · apply List.forall₂_map_left_iff.mpr holds

end SyncLayer.Toml
