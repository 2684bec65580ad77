import SyncLayer.Text.Graphic

/-!
# Quoted literals

A text is written between double quotes, with a backslash in front of quotes and backslashes,
short escapes for the usual control characters, and the code point in hexadecimal for every
other character that is not graphic or that attaches to the one before it. `unquote?` reads
such a literal back.
-/

namespace SyncLayer.Text

/-- The escape of a character by its code point. -/
def codeEscape (c : Char) : List Char :=
  '\\' :: 'u' :: '\x7b' :: (Nat.toDigits 16 c.toNat ++ ['\x7d'])

/-- How a character is written inside a quoted literal. -/
def escapeChar (c : Char) : List Char :=
  if c = '\x00' then ['\\', '0']
  else if c = '\t' then ['\\', 't']
  else if c = '\n' then ['\\', 'n']
  else if c = '\r' then ['\\', 'r']
  else if c = '"' then ['\\', '"']
  else if c = '\\' then ['\\', '\\']
  else if isExtending c || !isGraphic c then codeEscape c
  else [c]

/-- The quoted literal of a text. -/
def quote (s : List Char) : List Char :=
  '"' :: (s.flatMap escapeChar ++ ['"'])

/-- The quoted literal of a string. -/
def quoted (s : String) : String :=
  String.ofList (quote s.toList)

/-! ### Reading a literal -/

/-- The value of a hexadecimal digit. -/
def hexValue? (c : Char) : Option Nat :=
  if '0' ≤ c ∧ c ≤ '9' then some (c.toNat - '0'.toNat)
  else if 'a' ≤ c ∧ c ≤ 'f' then some (c.toNat - 'a'.toNat + 10)
  else if 'A' ≤ c ∧ c ≤ 'F' then some (c.toNat - 'A'.toNat + 10)
  else none

/-- The character with a given code point, if there is one. -/
def charOfCode? (n : Nat) : Option Char :=
  if n.isValidChar then some (Char.ofNat n) else none

/-- The number a run of hexadecimal digits denotes, continuing from `n`, if the run ends in a
closing brace; and the text after the brace. -/
def readCode? (n : Nat) : List Char → Option (Nat × List Char)
  | [] => none
  | '\x7d' :: rest => some (n, rest)
  | c :: rest =>
    match hexValue? c with
    | some d => readCode? (16 * n + d) rest
    | none => none

theorem readCode?_length {n m : Nat} {s rest : List Char} (h : readCode? n s = some (m, rest)) :
  rest.length < s.length
  := by
  fun_induction readCode? n s with
  | case1 => cases h
  | case2 => cases h; simp
  | case3 n c r _ d _ ih => exact Nat.lt_succ_of_lt (ih h)
  | case4 => cases h

/-- The characters of a literal up to its closing quote, which must be the last character. -/
def unescape? : List Char → Option (List Char)
  | [] => none
  | ['"'] => some []
  | '"' :: _ :: _ => none
  | '\\' :: '0' :: rest => (unescape? rest).map ('\x00' :: ·)
  | '\\' :: 't' :: rest => (unescape? rest).map ('\t' :: ·)
  | '\\' :: 'n' :: rest => (unescape? rest).map ('\n' :: ·)
  | '\\' :: 'r' :: rest => (unescape? rest).map ('\r' :: ·)
  | '\\' :: '"' :: rest => (unescape? rest).map ('"' :: ·)
  | '\\' :: '\\' :: rest => (unescape? rest).map ('\\' :: ·)
  | '\\' :: 'u' :: '\x7b' :: rest =>
    match h : readCode? 0 rest with
    | none => none
    | some (n, after) =>
      have : after.length < rest.length := readCode?_length h
      match charOfCode? n with
      | some c => (unescape? after).map (c :: ·)
      | none => none
  | '\\' :: _ => none
  | c :: rest => (unescape? rest).map (c :: ·)
termination_by s => s.length

/-- The text whose quoted literal is given. -/
def unquote? : List Char → Option (List Char)
  | '"' :: rest => unescape? rest
  | _ => none

end SyncLayer.Text
