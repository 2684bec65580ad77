import SyncLayer.Binary64.Basic
import SyncLayer.Decimal.Numeral
import SyncLayer.Text.Quoted
import SyncLayer.Toml.Lexeme

/-!
# Numbers

An integer is decimal, with a sign and without needless zeros at its front, or has one of the
prefixes `0x`, `0o`, `0b`; it must fit in 64 bits. A real number has a fraction or an exponent,
or is `inf` or `nan`. Single underscores may stand between digits.
-/

namespace SyncLayer.Toml

/-- Whether a number has a minus sign, and the text behind its sign, if it has one. -/
def splitSign : List Char → Bool × List Char
  | '-' :: rest => (true, rest)
  | '+' :: rest => (false, rest)
  | s => (false, s)

/-- Read decimal digits without a zero in front of others. -/
def wholeDigits? : List Char → Option (List Char × List Char)
  | '0' :: rest => some (['0'], rest)
  | s => digits? Char.isDigit s

/-! ### Integers -/

/-- The least integer a document can hold. -/
def minInteger : Int := -0x8000000000000000

/-- The greatest integer a document can hold. -/
def maxInteger : Int := 0x7fffffffffffffff

/-- The integer, if a document can hold it. -/
def checkedInteger? (n : Int) : Option Int :=
  if minInteger ≤ n ∧ n ≤ maxInteger then some n else none

/-- The digits of a base and their values. -/
def digitValue? (base : Nat) (c : Char) : Option Nat :=
  (Text.hexValue? c).filter (· < base)

/-- Read digits of a base, and a number of 64 bits from them. -/
def basedInteger? (base : Nat) (s : List Char) : Option (Int × List Char) := do
  let (ds, rest) ← digits? (fun c => (digitValue? base c).isSome) s
  let n := ds.foldl (fun acc d => base * acc + (digitValue? base d).getD 0) 0
  let n ← checkedInteger? n
  some (n, rest)

/-- Read a decimal integer. -/
def decimalInteger? (s : List Char) : Option (Int × List Char) := do
  let (negative, rest) := splitSign s
  let (ds, rest) ← wholeDigits? rest
  let n : Int := Decimal.value ds
  let n ← checkedInteger? (if negative then -n else n)
  some (n, rest)

/-- Read an integer. -/
def integer? : List Char → Option (Int × List Char)
  | '0' :: 'x' :: rest => basedInteger? 16 rest
  | '0' :: 'o' :: rest => basedInteger? 8 rest
  | '0' :: 'b' :: rest => basedInteger? 2 rest
  | s => decimalInteger? s

/-! ### Real numbers -/

/-- Read the fraction of a number. -/
def fraction? : List Char → Option (List Char × List Char)
  | '.' :: rest => digits? Char.isDigit rest
  | _ => none

/-- Read the exponent of a number. -/
def exponent? : List Char → Option (Int × List Char)
  | c :: rest =>
    if c = 'e' ∨ c = 'E' then do
      let (negative, rest) := splitSign rest
      let (ds, rest) ← digits? Char.isDigit rest
      let n : Int := Decimal.value ds
      some (if negative then -n else n, rest)
    else none
  | [] => none

/-- Read a decimal number with a fraction, an exponent or both. One too great for the format
is refused, one too small becomes minus infinity. -/
def decimalReal? (s : List Char) : Option (Binary64 × List Char) := do
  let (negative, rest) := splitSign s
  let (whole, rest) ← wholeDigits? rest
  let (fraction, exponent, rest) ←
    match fraction? rest with
    | some (fraction, rest) =>
      match exponent? rest with
      | some (exponent, rest) => some (fraction, exponent, rest)
      | none => some (fraction, 0, rest)
    | none => (exponent? rest).map (fun r => ([], r.1, r.2))
  let n := Decimal.value (whole ++ fraction)
  let x := Binary64.ofDecimal negative n (exponent - fraction.length)
  if x = .infinite false then none else some (x, rest)

/-- Read an infinity or the value that is no number, with or without a sign. -/
def namedReal? (s : List Char) : Option (Binary64 × List Char) :=
  let (negative, rest) := splitSign s
  match expectText ['i', 'n', 'f'] rest, expectText ['n', 'a', 'n'] rest with
  | some rest, _ => some (.infinite negative, rest)
  | none, some rest => some (.nan, rest)
  | none, none => none

/-- Read a real number. -/
def real? (s : List Char) : Option (Binary64 × List Char) :=
  decimalReal? s <|> namedReal? s

end SyncLayer.Toml
