/-!
# Decimal numerals

The digits of a number, the number a run of digits denotes, and the texts that are accepted
as numbers: an optional plus sign and one or more ASCII digits, any number of leading zeros
among them, whose value stays below a bound.
-/

namespace SyncLayer.Decimal

/-- The decimal digits of a number, without leading zeros. -/
def digits (n : Nat) : List Char :=
  Nat.toDigits 10 n

/-- The number a run of decimal digits denotes. -/
def value (ds : List Char) : Nat :=
  Nat.ofDigitChars 10 ds 0

/-- The decimal digits of an integer, behind a minus sign if it is negative. -/
def signedDigits (n : Int) : List Char :=
  if n < 0 then '-' :: digits n.natAbs else digits n.natAbs

/-- The decimal text of a number. -/
def text (n : Nat) : String :=
  String.ofList (digits n)

/-- The decimal text of an integer. -/
def signedText (n : Int) : String :=
  String.ofList (signedDigits n)

/-- The text without a plus sign at its front. -/
def dropPlus : List Char → List Char
  | '+' :: rest => rest
  | s => s

/-- The number below `bound` that a text denotes, which is an optional plus sign and one or
more digits. -/
def readBelow? (bound : Nat) (s : List Char) : Option Nat :=
  let ds := dropPlus s
  if ds ≠ [] ∧ ds.all Char.isDigit ∧ value ds < bound then some (value ds) else none

/-- The 64-bit number that a text denotes. -/
def readUInt64? (s : List Char) : Option UInt64 :=
  (readBelow? UInt64.size s).map UInt64.ofNat

/-- The 32-bit number that a text denotes. -/
def readUInt32? (s : List Char) : Option UInt32 :=
  (readBelow? UInt32.size s).map UInt32.ofNat

end SyncLayer.Decimal
