import SyncLayer.Binary64.Shortest
import SyncLayer.Decimal.Numeral

/-!
# The text of a binary number

A number is written with its shortest digits, positionally or with an exponent as a `Layout`
says, or with a fixed number of places. A number without a fraction keeps one zero behind the
point.
-/

namespace SyncLayer.Binary64

/-- How numbers are written with their shortest digits: which way ties go, and which numbers are
written without an exponent. With `0.d₁d₂… * 10 ^ p` for a number, these are the ones with
`above < p` and `p ≤ upTo`, as far as these bounds are given. -/
structure Layout where
  tie : TieRule
  above : Option Int
  upTo : Option Int

/-- The layout of numbers in JSON reports: positional from `0.00001` to below `10 ^ 16`, ties to
the even digit. -/
def Layout.json : Layout :=
  { tie := .even, above := some (-5), upTo := some 16 }

/-- The layout without exponents, ties to the upper digit. -/
def Layout.positional : Layout :=
  { tie := .up, above := none, upTo := none }

/-- Whether a layout writes a number with decimal point `p` without an exponent. -/
def Layout.isPositional (layout : Layout) (p : Int) : Bool :=
  layout.above.all (· < p) && layout.upTo.all (p ≤ ·)

/-- The digits with the decimal point behind the first `p` of them. -/
def placePoint (ds : List Char) (p : Int) : List Char :=
  if p ≤ 0 then ['0', '.'] ++ List.replicate (-p).toNat '0' ++ ds
  else if ds.length ≤ p.toNat then ds ++ List.replicate (p.toNat - ds.length) '0' ++ ['.', '0']
  else ds.take p.toNat ++ '.' :: ds.drop p.toNat

/-- The digits with the decimal point behind the first of them, and an exponent. -/
def placeExponent (ds : List Char) (p : Int) : List Char :=
  let mantissa :=
    match ds with
    | d :: e :: rest => d :: '.' :: e :: rest
    | _ => ds
  let sign := if p - 1 < 0 then '-' else '+'
  mantissa ++ 'e' :: sign :: Decimal.digits (p - 1).natAbs

/-- The text of a positive decimal. -/
def Layout.render (layout : Layout) (d : Scientific) : List Char :=
  let ds := Decimal.digits d.digits
  let p := (ds.length : Int) + d.scale
  if layout.isPositional p then placePoint ds p else placeExponent ds p

/-- The text behind a minus sign, if there is one. -/
def signed (negative : Bool) (s : List Char) : List Char :=
  if negative then '-' :: s else s

/-- The text of a number in a layout, with its shortest digits. -/
def Layout.text (layout : Layout) : Binary64 → List Char
  | finite negative m e =>
    signed negative (if m = 0 then ['0', '.', '0'] else layout.render (shortest layout.tie m e))
  | infinite negative => signed negative "inf".toList
  | nan => "NaN".toList

/-- The text of a number with a fixed number of places, rounded to the nearest such decimal and
to the even one of two equally near. -/
def fixed (places : Nat) : Binary64 → List Char
  | finite negative m e =>
    let (num, den) := ratio m e
    let ds := Decimal.digits (roundDiv (num * Nat.pow 10 places) den)
    let padded := List.replicate (places + 1 - ds.length) '0' ++ ds
    let whole := padded.length - places
    signed negative (padded.take whole ++ '.' :: padded.drop whole)
  | infinite negative => signed negative "inf".toList
  | nan => "NaN".toList

end SyncLayer.Binary64
