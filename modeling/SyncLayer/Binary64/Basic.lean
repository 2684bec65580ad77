/-!
# Binary floating-point numbers

A number in the binary64 format is a signed integer of at most 53 bits times a power of two, an
infinity, or no number at all. The numbers are decided in exact integer arithmetic: `ofRatio`
is the number nearest to a ratio of two naturals, of two equally near ones the one with the even
mantissa.
-/

namespace SyncLayer

/-- A number in the binary64 format. A finite number is `mantissa * 2 ^ exponent`, where the
mantissa is below `2 ^ 53` and the exponent at least `-1074`, and the mantissa is at least
`2 ^ 52` unless the exponent is least. -/
inductive Binary64 where
  | finite (negative : Bool) (mantissa : Nat) (exponent : Int)
  | infinite (negative : Bool)
  | nan
deriving DecidableEq, Repr

namespace Binary64

/-- The least exponent of a finite number. -/
def minExponent : Int := -1074

/-- The greatest exponent of a finite number. -/
def maxExponent : Int := 971

/-- The mantissa of a power of two whose exponent is not least. -/
def leastMantissa : Nat := 0x10000000000000

/-- Zero. -/
def zero : Binary64 :=
  finite false 0 minExponent

/-- Whether a number is neither infinite nor no number. -/
def isFinite : Binary64 → Bool
  | finite .. => true
  | _ => false

/-! ### Rounding a ratio -/

/-- The natural nearest to `num / den`, and the even one of two equally near. -/
def roundDiv (num den : Nat) : Nat :=
  let q := num / den
  let r := num % den
  if 2 * r < den then q
  else if den < 2 * r then q + 1
  else if q % 2 = 0 then q
  else q + 1

/-- Numerator and denominator of `num / den` divided by a power of `base`. -/
def scaleRatio (base num den : Nat) (e : Int) : Nat × Nat :=
  if 0 ≤ e then (num, den * base.pow e.toNat) else (num * base.pow (-e).toNat, den)

/-- The greatest `k` with `2 ^ k ≤ num / den`, for a positive ratio. -/
def floorLog2 (num den : Nat) : Int :=
  let k : Int := (Nat.log2 num : Int) - Nat.log2 den
  let (n, d) := scaleRatio 2 num den k
  if d ≤ n then k else k - 1

/-- The number `m * 2 ^ e` for a mantissa that rounding may have carried to `2 ^ 53`. -/
def carried (negative : Bool) (m : Nat) (e : Int) : Binary64 :=
  let (m, e) := if m = 2 * leastMantissa then (leastMantissa, e + 1) else (m, e)
  if maxExponent < e then infinite negative else finite negative m e

/-- The number nearest to `num / den` in magnitude, with the given sign. -/
def ofRatio (negative : Bool) (num den : Nat) : Binary64 :=
  if num = 0 then finite negative 0 minExponent
  else
    let e := max (floorLog2 num den - 52) minExponent
    let (n, d) := scaleRatio 2 num den e
    carried negative (roundDiv n d) e

/-- The number nearest to a natural. -/
def ofNat (n : Nat) : Binary64 :=
  ofRatio false n 1

/-- The magnitude of a finite number as a ratio of two naturals. -/
def ratio (m : Nat) (e : Int) : Nat × Nat :=
  if 0 ≤ e then (m * Nat.pow 2 e.toNat, 1) else (m, Nat.pow 2 (-e).toNat)

/-- The number nearest to the quotient of the numbers nearest to two naturals. -/
def quotient (a b : Nat) : Binary64 :=
  match ofNat a, ofNat b with
  | finite _ m e, finite _ m' e' =>
    let (n, d) := ratio m e
    let (n', d') := ratio m' e'
    if n' = 0 then (if n = 0 then nan else infinite false)
    else ofRatio false (n * d') (d * n')
  | _, _ => nan

/-- The number nearest to `n * 10 ^ k` in magnitude, with the given sign. Powers of ten beyond
the range of the format are not computed. -/
def ofDecimal (negative : Bool) (n : Nat) (k : Int) : Binary64 :=
  let size : Int := (Nat.toDigits 10 n).length + k
  if n = 0 ∨ size < -400 then finite negative 0 minExponent
  else if 400 < size then infinite negative
  else
    let (num, den) := scaleRatio 10 n 1 (-k)
    ofRatio negative num den

/-! ### The format -/

/-- The bits of a number in the interchange format. -/
def toBits : Binary64 → UInt64
  | finite negative m e =>
    signBit negative +
      UInt64.ofNat
        (if m < leastMantissa then m
         else (e - minExponent + 1).toNat * leastMantissa + (m - leastMantissa))
  | infinite negative => signBit negative + 0x7ff0000000000000
  | nan => 0x7ff8000000000000
where
  signBit (negative : Bool) : UInt64 := if negative then 0x8000000000000000 else 0

end Binary64

end SyncLayer
