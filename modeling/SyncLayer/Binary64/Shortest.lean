import SyncLayer.Binary64.Basic

/-!
# Shortest decimals

The decimal with the fewest digits that reads back as a given binary number, and of those with
as many digits the nearest to it. Each count of digits is tried in turn, on the two points
of its decimal grid next to the number; seventeen digits always suffice. A number in the middle
between the two goes the way that a rule for ties says.
-/

namespace SyncLayer.Binary64

/-- A positive decimal `digits * 10 ^ scale`. -/
structure Scientific where
  digits : Nat
  scale : Int
deriving DecidableEq, Repr

/-- The greatest `k` with `10 ^ k ≤ num / den`, for a positive ratio. -/
def floorLog10 (num den : Nat) : Int :=
  let k : Int := ((Nat.toDigits 10 num).length : Int) - (Nat.toDigits 10 den).length
  let (n, d) := scaleRatio 10 num den k
  if d ≤ n then k else k - 1

/-- The reals that round to a positive number: they lie between `low / den` and `high / den`,
the ends included if `closed`. -/
structure Rounding where
  low : Nat
  high : Nat
  den : Nat
  closed : Bool

/-- The reals that round to `m * 2 ^ e`. Below a power of two the next number is half as far as
above it. -/
def rounding (m : Nat) (e : Int) : Rounding :=
  let below := if m = leastMantissa ∧ minExponent < e then 1 else 2
  let (unit, den) := ratio 1 (e - 2)
  { low := (4 * m - below) * unit
    high := (4 * m + 2) * unit
    den := den
    closed := m % 2 == 0 }

/-- Whether a decimal lies between the ends of a rounding interval. -/
def Rounding.covers (r : Rounding) (d : Scientific) : Bool :=
  let (n, den) := scaleRatio 10 d.digits 1 (-d.scale)
  if r.closed then r.low * den ≤ n * r.den && n * r.den ≤ r.high * den
  else r.low * den < n * r.den && n * r.den < r.high * den

/-- The decimal without zeros at the end of its digits. -/
def Scientific.strip (d : Scientific) : Scientific :=
  if h : d.digits ≠ 0 ∧ d.digits % 10 = 0 then
    have : d.digits / 10 < d.digits := Nat.div_lt_self (Nat.pos_of_ne_zero h.1) (by decide)
    strip { digits := d.digits / 10, scale := d.scale + 1 }
  else d
termination_by d.digits

/-- Where a number goes that lies in the middle between two decimals: to the upper one, or to the
one whose last digit is even. -/
inductive TieRule where
  | up
  | even
deriving DecidableEq, Repr

/-- Whether a number that lies in the middle between `digits` and the next decimal goes up. -/
def TieRule.goesUp (digits : Nat) : TieRule → Bool
  | up => true
  | even => digits % 2 == 1

/-- The decimal on the grid of `10 ^ scale` that reads back as `num / den`, the nearer of the
two next to it. -/
def onGrid? (tie : TieRule) (r : Rounding) (num den : Nat) (scale : Int) : Option Scientific :=
  let (n, d) := scaleRatio 10 num den scale
  let lower : Scientific := { digits := n / d, scale }
  let upper : Scientific := { digits := n / d + 1, scale }
  let upperIsNearer := d < 2 * (n % d) || (d == 2 * (n % d) && tie.goesUp lower.digits)
  match r.covers lower, r.covers upper with
  | true, true => some (if upperIsNearer then upper else lower)
  | true, false => some lower
  | false, true => some upper
  | false, false => none

/-- The shortest decimal that reads back as `m * 2 ^ e`, for a positive mantissa. -/
def shortest (tie : TieRule) (m : Nat) (e : Int) : Scientific :=
  let (num, den) := ratio m e
  let top := floorLog10 num den
  let r := rounding m e
  match (List.range 17).findSome? (fun (i : Nat) => onGrid? tie r num den (top - (i : Int))) with
  | some d => d.strip
  | none => { digits := num / den, scale := 0 }

end SyncLayer.Binary64
