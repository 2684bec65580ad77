/-!
# Ranges of characters

A class of characters is given by the ranges of code points it consists of, in ascending
order. Membership reads the ranges from the left and stops at the first that begins above the
character.
-/

namespace SyncLayer.Text

/-- Ranges of code points, each given by its first and its last, in ascending order. -/
abbrev Ranges := List (Nat × Nat)

/-- Whether a code point lies in one of the ranges. -/
def Ranges.covers : Ranges → Nat → Bool
  | [], _ => false
  | (first, last) :: rest, n =>
    if n < first then false else if n ≤ last then true else covers rest n

end SyncLayer.Text
