/-!
# Character ranges

A property of characters, given by the ranges of code points that have it.
-/

namespace Mandate.Text

/-- Ranges of code points, both ends included, in increasing order. -/
abbrev Ranges := List (Nat × Nat)

/-- Whether a code point lies in one of the ranges; they are in order, so the search stops at the
first range that begins behind it. -/
def Ranges.has : Ranges → Nat → Bool
  | [], _ => false
  | (lo, hi) :: rs, n => if n < lo then false else n ≤ hi || Ranges.has rs n

end Mandate.Text
