/-!
# The check digit of payment cards

The last digit of a card number is chosen so that a weighted sum of the digits is a multiple of ten:
from the right, every second digit counts double, less nine if that has two digits.
-/

namespace Mandate.Luhn

/-- The decimal digits of a text, in order. -/
def digits (cs : List Char) : List Nat :=
  (cs.filter Char.isDigit).map fun c => c.toNat - '0'.toNat

/-- What a digit in a doubled place counts. -/
def doubled (d : Nat) : Nat :=
  if 9 < 2 * d then 2 * d - 9 else 2 * d

/-- The weighted sum of digits given from the right. -/
def weightedSum : List Nat → Nat
  | [] => 0
  | [d] => d
  | d :: e :: ds => d + doubled e + weightedSum ds

/-- Whether a text holds the digits of a card number. -/
def isValid (cs : List Char) : Bool :=
  let ds := digits cs
  13 ≤ ds.length && ds.length ≤ 19 && weightedSum ds.reverse % 10 == 0

end Mandate.Luhn
