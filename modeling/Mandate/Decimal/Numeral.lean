/-!
# Numerals

Reads the text of a decimal number. A numeral is an optional sign, then digits with at most one
point among or around them, then an optional exponent; or one of the words for an infinite or
undefined number.
-/

namespace Mandate.Decimal

/-- What the text of a number says, before any rounding. -/
inductive Numeral where
  /-- `digits · 10 ^ exponent`, negated when the flag is set. -/
  | finite (negative : Bool) (digits : Nat) (exponent : Int)
  | infinite (negative : Bool)
  | undefined
deriving DecidableEq

/-- The value of a run of decimal digits, read on from `start`. -/
def digitsFrom (start : Nat) (cs : List Char) : Nat :=
  cs.foldl (fun n c => 10 * n + (c.toNat - '0'.toNat)) start

def digitsValue (cs : List Char) : Nat :=
  digitsFrom 0 cs

/-- Splits a leading sign off; the flag says that it was a minus. -/
def splitSign : List Char → Bool × List Char
  | '-' :: cs => (true, cs)
  | '+' :: cs => (false, cs)
  | cs => (false, cs)

/-- The exponent that follows the digits; none when the text is no exponent. -/
def exponentPart : List Char → Option Int
  | [] => some 0
  | e :: cs =>
    let (negative, ds) := splitSign cs
    if (e = 'e' ∨ e = 'E') ∧ ds ≠ [] ∧ ds.all Char.isDigit then
      some (if negative then -(digitsValue ds : Int) else digitsValue ds)
    else none

/-- The unsigned part of a numeral: digits, perhaps a point, perhaps an exponent. -/
def unsigned (negative : Bool) (cs : List Char) : Option Numeral :=
  let whole := cs.takeWhile Char.isDigit
  let rest := cs.dropWhile Char.isDigit
  let (part, rest) := match rest with
    | '.' :: more => (more.takeWhile Char.isDigit, more.dropWhile Char.isDigit)
    | _ => ([], rest)
  if whole = [] ∧ part = [] then none
  else do
    let e ← exponentPart rest
    return .finite negative (digitsFrom (digitsValue whole) part) (e - part.length)

/-- Reads the text of a number, the words of the special values in any letter case. -/
def Numeral.read? (text : String) : Option Numeral :=
  let (negative, cs) := splitSign text.toList
  match String.ofList (cs.map Char.toLower) with
  | "inf" | "infinity" => some (.infinite negative)
  | "nan" => some .undefined
  | _ => unsigned negative cs

end Mandate.Decimal
