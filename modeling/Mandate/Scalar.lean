/-!
# Scalars

Scores, weights, thresholds and confidences are numbers with the operations of this module and no
others. Every formula of the library is written once, over any `Scalar`: it runs on binary floating
point and can be reasoned about over exact numbers extended by the infinities and not-a-number.

Comparisons are partial: nothing is at most or at least a value that is not a number.
-/

namespace Mandate

/-- A number type that formulas are evaluated in. -/
class Scalar (F : Type) extends Add F, Sub F, Mul F, Div F, LE F, LT F where
  decidableLE : DecidableLE F
  decidableLT : DecidableLT F
  /-- The number nearest to `digits · 10 ^ exponent`, negated when the flag is set. -/
  ofDecimal : Bool → Nat → Int → F
  /-- Neither infinite nor undefined. -/
  isFinite : F → Bool
  /-- The result of an undefined operation. -/
  isNaN : F → Bool
  /-- A value that is not a number. -/
  undefined : F
  /-- The infinity of the given sign, negative when the flag is set. -/
  infinity : Bool → F
  /-- Binary logarithm. -/
  log2 : F → F
  /-- The whole part as a 64-bit count; negative and undefined values count as zero. -/
  toCount : F → Nat
  /-- The shortest decimal text that reads back, never with an exponent. -/
  plain : F → String
  /-- Decimal text with the given number of places, a half going to the even digit. -/
  places : Nat → F → String

namespace Scalar

variable {F : Type} [Scalar F]

instance : DecidableLE F := decidableLE

instance : DecidableLT F := decidableLT

instance (priority := low) : OfScientific F :=
  ⟨fun digits isNegative exponent =>
    ofDecimal false digits (if isNegative then -(exponent : Int) else exponent)⟩

/-- A whole number as a scalar. -/
def ofInt (n : Int) : F :=
  ofDecimal (decide (n < 0)) n.natAbs 0

def ofNat (n : Nat) : F :=
  ofDecimal false n 0

/-- One for true and zero for false. -/
def indicator (b : Bool) : F :=
  if b then 1.0 else 0.0

/-- Equality of numbers: the two zeros agree, and an undefined value differs from itself. -/
def same (a b : F) : Bool :=
  decide (a ≤ b) && decide (b ≤ a)

/-- The smaller of two numbers; an undefined one gives way to the other. -/
def least (a b : F) : F :=
  if isNaN a then b else if isNaN b then a else if a ≤ b then a else b

/-- The larger of two numbers; an undefined one gives way to the other. -/
def greatest (a b : F) : F :=
  if isNaN a then b else if isNaN b then a else if b ≤ a then a else b

/-- The number brought into `[lo, hi]`; an undefined one stays undefined. -/
def clamp (x lo hi : F) : F :=
  let raised := if x < lo then lo else x
  if hi < raised then hi else raised

def magnitude (x : F) : F :=
  if x < 0.0 then 0.0 - x else x

/-- The number times itself. -/
def square (x : F) : F :=
  x * x

/-- Sum of a list from left to right, started at its first member. -/
def sum : List F → F
  | [] => 0.0
  | x :: xs => xs.foldl (· + ·) x

/-- The share `part / whole` of two counts. -/
def share (part whole : Nat) : F :=
  ofNat part / ofNat whole

/-- The shortest text that reads back, with a point in it: a whole number has a zero behind its
point. -/
def pointed (x : F) : String :=
  let s := plain x
  if s.toList.contains '.' then s else s ++ ".0"

/-- Exceeds the limit; an undefined value exceeds every limit. -/
def exceeds (value limit : F) : Bool :=
  !decide (value ≤ limit)

end Scalar
end Mandate
