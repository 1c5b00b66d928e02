import Mandate.Scalar
import Mandate.Decimal.Shortest

/-!
# Binary floating point as a scalar

Double precision numbers are the scalars that the program computes with. Their texts are built from
the bits of the number in exact whole-number arithmetic.
-/

namespace Mandate.Binary64

/-- Whether the sign bit is set. -/
def isNegative (x : Float) : Bool :=
  x.toBits >>> 63 == 1

/-- The magnitude of a finite number. -/
def magnitude (x : Float) : Decimal.Binary :=
  let bits := x.toBits
  let biased := ((bits >>> 52) &&& 0x7ff).toNat
  let fraction := (bits &&& 0xfffffffffffff).toNat
  if biased = 0 then ⟨fraction, -1074, false⟩
  else ⟨(1 <<< 52) + fraction, biased - 1075, fraction = 0 && biased > 1⟩

/-- The nearest number to `digits · 10 ^ exponent`. Exponents out of all range are settled by the
count of digits, so that no power of that size is computed. -/
def ofDecimal (negative : Bool) (digits : Nat) (exponent : Int) : Float :=
  let reach : Int := (Nat.toDigits 10 digits).length + exponent
  let x : Float :=
    if digits = 0 ∨ reach < -330 then 0.0
    else if reach > 320 then 1.0 / 0.0
    else if exponent < 0 then Float.ofScientific digits true exponent.natAbs
    else Float.ofScientific digits false exponent.natAbs
  if negative then -x else x

/-- The text of a number whose finite magnitude is written by `write`. -/
def text (x : Float) (write : Decimal.Binary → List Char) : String :=
  if x.isNaN then "NaN"
  else
    let body := if x.isInf then "inf".toList else write (magnitude x)
    String.ofList (if isNegative x then '-' :: body else body)

/-- The shortest text that reads back, without an exponent. -/
def plain (x : Float) : String :=
  text x fun m => if m.mantissa = 0 then ['0'] else (Decimal.shortest m).positional

/-- The text with a fixed count of decimal places. -/
def places (n : Nat) (x : Float) : String :=
  text x fun m => Decimal.fixed (Decimal.rounded m n) n

instance : Scalar Float where
  decidableLE := inferInstance
  decidableLT := inferInstance
  ofDecimal := ofDecimal
  isFinite := Float.isFinite
  isNaN := Float.isNaN
  undefined := 0.0 / 0.0
  infinity negative := if negative then -(1.0 / 0.0) else 1.0 / 0.0
  log2 := Float.log2
  toCount x := x.toUInt64.toNat
  plain := plain
  places := places

end Mandate.Binary64
