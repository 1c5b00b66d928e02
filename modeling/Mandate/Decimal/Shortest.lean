/-!
# The shortest decimal that reads back

A binary number `mantissa · 2 ^ exponent` stands for every real number that rounds to it. This
module finds, for such a number, the decimal of fewest digits among them, and of several of that
length the one nearest to the number.
-/

namespace Mandate.Decimal

/-- The positive number `mantissa · 2 ^ exponent`. -/
structure Binary where
  mantissa : Nat
  exponent : Int
  /-- The neighbour below is half as far away as the neighbour above. -/
  atBoundary : Bool
deriving DecidableEq

/-- The positive number `digits · 10 ^ exponent`. -/
structure Scientific where
  digits : Nat
  exponent : Int
deriving DecidableEq

/-- The numerator and denominator of `n · base ^ e`. -/
def scaled (base n : Nat) (e : Int) : Nat × Nat :=
  if e < 0 then (n, Nat.pow base e.natAbs) else (n * Nat.pow base e.natAbs, 1)

def fractionLE (a b : Nat × Nat) : Bool :=
  a.1 * b.2 ≤ b.1 * a.2

/-- The largest `e`, near an estimate, with `10 ^ e` at most the number. -/
def magnitude (x : Binary) : Int :=
  let value := scaled 2 x.mantissa x.exponent
  let estimate := ((x.mantissa.log2 : Int) + x.exponent) * 30103 / 100000
  let least := [estimate + 2, estimate + 1, estimate, estimate - 1].find? fun e =>
    fractionLE (scaled 10 1 e) value
  least.getD (estimate - 2)

/-- Whether the decimal lies among the reals that round to the binary number. -/
def readsBack (x : Binary) (d : Scientific) : Bool :=
  let low := scaled 2 (4 * x.mantissa - if x.atBoundary then 1 else 2) (x.exponent - 2)
  let high := scaled 2 (4 * x.mantissa + 2) (x.exponent - 2)
  let value := scaled 10 d.digits d.exponent
  fractionLE low value && fractionLE value high
    && (x.mantissa % 2 == 0 || !(fractionLE value low || fractionLE high value))

/-- Of the multiples of `10 ^ exponent` next to the number, the nearest that reads back. -/
def onGrid? (x : Binary) (exponent : Int) : Option Scientific :=
  let (n, d) := scaled 2 x.mantissa x.exponent
  let (gn, gd) := scaled 10 1 exponent
  let num := n * gd
  let den := d * gn
  let below : Scientific := ⟨num / den, exponent⟩
  let above : Scientific := ⟨num / den + 1, exponent⟩
  let order := if 2 * (num % den) < den then [below, above] else [above, below]
  order.find? fun s => s.digits ≠ 0 && readsBack x s

/-- The shortest decimal that reads back, found on the first of the grids of 1, 2, … 17 digits
that has one. -/
def shortest (x : Binary) : Scientific :=
  let top := magnitude x
  ((List.range 17).findSome? fun (k : Nat) => onGrid? x (top - k)).getD ⟨x.mantissa, 0⟩

/-- The number as a count of steps of `10 ^ -places`, a half going to the even neighbour. -/
def rounded (x : Binary) (places : Nat) : Nat :=
  let (n, den) := scaled 2 (x.mantissa * Nat.pow 10 places) x.exponent
  let q := n / den
  let r := 2 * (n % den)
  if den < r || (r == den && q % 2 == 1) then q + 1 else q

/-- Digits without the zeros at their end, and how many zeros were dropped. -/
def dropTrailingZeros (digits : Nat) : List Char × Nat :=
  let cs := (Nat.toDigits 10 digits).reverse
  let zeros := (cs.takeWhile (· == '0')).length
  ((cs.drop zeros).reverse, zeros)

/-- Positional text of a positive decimal, with no exponent and no superfluous zero. -/
def Scientific.positional (s : Scientific) : List Char :=
  let (digits, zeros) := dropTrailingZeros s.digits
  let point : Int := digits.length + (s.exponent + zeros)
  if point ≤ 0 then
    ['0', '.'] ++ List.replicate point.natAbs '0' ++ digits
  else if digits.length ≤ point.natAbs then
    digits ++ List.replicate (point.natAbs - digits.length) '0'
  else
    digits.take point.natAbs ++ '.' :: digits.drop point.natAbs

/-- Text of a count of steps of `10 ^ -places`, with exactly that many places. -/
def fixed (steps places : Nat) : List Char :=
  let whole := Nat.toDigits 10 (steps / Nat.pow 10 places)
  let part := Nat.toDigits 10 (steps % Nat.pow 10 places)
  if places = 0 then whole
  else whole ++ '.' :: (List.replicate (places - part.length) '0' ++ part)

end Mandate.Decimal
