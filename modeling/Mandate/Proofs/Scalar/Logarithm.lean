import Mandate.Proofs.Scalar.Exact
import Mathlib.Data.Int.Log

/-!
# Binary logarithms

Exact numbers leave the binary logarithm open. What a threshold relies on is that it is zero at one
and rises from there.
-/

namespace Mandate.Exact

/-- The binary logarithm is zero at one and never falls. -/
class LawfulLog2 [ExactContext] : Prop where
  log2_one : Scalar.log2 (finite 1) = finite 0
  log2_mono {p q : ℚ} : 0 < p → p ≤ q → Scalar.log2 (finite p) ≤ Scalar.log2 (finite q)

theorem log2_nonneg [ExactContext] [LawfulLog2] {q : ℚ} (h : 1 ≤ q) :
    finite 0 ≤ Scalar.log2 (finite q) := by
  rw [← LawfulLog2.log2_one]
  exact LawfulLog2.log2_mono one_pos h

/-! ## Whole logarithms -/

/-- A number in words. -/
def text : Exact → String
  | finite q => toString q
  | infinite true => "-inf"
  | infinite false => "inf"
  | undefined => "NaN"

/-- The logarithm cut to a whole number, which is exact for the powers of two. -/
def wholeLog2 : Exact → Exact
  | finite q => if 0 < q then finite (Int.log 2 q) else if q = 0 then infinite true else undefined
  | infinite false => infinite false
  | _ => undefined

theorem wholeLog2_of_pos {q : ℚ} (h : 0 < q) : wholeLog2 (finite q) = finite (Int.log 2 q) :=
  if_pos h

theorem wholeLog2_mono {p q : ℚ} (hp : 0 < p) (h : p ≤ q) :
    (wholeLog2 (finite p)).le (wholeLog2 (finite q)) := by
  rw [wholeLog2_of_pos hp, wholeLog2_of_pos (hp.trans_le h)]
  exact Int.cast_le.2 (Int.log_mono_right hp h)

namespace Whole

scoped instance : ExactContext where
  log2 := wholeLog2
  plain := text
  places _ := text

scoped instance : LawfulLog2 where
  log2_one := by
    refine (wholeLog2_of_pos one_pos).trans ?_
    rw [Int.log_one_right, Int.cast_zero]
  log2_mono := wholeLog2_mono

end Whole

end Mandate.Exact
