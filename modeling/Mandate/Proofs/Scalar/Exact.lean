import Mandate.Proofs.Scalar.Comparison
import Mathlib.Algebra.Order.Field.Rat
import Mathlib.Data.Rat.Floor
import Mathlib.Tactic.NormNum

/-!
# Exact numbers

Rational numbers, the two infinities and a value that is not a number, calculated with without
rounding. Formulas over scalars are reasoned about over these numbers. There is one zero, and a
quotient by it counts as one by a positive number.
-/

namespace Mandate

/-- A rational number, an infinity, negative when the flag is set, or not a number. -/
inductive Exact where
  | finite (q : ℚ)
  | infinite (negative : Bool)
  | undefined
deriving DecidableEq

/-- What exact numbers leave open: the binary logarithm, which is rational for few of them, and how
they are written. -/
class ExactContext where
  log2 : Exact → Exact
  plain : Exact → String
  places : Nat → Exact → String

namespace Exact

/-! ## Arithmetic -/

def add : Exact → Exact → Exact
  | finite a, finite b => finite (a + b)
  | infinite s, infinite t => if s = t then infinite s else undefined
  | infinite s, finite _ => infinite s
  | finite _, infinite t => infinite t
  | _, _ => undefined

def neg : Exact → Exact
  | finite a => finite (-a)
  | infinite s => infinite !s
  | undefined => undefined

def mul : Exact → Exact → Exact
  | finite a, finite b => finite (a * b)
  | infinite s, infinite t => infinite (s != t)
  | infinite s, finite b => if b = 0 then undefined else infinite (s != decide (b < 0))
  | finite a, infinite t => if a = 0 then undefined else infinite (decide (a < 0) != t)
  | _, _ => undefined

def div : Exact → Exact → Exact
  | finite a, finite b =>
    if b ≠ 0 then finite (a / b)
    else if a = 0 then undefined
    else infinite (decide (a < 0))
  | infinite s, finite b => infinite (s != decide (b < 0))
  | finite _, infinite _ => finite 0
  | _, _ => undefined

/-- The first number is at most the second. Nothing is at most what is not a number. -/
def le : Exact → Exact → Prop
  | finite a, finite b => a ≤ b
  | infinite s, finite _ => s = true
  | finite _, infinite t => t = false
  | infinite s, infinite t => s = true ∨ t = false
  | _, _ => False

def lt (a b : Exact) : Prop :=
  a.le b ∧ ¬ b.le a

instance : DecidableRel le
  | finite a, finite b => inferInstanceAs (Decidable (a ≤ b))
  | infinite s, finite _ => inferInstanceAs (Decidable (s = true))
  | finite _, infinite t => inferInstanceAs (Decidable (t = false))
  | infinite s, infinite t => inferInstanceAs (Decidable (s = true ∨ t = false))
  | undefined, _ => inferInstanceAs (Decidable False)
  | finite _, undefined => inferInstanceAs (Decidable False)
  | infinite _, undefined => inferInstanceAs (Decidable False)

instance : DecidableRel lt := fun _ _ => inferInstanceAs (Decidable (_ ∧ _))

/-- The number that is written as `digits · 10 ^ exponent`. -/
def ofDecimal (negative : Bool) (digits : Nat) (exponent : Int) : Exact :=
  finite ((if negative then -1 else 1) * digits * 10 ^ exponent)

/-- The whole part as a 64-bit count. -/
def toCount : Exact → Nat
  | finite q => min ⌊q⌋₊ (2 ^ 64 - 1)
  | infinite false => 2 ^ 64 - 1
  | _ => 0

def isFinite : Exact → Bool
  | finite _ => true
  | _ => false

def isNaN : Exact → Bool
  | undefined => true
  | _ => false

/-- The nearest number of the unit interval. -/
def nearest : Exact → ℚ
  | finite q => min 1 (max 0 q)
  | infinite negative => if negative then 0 else 1
  | undefined => 0

theorem nearest_nonneg (a : Exact) : 0 ≤ a.nearest := by
  cases a with
  | finite q => exact le_min zero_le_one (le_max_left 0 q)
  | infinite negative => cases negative <;> simp [nearest]
  | undefined => exact le_rfl

theorem nearest_le_one (a : Exact) : a.nearest ≤ 1 := by
  cases a with
  | finite q => exact min_le_left 1 _
  | infinite negative => cases negative <;> simp [nearest]
  | undefined => exact zero_le_one

instance [ExactContext] : Scalar Exact where
  add := add
  sub a b := a.add b.neg
  mul := mul
  div := div
  le := le
  lt := lt
  decidableLE := inferInstanceAs (DecidableRel le)
  decidableLT := inferInstanceAs (DecidableRel lt)
  ofDecimal := ofDecimal
  isFinite := isFinite
  isNaN := isNaN
  undefined := undefined
  infinity := infinite
  log2 := ExactContext.log2
  toCount := toCount
  plain := ExactContext.plain
  places := ExactContext.places

variable [ExactContext] {a b c : Exact} {p q : ℚ}

/-! ## Rational numbers among them -/

@[simp] theorem finite_le_finite : finite p ≤ finite q ↔ p ≤ q := Iff.rfl

@[simp] theorem finite_lt_finite : finite p < finite q ↔ p < q :=
  (and_iff_right_of_imp fun h => (not_le.1 h).le).trans not_le

@[simp] theorem finite_add_finite : finite p + finite q = finite (p + q) := rfl

@[simp] theorem finite_mul_finite : finite p * finite q = finite (p * q) := rfl

@[simp] theorem finite_sub_finite : finite p - finite q = finite (p - q) :=
  congrArg finite (sub_eq_add_neg p q).symm

theorem finite_div_finite (h : q ≠ 0) : finite p / finite q = finite (p / q) :=
  if_pos h

@[simp] theorem isFinite_finite : Scalar.isFinite (finite q) = true := rfl

@[simp] theorem isNaN_finite : Scalar.isNaN (finite q) = false := rfl

@[simp] theorem ofScientific_eq (digits : Nat) (isNegative : Bool) (exponent : Nat) :
    (OfScientific.ofScientific digits isNegative exponent : Exact) =
      finite (OfScientific.ofScientific digits isNegative exponent) := by
  rw [Rat.ofScientific_def']
  refine congrArg finite ?_
  simp only [Bool.false_eq_true, if_false, one_mul]

@[simp] theorem ofNat_eq (n : Nat) : (Scalar.ofNat n : Exact) = finite n := by
  refine congrArg finite ?_
  simp only [Bool.false_eq_true, if_false, one_mul, zpow_zero, mul_one]

theorem zero_eq : (0.0 : Exact) = finite 0 := by norm_num

theorem one_eq : (1.0 : Exact) = finite 1 := by norm_num

theorem isFinite_iff : Scalar.isFinite a = true ↔ ∃ q, a = finite q := by
  cases a with
  | finite q => exact iff_of_true rfl ⟨q, rfl⟩
  | infinite s => exact iff_of_false nofun nofun
  | undefined => exact iff_of_false nofun nofun

/-! ## Sums -/

theorem foldl_add_finite (q : ℚ) (qs : List ℚ) :
    (qs.map finite).foldl (· + ·) (finite q) = finite (q + qs.sum) := by
  induction qs generalizing q with
  | nil => simp
  | cons r qs ih =>
      rw [List.map_cons, List.foldl_cons, finite_add_finite, ih, List.sum_cons, add_assoc]

theorem sum_map_finite (qs : List ℚ) : Scalar.sum (qs.map finite) = finite qs.sum := by
  cases qs with
  | nil => exact zero_eq
  | cons q qs => rw [List.map_cons, Scalar.sum, foldl_add_finite, List.sum_cons]

theorem undefined_add (a : Exact) : undefined + a = undefined := by
  cases a <;> rfl

theorem add_undefined (a : Exact) : a + undefined = undefined := by
  cases a <;> rfl

theorem foldl_add_undefined (xs : List Exact) : xs.foldl (· + ·) undefined = undefined := by
  induction xs with
  | nil => rfl
  | cons x xs ih => rw [List.foldl_cons, undefined_add, ih]

theorem foldl_add_of_mem {xs : List Exact} (h : undefined ∈ xs) (a : Exact) :
    xs.foldl (· + ·) a = undefined := by
  induction xs generalizing a with
  | nil => cases h
  | cons x xs ih =>
      rw [List.foldl_cons]
      rcases List.mem_cons.1 h with rfl | hmem
      · rw [add_undefined, foldl_add_undefined]
      · exact ih hmem _

theorem sum_of_mem {xs : List Exact} (h : undefined ∈ xs) : Scalar.sum xs = undefined := by
  cases xs with
  | nil => cases h
  | cons x xs =>
      rw [Scalar.sum]
      rcases List.mem_cons.1 h with rfl | hmem
      · exact foldl_add_undefined xs
      · exact foldl_add_of_mem hmem x

/-! ## Order -/

@[simp] theorem infinite_le_finite {s : Bool} : infinite s ≤ finite q ↔ s = true := Iff.rfl

@[simp] theorem finite_le_infinite {t : Bool} : finite p ≤ infinite t ↔ t = false := Iff.rfl

@[simp] theorem infinite_le_infinite {s t : Bool} :
    infinite s ≤ infinite t ↔ s = true ∨ t = false := Iff.rfl

@[simp] theorem not_undefined_le : ¬ undefined ≤ a := id

@[simp] theorem not_le_undefined : ¬ a ≤ undefined := by
  cases a <;> exact id

protected theorem le_refl (h : Scalar.isNaN a = false) : a ≤ a := by
  cases a with
  | finite q => exact le_refl q
  | infinite s => cases s <;> simp
  | undefined => cases h

protected theorem le_trans (h : a ≤ b) (g : b ≤ c) : a ≤ c := by
  rcases a with p | s | _ <;> rcases b with q | t | _ <;> rcases c with r | u | _ <;>
    simp only [finite_le_finite, infinite_le_finite, finite_le_infinite, infinite_le_infinite,
      not_undefined_le, not_le_undefined] at h g ⊢ <;> grind

theorem le_of_not_le (ha : Scalar.isNaN a = false) (hb : Scalar.isNaN b = false) (h : ¬ a ≤ b) :
    b ≤ a := by
  cases a with
  | finite p =>
      cases b with
      | finite q => exact (not_le.1 (mt finite_le_finite.2 h)).le
      | infinite t => simpa using h
      | undefined => cases hb
  | infinite s =>
      cases b with
      | finite q => simpa using h
      | infinite t =>
          rw [infinite_le_infinite, not_or] at h
          exact Or.inr (Bool.eq_false_iff.2 h.1)
      | undefined => cases hb
  | undefined => cases ha

theorem isNaN_iff : Scalar.isNaN a = true ↔ a = undefined := by
  cases a with
  | finite q => exact iff_of_false nofun nofun
  | infinite s => exact iff_of_false nofun nofun
  | undefined => exact iff_of_true rfl rfl

instance : Scalar.LawfulComparison Exact where
  not_le_iff a b := by
    constructor
    · intro h
      cases ha : Scalar.isNaN a with
      | true => exact Or.inl rfl
      | false =>
          cases hb : Scalar.isNaN b with
          | true => exact Or.inr (Or.inl rfl)
          | false => exact Or.inr (Or.inr ⟨le_of_not_le ha hb h, h⟩)
    · rintro (ha | hb | h)
      · rw [isNaN_iff.1 ha]
        exact not_undefined_le
      · rw [isNaN_iff.1 hb]
        exact not_le_undefined
      · exact h.2

theorem exists_finite_of_le_of_le (h : finite p ≤ a) (g : a ≤ finite q) :
    ∃ x, a = finite x ∧ p ≤ x ∧ x ≤ q := by
  cases a with
  | finite x => exact ⟨x, rfl, h, g⟩
  | infinite s =>
      rw [finite_le_infinite] at h
      rw [infinite_le_finite, h] at g
      cases g
  | undefined => cases not_le_undefined h

/-! ## Numbers of the unit interval -/

/-- A number from zero to one. -/
def InUnit (a : Exact) : Prop :=
  0.0 ≤ a ∧ a ≤ 1.0

theorem inUnit_finite_iff : (finite q).InUnit ↔ 0 ≤ q ∧ q ≤ 1 := by
  rw [InUnit, zero_eq, one_eq, finite_le_finite, finite_le_finite]

theorem inUnit_iff : a.InUnit ↔ ∃ q, a = finite q ∧ 0 ≤ q ∧ q ≤ 1 := by
  constructor
  · rintro ⟨hlow, hhigh⟩
    rw [zero_eq] at hlow
    rw [one_eq] at hhigh
    exact exists_finite_of_le_of_le hlow hhigh
  · rintro ⟨q, rfl, hq⟩
    exact inUnit_finite_iff.2 hq

theorem inUnit_zero : (0.0 : Exact).InUnit := by
  rw [zero_eq]
  exact inUnit_finite_iff.2 ⟨le_rfl, zero_le_one⟩

theorem inUnit_one : (1.0 : Exact).InUnit := by
  rw [one_eq]
  exact inUnit_finite_iff.2 ⟨zero_le_one, le_rfl⟩

theorem share_eq {part whole : Nat} (h : 0 < whole) :
    (Scalar.share part whole : Exact) = finite (part / whole) := by
  rw [Scalar.share, ofNat_eq, ofNat_eq, finite_div_finite (Nat.cast_ne_zero.2 h.ne')]

/-! ## Bounds -/

theorem clamp_finite (x lo hi : ℚ) :
    Scalar.clamp (finite x) (finite lo) (finite hi) = finite (min hi (max lo x)) := by
  simp only [Scalar.clamp, finite_lt_finite, ← apply_ite finite]
  congr 1
  grind

theorem clamp_unit (h : Scalar.isNaN a = false) : Scalar.clamp a 0.0 1.0 = finite a.nearest := by
  rw [zero_eq, one_eq]
  cases a with
  | finite q => exact clamp_finite q 0 1
  | infinite negative => cases negative <;> rfl
  | undefined => cases h

theorem clamp_undefined : Scalar.clamp undefined (0.0 : Exact) 1.0 = undefined := by
  rw [zero_eq, one_eq]
  rfl

theorem magnitude_finite (x : ℚ) : Scalar.magnitude (finite x) = finite |x| := by
  rw [Scalar.magnitude, zero_eq]
  simp only [finite_lt_finite, finite_sub_finite, zero_sub, ← apply_ite finite]
  congr 1
  split
  next h => exact (abs_of_neg h).symm
  next h => exact (abs_of_nonneg (not_lt.1 h)).symm

/-- The number, raised to a floor if there is one. -/
def raised (a : Exact) (floor : Option Exact) : Exact :=
  (floor.map (Scalar.greatest a)).getD a

theorem greatest_le_iff (ha : Scalar.isNaN a = false) (hb : Scalar.isNaN b = false) :
    Scalar.greatest a b ≤ c ↔ a ≤ c ∧ b ≤ c := by
  rw [Scalar.greatest, if_neg (Bool.eq_false_iff.1 ha), if_neg (Bool.eq_false_iff.1 hb)]
  split
  next h => exact ⟨fun g => ⟨g, Exact.le_trans h g⟩, And.left⟩
  next h => exact ⟨fun g => ⟨Exact.le_trans (le_of_not_le hb ha h) g, g⟩, And.right⟩

theorem raised_le_iff {floor : Option Exact} (ha : Scalar.isNaN a = false)
    (hfloor : ∀ f ∈ floor, Scalar.isNaN f = false) :
    raised a floor ≤ c ↔ a ≤ c ∧ ∀ f ∈ floor, f ≤ c := by
  cases floor with
  | none => exact (and_iff_left nofun).symm
  | some f => simpa [raised] using greatest_le_iff ha (hfloor f rfl)

theorem least_finite (p q : ℚ) : Scalar.least (finite p) (finite q) = finite (min p q) := by
  simp only [Scalar.least, isNaN_finite, finite_le_finite, Bool.false_eq_true, if_false, min_def,
    apply_ite finite]

theorem greatest_finite (p q : ℚ) :
    Scalar.greatest (finite p) (finite q) = finite (max p q) := by
  simp only [Scalar.greatest, isNaN_finite, finite_le_finite, Bool.false_eq_true, if_false,
    max_comm p, max_def, apply_ite finite]

theorem least_le_left (ha : Scalar.isNaN a = false) : Scalar.least a b ≤ a := by
  rw [Scalar.least, if_neg (Bool.eq_false_iff.1 ha)]
  split
  next => exact Exact.le_refl ha
  next hb =>
    split
    next => exact Exact.le_refl ha
    next h => exact le_of_not_le ha (Bool.eq_false_iff.2 hb) h

theorem least_le_right (hb : Scalar.isNaN b = false) : Scalar.least a b ≤ b := by
  rw [Scalar.least]
  split
  · exact Exact.le_refl hb
  · rw [if_neg (Bool.eq_false_iff.1 hb)]
    split
    next h => exact h
    next => exact Exact.le_refl hb

theorem le_least (ha : c ≤ a) (hb : c ≤ b) : c ≤ Scalar.least a b := by
  rw [Scalar.least, if_neg (Bool.eq_false_iff.1 (Scalar.isNaN_eq_false_of_le ha).2),
    if_neg (Bool.eq_false_iff.1 (Scalar.isNaN_eq_false_of_le hb).2)]
  split
  · exact ha
  · exact hb

theorem least_mono (h : a ≤ b) (hc : Scalar.isNaN c = false) :
    Scalar.least a c ≤ Scalar.least b c :=
  le_least (Exact.le_trans (least_le_left (Scalar.isNaN_eq_false_of_le h).1) h) (least_le_right hc)

end Exact
end Mandate
