import Mandate.Proofs.Scalar.Comparison
import Mandate.Proofs.Scalar.Rounding

/-!
# Zero among binary numbers

There are two zeros, and a product with zero has the sign of the other factor. What is scored by
accepted settings stays at the positive zero all the same: a share of nothing (`share_zero`), a mean
of zeros (`weighed_zero`) and a running mean of zeros (`smoothed_zero`) are that zero.
-/

namespace Mandate.Binary64

open Float.Model Float.Model.UnpackedFloat

/-! ## Positive numbers -/

theorem zero_lt_iff {x : Float} :
    0.0 < x ↔ x.toModel.unpack = .infinity .positive ∨
      ∃ m e h, x.toModel.unpack = .finite .positive m e h := by
  have hzero : (0.0 : Float).toModel.unpack = .zero .positive := rfl
  rw [lt_iff_compare, hzero]
  rcases x.toModel.unpack with (_ | _) | _ | (_ | _) | ⟨_ | _, m, e, h⟩ <;>
    simp [UnpackedFloat.compare]
  exact h

theorem zero_div_of_pos {x : Float} (h : 0.0 < x) : 0.0 / x = 0.0 := by
  have hdiv : 0.0 / x =
      .ofModel (.pack (UnpackedFloat.div Format.binary64 (.zero .positive) x.toModel.unpack)) := rfl
  rw [hdiv]
  rcases zero_lt_iff.1 h with hx | ⟨m, e, hm, hx⟩ <;>
  · rw [hx]
    rfl

theorem zero_lt_pack_finite {n : Nat} {d : Int} (h : 0 < n) (hn : n < 2 ^ 53) (hd : -1074 ≤ d) :
    0.0 < Float.ofModel (.pack (.finite .positive n d h)) := by
  rcases unpack_pack_finite .positive h hn hd with ⟨hx, _⟩ | hx
  · exact zero_lt_iff.2 (Or.inl hx)
  · exact zero_lt_iff.2 (Or.inr hx)

/-! ## Products with zero -/

theorem mul_zero_eq (x : Float) :
    x * 0.0 =
      .ofModel (.pack (UnpackedFloat.mul Format.binary64 x.toModel.unpack (.zero .positive))) :=
  rfl

theorem mul_zero_of_isFinite {x : Float} (h : Scalar.isFinite x = true) :
    x * 0.0 = 0.0 ∨ x * 0.0 = -0.0 := by
  have hfinite : x.toModel.unpack.isFinite = true := h
  rw [mul_zero_eq]
  generalize x.toModel.unpack = u at hfinite ⊢
  rcases u with (_ | _) | _ | (_ | _) | ⟨_ | _, m, e, hm⟩
  · cases hfinite
  · cases hfinite
  · cases hfinite
  · exact Or.inr rfl
  · exact Or.inl rfl
  · exact Or.inr rfl
  · exact Or.inl rfl

theorem mul_zero_of_pos {x : Float} (hfinite : Scalar.isFinite x = true) (hpos : 0.0 < x) :
    x * 0.0 = 0.0 := by
  have hfinite : x.toModel.unpack.isFinite = true := hfinite
  rw [mul_zero_eq]
  rcases zero_lt_iff.1 hpos with hx | ⟨m, e, h, hx⟩
  · rw [hx] at hfinite
    cases hfinite
  · rw [hx]
    rfl

/-- Only the negative zero is not below zero and yet has a negative product with zero. -/
theorem mul_zero_of_nonneg {x : Float} (hfinite : Scalar.isFinite x = true) (h : 0.0 ≤ x) :
    x * 0.0 = 0.0 ∨ x.toModel.unpack = .zero .negative := by
  have hfinite : x.toModel.unpack.isFinite = true := hfinite
  have hzero : (0.0 : Float).toModel.unpack = .zero .positive := rfl
  rw [le_iff_compare, hzero] at h
  rw [mul_zero_eq]
  generalize x.toModel.unpack = u at hfinite h ⊢
  rcases u with (_ | _) | _ | (_ | _) | ⟨_ | _, m, e, hm⟩
  · cases hfinite
  · cases hfinite
  · cases hfinite
  · exact Or.inr rfl
  · exact Or.inl rfl
  · cases h
  · exact Or.inl rfl

/-! ## Sums -/

theorem add_eq (x y : Float) :
    x + y =
      .ofModel (.pack (UnpackedFloat.add Format.binary64 x.toModel.unpack y.toModel.unpack)) :=
  rfl

/-- A sum of multiples of a power of two is zero or rounded to a number. -/
theorem exists_normalize_eq (m : Int) {e : Int} (he : -1074 ≤ e) (zero : Sign) :
    UnpackedFloat.normalize Format.binary64 m e zero = .zero zero ∨
      ∃ s n d h, UnpackedFloat.normalize Format.binary64 m e zero = .finite s n d h ∧
        n < 2 ^ 53 ∧ -1074 ≤ d ∧ d ≤ max (m.natAbs.log2 + e - 52) (-1074) + 1 := by
  unfold UnpackedFloat.normalize
  split
  next hm =>
    have hm : m < 0 := Int.compare_eq_lt.1 hm
    have hround := exists_round_eq .negative (m := (-m).toNat) (e := e) (by omega) (by omega)
    rw [show (-m).toNat = m.natAbs by omega] at hround ⊢
    exact Or.inr ⟨_, hround⟩
  next => exact Or.inl rfl
  next hm =>
    have hm : 0 < m := Int.compare_eq_gt.1 hm
    have hround := exists_round_eq .positive (m := m.toNat) (e := e) (by omega) (by omega)
    rw [show m.toNat = m.natAbs by omega] at hround ⊢
    exact Or.inr ⟨_, hround⟩

theorem isNaN_pack_finite (s : Sign) {n : Nat} {d : Int} (h : 0 < n) (hn : n < 2 ^ 53)
    (hd : -1074 ≤ d) : (Float.Model.pack (.finite s n d h)).unpack.isNaN = false := by
  rcases unpack_pack_finite s h hn hd with ⟨hx, _⟩ | ⟨_, _, _, hx⟩ <;>
  · rw [hx]
    rfl

theorem isNaN_pack_normalize (m : Int) {e : Int} (he : -1074 ≤ e) (zero : Sign) :
    (Float.Model.pack (UnpackedFloat.normalize Format.binary64 m e zero)).unpack.isNaN = false := by
  rcases exists_normalize_eq m he zero with h | ⟨s, n, d, hn, h, hfit, hlow, _⟩
  · rw [h, unpack_pack_zero]
    rfl
  · rw [h]
    exact isNaN_pack_finite s hn hfit hlow

/-- A finite number added to a number is a number, perhaps an infinite one. -/
theorem isNaN_add {x y : Float} (hx : Scalar.isNaN x = false) (hy : Scalar.isFinite y = true) :
    Scalar.isNaN (x + y) = false := by
  have hx : x.toModel.unpack.isNaN = false := hx
  have hy : y.toModel.unpack.isFinite = true := hy
  have hsum : Scalar.isNaN (x + y) =
      (Float.Model.pack (UnpackedFloat.add Format.binary64 x.toModel.unpack
        y.toModel.unpack)).unpack.isNaN := rfl
  rw [hsum]
  cases hu : x.toModel.unpack with
  | notANumber =>
      rw [hu] at hx
      cases hx
  | infinity s =>
      cases hv : y.toModel.unpack with
      | notANumber | infinity =>
          rw [hv] at hy
          cases hy
      | zero | finite => exact congrArg UnpackedFloat.isNaN (unpack_pack_infinity s)
  | zero s =>
      cases hv : y.toModel.unpack with
      | notANumber | infinity =>
          rw [hv] at hy
          cases hy
      | zero t => cases s <;> cases t <;> rfl
      | finite t m e h =>
          obtain ⟨hfit, hlow⟩ := unpack_finite_bounds hv
          exact isNaN_pack_finite t h hfit hlow
  | finite s m e h =>
      obtain ⟨hfit, hlow⟩ := unpack_finite_bounds hu
      cases hv : y.toModel.unpack with
      | notANumber | infinity =>
          rw [hv] at hy
          cases hy
      | zero t => exact isNaN_pack_finite s h hfit hlow
      | finite t n d g =>
          obtain ⟨_, hlow'⟩ := unpack_finite_bounds hv
          exact isNaN_pack_normalize _ (by omega) .positive

theorem isFinite_pack_normalize {m : Int} {e : Int} (he : -1074 ≤ e)
    (hm : m.natAbs.log2 + e ≤ 1022) (zero : Sign) :
    (Float.Model.pack (UnpackedFloat.normalize Format.binary64 m e zero)).unpack.isFinite =
      true := by
  rcases exists_normalize_eq m he zero with h | ⟨s, n, d, hn, h, hfit, hlow, hhigh⟩
  · rw [h, unpack_pack_zero]
    rfl
  · rw [h]
    rcases unpack_pack_finite s hn hfit hlow with ⟨_, hbig⟩ | ⟨_, _, _, hx⟩
    · omega
    · rw [hx]
      rfl

/-- One, unpacked. -/
def one : UnpackedFloat :=
  .finite .positive (2 ^ 52) (-52) (by decide)

/-- One and a smaller number are multiples of the power of two of the smaller exponent. -/
theorem one_sub_finite {m k : Nat} {e : Int} (h : 0 < m) (hk : (k : Int) = -52 - e) :
    UnpackedFloat.sub Format.binary64 one (.finite .positive m e h) =
      UnpackedFloat.normalize Format.binary64 ((2 ^ (52 + k) : Nat) - (m : Int)) e .positive := by
  have he : min (-52) e = e := Int.min_eq_right (by omega)
  change UnpackedFloat.normalize _ (((2 ^ 52 <<< (-52 - min (-52) e).toNat : Nat) : Int) -
    ((m <<< (e - min (-52) e).toNat : Nat) : Int)) (min (-52) e) _ = _
  rw [he, ← hk, Int.toNat_natCast, Int.sub_self, Nat.shiftLeft_eq, ← Nat.pow_add]
  rfl

theorem log2_natAbs_two_pow_sub_le {m : Nat} (hm : m < 2 ^ 53) (k : Nat) :
    ((2 ^ (52 + k) : Nat) - (m : Int)).natAbs.log2 ≤ 53 + k := by
  have hpow : 2 ^ 52 ≤ 2 ^ (52 + k) := Nat.pow_le_pow_right Nat.two_pos (by omega)
  have hbound : ((2 ^ (52 + k) : Nat) - (m : Int)).natAbs < 2 ^ (54 + k) := by
    rw [show 54 + k = 52 + k + 2 by omega, Nat.pow_add 2 (52 + k) 2]
    omega
  by_cases hne : ((2 ^ (52 + k) : Nat) - (m : Int)).natAbs = 0
  · rw [hne]
    exact Nat.zero_le _
  · have hlog := (Nat.log2_lt hne).2 hbound
    omega

/-- What a number of the unit interval leaves of one is finite. -/
theorem isFinite_one_sub {x : Float} (hfinite : Scalar.isFinite x = true) (hlow : 0.0 ≤ x)
    (hhigh : x ≤ 1.0) : Scalar.isFinite (1.0 - x) = true := by
  have hfinite : x.toModel.unpack.isFinite = true := hfinite
  have hzero : (0.0 : Float).toModel.unpack = .zero .positive := rfl
  have hone : (1.0 : Float).toModel.unpack = one := rfl
  have hsub : Scalar.isFinite (1.0 - x) =
      (Float.Model.pack (UnpackedFloat.sub Format.binary64 one
        x.toModel.unpack)).unpack.isFinite := rfl
  rw [le_iff_compare, hzero] at hlow
  rw [le_iff_compare, hone] at hhigh
  rw [hsub]
  cases hu : x.toModel.unpack with
  | notANumber | infinity =>
      rw [hu] at hfinite
      cases hfinite
  | zero s => cases s <;> rfl
  | finite s m e h =>
      cases s with
      | negative =>
          rw [hu] at hlow
          cases hlow
      | positive =>
          obtain ⟨hfit, hexp⟩ := unpack_finite_bounds hu
          have he : e ≤ -52 := by
            refine Int.not_lt.1 fun hlt => ?_
            rw [hu] at hhigh
            have hgt : compare e (-52) = .gt := Int.compare_eq_gt.2 hlt
            simp [one, UnpackedFloat.compare, hgt] at hhigh
          obtain ⟨k, hk⟩ : ∃ k : Nat, (k : Int) = -52 - e := ⟨_, Int.toNat_of_nonneg (by omega)⟩
          have hlog := log2_natAbs_two_pow_sub_le hfit k
          rw [one_sub_finite h hk]
          exact isFinite_pack_normalize hexp (by omega) .positive

/-! ## Means of zeros -/

/-- Three weights that have a positive sum weigh nothing to nothing. -/
theorem weighed_zero {a b c : Float} (ha : Scalar.isFinite a = true) (hb : Scalar.isFinite b = true)
    (hc : Scalar.isFinite c = true) (ha' : 0.0 ≤ a) (hb' : 0.0 ≤ b) (hc' : 0.0 ≤ c)
    (hsum : ¬ a + b + c ≤ 0.0) : (a * 0.0 + b * 0.0 + c * 0.0) / (a + b + c) = 0.0 := by
  have hpositive : 0.0 < a + b + c :=
    Scalar.lt_of_not_le (isNaN_add (isNaN_add (Scalar.isNaN_eq_false_of_le ha').2 hb) hc) rfl hsum
  have hnumerator : a * 0.0 + b * 0.0 + c * 0.0 = 0.0 := by
    have hzeros {x y z : Float} (hx : x = 0.0 ∨ x = -0.0) (hy : y = 0.0 ∨ y = -0.0)
        (hz : z = 0.0 ∨ z = -0.0) (h : x = 0.0 ∨ y = 0.0 ∨ z = 0.0) : x + y + z = 0.0 := by
      rcases hx with rfl | rfl <;> rcases hy with rfl | rfl <;> rcases hz with rfl | rfl <;>
        revert h <;> decide
    refine hzeros (mul_zero_of_isFinite ha) (mul_zero_of_isFinite hb) (mul_zero_of_isFinite hc) ?_
    rcases mul_zero_of_nonneg ha ha' with h | ha
    · exact Or.inl h
    rcases mul_zero_of_nonneg hb hb' with h | hb
    · exact Or.inr (Or.inl h)
    rcases mul_zero_of_nonneg hc hc' with h | hc
    · exact Or.inr (Or.inr h)
    -- Three negative zeros have a zero for their sum.
    refine absurd ?_ hsum
    rw [add_eq, hc, add_eq, ha, hb]
    decide
  rw [hnumerator]
  exact zero_div_of_pos hpositive

/-- A running mean of zeros is zero when the newest counts at all. -/
theorem smoothed_zero {x : Float} (hfinite : Scalar.isFinite x = true) (hlow : 0.0 ≤ x)
    (hhigh : x ≤ 1.0) (h : Scalar.same x 0.0 = false) : x * 0.0 + (1.0 - x) * 0.0 = 0.0 := by
  have hnot : ¬ x ≤ 0.0 := fun hle => by simp [Scalar.same, hlow, hle] at h
  have hpositive : 0.0 < x := Scalar.lt_of_not_le (Scalar.isNaN_eq_false_of_le hlow).2 rfl hnot
  rw [mul_zero_of_pos hfinite hpositive]
  rcases mul_zero_of_isFinite (isFinite_one_sub hfinite hlow hhigh) with h | h <;>
  · rw [h]
    decide

/-! ## Counts -/

theorem zero_lt_pack_roundWithAccuracy {m : Nat} {e : Int} (hm : 0 < m) (he : -1074 ≤ m.log2 + e) :
    0.0 < Float.ofModel (.pack (roundWithAccuracy Format.binary64 .positive m e .exact)) := by
  obtain ⟨n, d, hn, heq, hfit, hlow, _⟩ := exists_roundWithAccuracy_eq .positive hm he .exact
  rw [heq]
  exact zero_lt_pack_finite hn hfit hlow

/-- A positive number stays one when it is multiplied by one. -/
theorem zero_lt_mul_one {x : Float} (h : 0.0 < x) : 0.0 < x * 1.0 := by
  have hmul : x * 1.0 =
      .ofModel (.pack (UnpackedFloat.mul Format.binary64 x.toModel.unpack one)) := rfl
  rw [hmul]
  rcases zero_lt_iff.1 h with hx | ⟨m, e, hm, hx⟩
  · rw [hx]
    exact zero_lt_iff.2 (Or.inl (unpack_pack_infinity _))
  · obtain ⟨_, hlow⟩ := unpack_finite_bounds hx
    have hlog := log2_shiftLeft hm 52
    rw [Nat.shiftLeft_eq] at hlog
    rw [hx]
    exact zero_lt_pack_roundWithAccuracy (Nat.mul_pos hm (Nat.two_pow_pos 52)) (by omega)

theorem zero_lt_toFloat {n : UInt64} (h : 0 < n.toNat) : 0.0 < n.toFloat := by
  have hpositive : compare (n.toNat : Int) 0 = .gt := Int.compare_eq_gt.2 (by omega)
  have hround : n.toFloat =
      .ofModel (.pack (UnpackedFloat.normalize Format.binary64 n.toNat 0 .positive)) := rfl
  rw [hround, UnpackedFloat.normalize, hpositive]
  obtain ⟨m, d, hm, heq, hfit, hlow, _⟩ := exists_round_eq .positive (e := 0) h (by omega)
  simp only [Int.toNat_natCast, heq]
  exact zero_lt_pack_finite hm hfit hlow

theorem zero_lt_ofScientific {n : Nat} (h : 0 < n) : 0.0 < Float.ofScientific n false 0 := by
  unfold Float.ofScientific
  split
  next hsmall =>
    have hn : n.toUInt64.toNat = n := Nat.mod_eq_of_lt (Nat.lt_trans hsmall.1 (by decide))
    exact zero_lt_mul_one (zero_lt_toFloat (Nat.lt_of_lt_of_eq h hn.symm))
  next =>
    have hlog := log2_shiftLeft h 53
    have hpos : 0 < n <<< 53 := by
      rw [Nat.shiftLeft_eq]
      exact Nat.mul_pos h (Nat.two_pow_pos 53)
    have hmul : UnpackedFloat.ofScientific Format.binary64 n (Int.ofNat 0) =
        roundWithAccuracy Format.binary64 .positive (n <<< 53 * 1) (-53) .exact := by
      unfold UnpackedFloat.ofScientific
      have hreach : -((2 : Int) ^ Format.binary64.exponentBits + n.log2) ≤ Int.ofNat 0 :=
        Int.neg_nonpos_of_nonneg (Int.add_nonneg (by decide) (Int.natCast_nonneg _))
      rw [dif_neg (Nat.ne_of_gt h), if_neg (by decide), if_neg (Int.not_lt.2 hreach),
        if_pos (by decide)]
      rfl
    simp only [Bool.false_eq_true, if_false, Float.Model.ofScientific, hmul, Nat.mul_one]
    exact zero_lt_pack_roundWithAccuracy hpos (by omega)

theorem zero_lt_ofNat {n : Nat} (h : 0 < n) : 0.0 < (Scalar.ofNat n : Float) := by
  have hofNat : (Scalar.ofNat n : Float) = ofDecimal false n 0 := rfl
  have hinfinite : (0.0 : Float) < 1.0 / 0.0 := by decide
  rw [hofNat, ofDecimal]
  simp only [Bool.false_eq_true, if_false, Int.lt_irrefl]
  split
  next hnone => omega
  next =>
    split
    next => exact hinfinite
    next => exact zero_lt_ofScientific h

/-- The share of nothing. -/
theorem share_zero {n : Nat} (h : 0 < n) : (Scalar.share 0 n : Float) = 0.0 :=
  zero_div_of_pos (zero_lt_ofNat h)

end Mandate.Binary64
