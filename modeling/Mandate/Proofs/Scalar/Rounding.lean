import Mathlib
import Mandate.Binary64

/-!
# Rounding of binary numbers

A product, a quotient or a sum of binary numbers is a mantissa with an exponent that is rounded to
53 bits. What is not too small stays a number other than zero (`exists_round_eq`), and its exponent
grows by little, so that it is not taken for infinite without need (`unpack_pack_finite`).
-/

namespace Mandate.Binary64

open Float.Model Float.Model.UnpackedFloat

/-! ## Shifting -/

theorem mantissa_shiftRight (m : ExtendedMantissa) (k : Nat) :
    (m >>> k).mantissa = m.mantissa / 2 ^ k := by
  induction k with
  | zero => exact (Nat.div_one _).symm
  | succ k ih =>
      have hstep : (m >>> (k + 1)).mantissa = (m >>> k).mantissa / 2 := rfl
      rw [hstep, ih, Nat.div_div_eq_div_mul, Nat.pow_succ]

theorem mantissa_shifted (m : Nat) (a : Accuracy) (k : Nat) :
    (ExtendedMantissa.ofMantissaAndAccuracy m a >>> k).mantissa = m / 2 ^ k := by
  rw [mantissa_shiftRight]
  cases a with
  | exact => rfl
  | inexact o => cases o <;> rfl

theorem roundedMantissa_bounds (m : ExtendedMantissa) :
    m.mantissa ≤ m.roundedMantissa ∧ m.roundedMantissa ≤ m.mantissa + 1 := by
  unfold ExtendedMantissa.roundedMantissa
  cases m.accuracy with
  | exact => exact ⟨Nat.le_refl _, Nat.le_succ _⟩
  | inexact o =>
      cases o with
      | lt => exact ⟨Nat.le_refl _, Nat.le_succ _⟩
      | eq =>
          have hodd : m.mantissa % 2 ≤ 1 := Nat.le_of_lt_succ (Nat.mod_lt _ Nat.two_pos)
          exact ⟨Nat.le_add_right .., Nat.add_le_add_left hodd _⟩
      | gt => exact ⟨Nat.le_succ _, Nat.le_refl _⟩

theorem targetExponent_eq (t : Int) :
    Format.binary64.targetExponent t = max (t - 53) (-1074) := rfl

/-- By how many places a mantissa is too long for its exponent. -/
def excess (m : Nat) (e : Int) : Nat :=
  (Format.binary64.targetExponent (totalExponent m e) - e).toNat

theorem excess_eq (m : Nat) (e : Int) :
    (excess m e : Int) = max 0 (max ((m.log2 : Int) - 52) (-1074 - e)) := by
  rw [excess, targetExponent_eq, totalExponent]
  omega

/-- A mantissa that stands for at least the smallest number keeps a bit and fits when its excess is
shifted out. -/
theorem shifted_bounds {m : Nat} {e : Int} (hm : 0 < m) (he : -1074 ≤ m.log2 + e) :
    0 < m / 2 ^ excess m e ∧ m / 2 ^ excess m e < 2 ^ 53 := by
  have hk := excess_eq m e
  have hle : 2 ^ m.log2 ≤ m := Nat.log2_self_le (Nat.ne_of_gt hm)
  have hlt : m < 2 ^ (m.log2 + 1) := Nat.lt_log2_self
  have hkeep : excess m e ≤ m.log2 := by omega
  have hfit : m.log2 + 1 ≤ 53 + excess m e := by omega
  constructor
  · exact Nat.div_pos (Nat.le_trans (Nat.pow_le_pow_right Nat.two_pos hkeep) hle)
      (Nat.two_pow_pos _)
  · rw [Nat.div_lt_iff_lt_mul (Nat.two_pow_pos _), ← Nat.pow_add]
    exact Nat.lt_of_lt_of_le hlt (Nat.pow_le_pow_right Nat.two_pos hfit)

/-! ## Rounding -/

/-- The mantissa after its excess was shifted out and it was rounded. -/
def shortened (m : Nat) (e : Int) (a : Accuracy) : Nat :=
  (ExtendedMantissa.ofMantissaAndAccuracy m a >>> excess m e).roundedMantissa

theorem shortened_bounds (m : Nat) (e : Int) (a : Accuracy) :
    m / 2 ^ excess m e ≤ shortened m e a ∧ shortened m e a ≤ m / 2 ^ excess m e + 1 := by
  have h := roundedMantissa_bounds (ExtendedMantissa.ofMantissaAndAccuracy m a >>> excess m e)
  rwa [mantissa_shifted] at h

theorem roundWithAccuracy_eq (s : Sign) (m : Nat) (e : Int) (a : Accuracy)
    (h : 0 < shortened m e a / 2 ^ excess (shortened m e a) (e + excess m e)) :
    roundWithAccuracy Format.binary64 s m e a =
      .finite s (shortened m e a / 2 ^ excess (shortened m e a) (e + excess m e))
        (e + excess m e + excess (shortened m e a) (e + excess m e)) h := by
  have hmantissa := mantissa_shifted (shortened m e a) .exact
    (excess (shortened m e a) (e + excess m e))
  have hne := Nat.ne_of_gt (hmantissa ▸ h)
  refine (dif_neg hne).trans ?_
  congr 1

/-- What is not too small is rounded to a number of the same sign, whose exponent is not much
greater. -/
theorem exists_roundWithAccuracy_eq (s : Sign) {m : Nat} {e : Int} (hm : 0 < m)
    (he : -1074 ≤ m.log2 + e) (a : Accuracy) :
    ∃ n d h, roundWithAccuracy Format.binary64 s m e a = .finite s n d h ∧ n < 2 ^ 53 ∧
      -1074 ≤ d ∧ d ≤ max e (max (m.log2 + e - 52) (-1074)) + 1 := by
  obtain ⟨hpos, hfit⟩ := shifted_bounds hm he
  obtain ⟨hlow, hhigh⟩ := shortened_bounds m e a
  have hk := excess_eq m e
  -- Rounding up may have added a bit, which a second shift takes away again.
  have hr : 0 < shortened m e a := by omega
  have hlog : (shortened m e a).log2 < 54 := (Nat.log2_lt (Nat.ne_of_gt hr)).2 (by omega)
  have hk' := excess_eq (shortened m e a) (e + excess m e)
  obtain ⟨hpos', hfit'⟩ := shifted_bounds hr (e := e + excess m e) (by omega)
  exact ⟨_, _, hpos', roundWithAccuracy_eq s m e a hpos', hfit', by omega, by omega⟩

theorem log2_shiftLeft {m : Nat} (hm : 0 < m) (k : Nat) : (m <<< k).log2 = m.log2 + k := by
  rw [Nat.shiftLeft_eq]
  have hne : m * 2 ^ k ≠ 0 := Nat.mul_ne_zero (Nat.ne_of_gt hm) (Nat.ne_of_gt (Nat.two_pow_pos k))
  refine (Nat.log2_eq_iff hne).2 ⟨?_, ?_⟩
  · rw [Nat.pow_add]
    exact Nat.mul_le_mul_right _ (Nat.log2_self_le (Nat.ne_of_gt hm))
  · rw [Nat.add_right_comm, Nat.pow_add]
    exact Nat.mul_lt_mul_of_pos_right Nat.lt_log2_self (Nat.two_pow_pos k)

theorem exists_round_eq (s : Sign) {m : Nat} {e : Int} (hm : 0 < m) (he : -1074 ≤ m.log2 + e) :
    ∃ n d h, round Format.binary64 s m e = .finite s n d h ∧ n < 2 ^ 53 ∧ -1074 ≤ d ∧
      d ≤ max (m.log2 + e - 52) (-1074) + 1 := by
  -- Zeros are added to a mantissa that is too short.
  let k := (e - Format.binary64.targetExponent (totalExponent m e)).toNat
  have hk : (k : Int) = max 0 (e - max (m.log2 + e - 52) (-1074)) := by
    simp only [k, targetExponent_eq, totalExponent]
    omega
  have hlog := log2_shiftLeft hm k
  have hpos : 0 < m <<< k := by
    rw [Nat.shiftLeft_eq]
    exact Nat.mul_pos hm (Nat.two_pow_pos k)
  obtain ⟨n, d, h, heq, hn, hlow, hhigh⟩ :=
    exists_roundWithAccuracy_eq s (e := e - k) hpos (by omega) .exact
  exact ⟨n, d, h, heq, hn, hlow, by omega⟩

/-! ## Packing -/

theorem unpack_finite_bounds {x : Float.Model} {s : Sign} {m : Nat} {e : Int} {h : 0 < m}
    (hx : x.unpack = .finite s m e h) : m < 2 ^ 53 ∧ -1074 ≤ e := by
  have hbias : (Format.binary64.exponentBias : Int) = 1023 := rfl
  unfold Float.Model.unpack UnpackedFloat.unpack at hx
  dsimp only at hx
  split at hx
  next => split at hx <;> cases hx
  next =>
    split at hx
    next =>
      split at hx
      next => cases hx
      next =>
        obtain ⟨-, rfl, rfl⟩ := UnpackedFloat.finite.inj hx
        exact ⟨Nat.lt_trans (BitVec.isLt _) (by decide), by omega⟩
    next hexp =>
      obtain ⟨-, rfl, rfl⟩ := UnpackedFloat.finite.inj hx
      have hpos : (@unpackExponent Format.binary64 x.toBits.toBitVec).toNat ≠ 0 :=
        fun hzero => hexp (BitVec.eq_of_toNat_eq hzero)
      exact ⟨BitVec.isLt _, by omega⟩

theorem unpack_pack_infinity (s : Sign) :
    (Float.Model.pack (.infinity s)).unpack = .infinity s := by
  cases s <;> rfl

theorem unpack_pack_zero (s : Sign) : (Float.Model.pack (.zero s)).unpack = .zero s := by
  cases s <;> rfl

theorem unpack_packComponents_subnormal (s : Sign) {m : BitVec 52} (hm : m ≠ 0#52) :
    ∃ n d h, UnpackedFloat.unpack Format.binary64 (packComponents Format.binary64 s 0#11 m) =
      .finite s n d h := by
  unfold UnpackedFloat.unpack
  simp only [unpackMantissa_packComponents, unpackExponent_packComponents,
    unpackSign_packComponents, Sign.ofBitVec_toBitVec]
  rw [if_neg (by decide), if_true, dif_neg hm]
  have hpos : 0 < m.toNat := Nat.pos_of_ne_zero fun hzero => hm (BitVec.eq_of_toNat_eq hzero)
  exact ⟨_, _, hpos, rfl⟩

theorem unpack_packComponents_normal (s : Sign) {e : BitVec 11} (m : BitVec 52) (hlow : e ≠ 0#11)
    (hhigh : e ≠ -1#11) :
    ∃ n d h, UnpackedFloat.unpack Format.binary64 (packComponents Format.binary64 s e m) =
      .finite s n d h := by
  unfold UnpackedFloat.unpack
  simp only [unpackMantissa_packComponents, unpackExponent_packComponents,
    unpackSign_packComponents, Sign.ofBitVec_toBitVec]
  rw [if_neg hhigh, if_neg hlow]
  have hpos : 0 < (1#1 ++ m).toNat := by
    rw [BitVec.toNat_append]
    exact Nat.lt_of_lt_of_le (by decide) Nat.left_le_or
  exact ⟨_, _, hpos, rfl⟩

/-- A rounded number that is packed and unpacked is of its sign, and neither zero nor undefined; it
is infinite only if its exponent is too great. -/
theorem unpack_pack_finite (s : Sign) {n : Nat} {d : Int} (h : 0 < n) (hn : n < 2 ^ 53)
    (hd : -1074 ≤ d) :
    ((Float.Model.pack (.finite s n d h)).unpack = .infinity s ∧ 972 ≤ d) ∨
      ∃ m e g, (Float.Model.pack (.finite s n d h)).unpack = .finite s m e g := by
  have hbias : (Format.binary64.exponentBias : Int) = 1023 := rfl
  unfold Float.Model.pack UnpackedFloat.pack
  dsimp only
  split
  next hbig =>
    have hbig : 2 ^ 11 ≤ (d + Format.binary64.exponentBias + 52).toNat + 1 := hbig
    exact Or.inl ⟨unpack_pack_infinity s, by omega⟩
  next hsmall =>
    have hsmall : ¬ 2 ^ 11 ≤ (d + Format.binary64.exponentBias + 52).toNat + 1 := hsmall
    right
    split
    next hnormal =>
      refine unpack_packComponents_normal s _ (fun heq => ?_) fun heq => ?_
      · have hmod : (d + Format.binary64.exponentBias + 52).toNat % 2 ^ 11 = 0 :=
          congrArg BitVec.toNat heq
        omega
      · have hmod : (d + Format.binary64.exponentBias + 52).toNat % 2 ^ 11 = 2047 :=
          congrArg BitVec.toNat heq
        omega
    next hsubnormal =>
      have hlog : n.log2 < 53 := (Nat.log2_lt (Nat.ne_of_gt h)).2 hn
      have hlog : n.log2 < 52 := by
        have hne : ¬ n.log2 + 1 = 53 := hsubnormal
        omega
      have hfit := (Nat.log2_lt (Nat.ne_of_gt h)).1 hlog
      refine unpack_packComponents_subnormal s fun heq => ?_
      have hmod : n % 2 ^ 52 = 0 := congrArg BitVec.toNat heq
      omega

end Mandate.Binary64
