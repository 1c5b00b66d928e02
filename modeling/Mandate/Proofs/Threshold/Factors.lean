import Mandate.Modulation
import Mandate.Proofs.Scalar.Exact
import Mathlib.Tactic.GCongr
import Mathlib.Tactic.Linarith
import Mathlib.Tactic.Positivity

/-!
# What tightens a threshold

Over exact numbers each factor of a threshold is a positive rational number, however broken its
input is. The product of the three, `tightness`, grows with each of them.
-/

namespace Mandate

/-! ## Numbers of the unit interval -/

namespace Exact

/-- How much of the unit interval a number makes up; one that is not finite makes up all of it. -/
def portion : Exact → ℚ
  | finite q => min 1 (max 0 q)
  | _ => 1

theorem portion_nonneg (a : Exact) : 0 ≤ a.portion := by
  cases a with
  | finite q => exact le_min zero_le_one (le_max_left 0 q)
  | infinite s => exact zero_le_one
  | undefined => exact zero_le_one

theorem portion_le_one (a : Exact) : a.portion ≤ 1 := by
  cases a with
  | finite q => exact min_le_left 1 _
  | infinite s => exact le_rfl
  | undefined => exact le_rfl

variable [ExactContext] {a b : Exact}

theorem portion_of_not_isFinite (h : Scalar.isFinite a = false) : a.portion = 1 := by
  cases a with
  | finite q => cases h
  | infinite s => rfl
  | undefined => rfl

theorem portion_mono (ha : Scalar.isFinite a = true) (h : a ≤ b) : a.portion ≤ b.portion := by
  obtain ⟨p, rfl⟩ := isFinite_iff.1 ha
  cases b with
  | finite q => exact min_le_min_left 1 (max_le_max_left 0 h)
  | infinite s => exact portion_le_one _
  | undefined => exact portion_le_one _

theorem unitOrGreatest_eq (a : Exact) : unitOrGreatest a = finite a.portion := by
  rw [unitOrGreatest, zero_eq, one_eq]
  split
  next h =>
    obtain ⟨q, rfl⟩ := isFinite_iff.1 h
    exact clamp_finite q 0 1
  next h => rw [portion_of_not_isFinite (Bool.eq_false_iff.2 h)]

end Exact

/-! ## Modes -/

namespace GovernanceMode

/-- The factor of a mode as a rational number. -/
def weight : GovernanceMode → ℚ
  | .flexible => 1
  | .standard => 1.1
  | .strict => 1.2
  | .forbidden => 1.3

theorem factor_eq [ExactContext] (m : GovernanceMode) : (m.factor : Exact) = .finite m.weight := by
  cases m <;> norm_num [factor, weight]

theorem weight_pos (m : GovernanceMode) : 0 < m.weight := by
  cases m <;> norm_num [weight]

theorem weight_mono {m m' : GovernanceMode} (h : m.rank ≤ m'.rank) : m.weight ≤ m'.weight := by
  revert h
  cases m <;> cases m' <;> norm_num [rank, weight]

end GovernanceMode

/-! ## Calibration -/

namespace Calibration

variable {c c' : Calibration Exact}

/-- The factor of a calibration as a rational number. -/
def weight (c : Calibration Exact) : ℚ :=
  0.98 + 0.40 * c.ece.portion

theorem factor_eq [ExactContext] (c : Calibration Exact) : c.factor = .finite c.weight := by
  rw [factor, Exact.unitOrGreatest_eq]
  norm_num [calibrationRelaxed, calibrationSpan, weight]

theorem factor_le_iff [ExactContext] : c.factor ≤ c'.factor ↔ c.weight ≤ c'.weight := by
  rw [c.factor_eq, c'.factor_eq, Exact.finite_le_finite]

theorem weight_pos (c : Calibration Exact) : 0 < c.weight := by
  have := c.ece.portion_nonneg
  unfold weight
  positivity

theorem weight_mono (h : c.ece.portion ≤ c'.ece.portion) : c.weight ≤ c'.weight := by
  unfold weight
  gcongr

end Calibration

/-! ## Uncertainty -/

variable [ExactContext]

namespace Uncertainty

variable {u u' : Uncertainty Exact}

/-- The uncertainty is one that a constructor gives. -/
inductive IsBuilt : Uncertainty Exact → Prop where
  | ofParts (total epistemic aleatoric : Exact) (method : String) :
      IsBuilt (.ofParts total epistemic aleatoric method)
  | ofComponents (epistemic aleatoric : Exact) (method : String) :
      IsBuilt (.ofComponents epistemic aleatoric method)
  | zero : IsBuilt .zero
  | ofEnsemble (members : List Exact) : IsBuilt (.ofEnsemble members)

theorem IsBuilt.exists_ofParts (h : u.IsBuilt) :
    ∃ total epistemic aleatoric method, u = .ofParts total epistemic aleatoric method := by
  cases h with
  | ofParts total epistemic aleatoric method => exact ⟨_, _, _, _, rfl⟩
  | ofComponents epistemic aleatoric method => exact ⟨_, _, _, _, rfl⟩
  | zero => exact ⟨_, _, _, _, rfl⟩
  | ofEnsemble members =>
      unfold Uncertainty.ofEnsemble
      split
      · exact ⟨_, _, _, _, rfl⟩
      · exact ⟨_, _, _, _, rfl⟩

theorem IsBuilt.isFinite_ratio (h : u.IsBuilt) (hu : u.isFinite = true) :
    Scalar.isFinite u.ratio = true := by
  obtain ⟨total, epistemic, aleatoric, method, rfl⟩ := h.exists_ofParts
  simp only [isFinite, Uncertainty.ofParts, Bool.and_eq_true] at hu
  obtain ⟨⟨htotal, hepistemic⟩, haleatoric⟩ := hu
  obtain ⟨t, rfl⟩ := Exact.isFinite_iff.1 htotal
  obtain ⟨p, rfl⟩ := Exact.isFinite_iff.1 hepistemic
  simp only [Uncertainty.ofParts, htotal, hepistemic, haleatoric, Exact.zero_eq, Exact.one_eq,
    Exact.finite_lt_finite, Bool.and_self, Bool.not_true, Bool.false_eq_true, if_false]
  split
  next hpos => rw [Exact.finite_div_finite hpos.ne', Exact.clamp_finite, Exact.isFinite_finite]
  next => exact Exact.isFinite_finite

/-- The parts of the total and of the epistemic share that count. -/
def portions (u : Uncertainty Exact) : ℚ × ℚ :=
  if u.isFinite then
    if u.total ≤ 0.0 then (0, 0) else (u.total.portion, u.ratio.portion)
  else (1, 1)

/-- The factor of an uncertainty as a rational number. -/
def weight (u : Uncertainty Exact) : ℚ :=
  0.85 + u.portions.2 * (0.25 + 0.35 * u.portions.1)

theorem factor_eq (u : Uncertainty Exact) : u.factor = .finite u.weight := by
  have hparts : (if !u.isFinite then ((1.0, 1.0) : Exact × Exact)
      else if u.total ≤ 0.0 then (0.0, 0.0)
      else (unitOrGreatest u.total, unitOrGreatest u.ratio)) =
        (.finite u.portions.1, .finite u.portions.2) := by
    rw [portions, Exact.unitOrGreatest_eq, Exact.unitOrGreatest_eq, Exact.zero_eq, Exact.one_eq]
    cases u.isFinite with
    | false => rfl
    | true =>
        simp only [Bool.not_true, Bool.false_eq_true, if_false, if_true]
        split <;> rfl
  rw [factor, hparts]
  norm_num [uncertaintyRelaxed, epistemicSlope, epistemicTotalSlope, weight]

theorem factor_le_iff : u.factor ≤ u'.factor ↔ u.weight ≤ u'.weight := by
  rw [u.factor_eq, u'.factor_eq, Exact.finite_le_finite]

theorem portions_nonneg (u : Uncertainty Exact) : 0 ≤ u.portions.1 ∧ 0 ≤ u.portions.2 := by
  unfold portions
  split
  · split
    · exact ⟨le_rfl, le_rfl⟩
    · exact ⟨u.total.portion_nonneg, u.ratio.portion_nonneg⟩
  · exact ⟨zero_le_one, zero_le_one⟩

theorem isFinite_total (hu : u.isFinite = true) : Scalar.isFinite u.total = true := by
  simp only [isFinite, Bool.and_eq_true] at hu
  exact hu.1.1

theorem portions_mono (hu : u.isFinite = true) (hshare : Scalar.isFinite u.ratio = true)
    (ht : u.total ≤ u'.total) (hr : u.ratio ≤ u'.ratio) :
    u.portions.1 ≤ u'.portions.1 ∧ u.portions.2 ≤ u'.portions.2 := by
  by_cases hzero : u.total ≤ 0.0
  · have hnone : u.portions = (0, 0) := (if_pos hu).trans (if_pos hzero)
    rw [hnone]
    exact u'.portions_nonneg
  · have hsome : u.portions = (u.total.portion, u.ratio.portion) :=
      (if_pos hu).trans (if_neg hzero)
    have hzero' : ¬ u'.total ≤ 0.0 := fun h => hzero (Exact.le_trans ht h)
    rw [hsome, portions, if_neg hzero']
    split
    · exact ⟨Exact.portion_mono (isFinite_total hu) ht, Exact.portion_mono hshare hr⟩
    · exact ⟨Exact.portion_le_one _, Exact.portion_le_one _⟩

theorem weight_pos (u : Uncertainty Exact) : 0 < u.weight := by
  obtain ⟨_, _⟩ := u.portions_nonneg
  unfold weight
  positivity

theorem weight_mono (hu : u.isFinite = true) (hshare : Scalar.isFinite u.ratio = true)
    (ht : u.total ≤ u'.total) (hr : u.ratio ≤ u'.ratio) : u.weight ≤ u'.weight := by
  obtain ⟨htotal, hratio⟩ := portions_mono hu hshare ht hr
  obtain ⟨_, _⟩ := u.portions_nonneg
  obtain ⟨_, _⟩ := u'.portions_nonneg
  unfold weight
  gcongr

end Uncertainty

/-! ## Their product -/

/-- The combined factor as a rational number. -/
def tightness (m : GovernanceMode) (u : Uncertainty Exact) (c : Calibration Exact) : ℚ :=
  m.weight * u.weight * c.weight

variable {m m' : GovernanceMode} {u u' : Uncertainty Exact} {c c' : Calibration Exact}

theorem factors_eq : (m.factor * u.factor * c.factor : Exact) = .finite (tightness m u c) := by
  rw [m.factor_eq, u.factor_eq, c.factor_eq, Exact.finite_mul_finite, Exact.finite_mul_finite,
    tightness]

theorem tightness_pos : 0 < tightness m u c :=
  mul_pos (mul_pos m.weight_pos u.weight_pos) c.weight_pos

theorem tightness_mono (hm : m.weight ≤ m'.weight) (hu : u.weight ≤ u'.weight)
    (hc : c.weight ≤ c'.weight) : tightness m u c ≤ tightness m' u' c' := by
  have := m'.weight_pos
  have := u.weight_pos
  have := u'.weight_pos
  have := c.weight_pos
  unfold tightness
  gcongr

end Mandate
