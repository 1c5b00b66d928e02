import Mathlib.Tactic.Linarith
import Mathlib.Tactic.Positivity
import Mandate.Baseline
import Mandate.Proofs.Settings.Accepted

/-!
# Distances and the drift score

Over exact numbers each of the three distances of a comparison lies in the unit interval and
vanishes exactly where the two sides agree (`IsDistance`). So does their weighted mean, the drift
score, as far as the weights count (`isDistance_driftScore`), and a running mean of such scores
stays in the unit interval (`inUnit_smoothed`).
-/

namespace Mandate

/-! ## The distances -/

/-- Nothing unexpected was seen, and something was seen if anything was expected. -/
def IsExpected (expected observed : List String) : Prop :=
  (∀ b ∈ observed, b ∈ expected) ∧ (expected ≠ [] → observed ≠ [])

theorem isExpected_nil_iff {expected : List String} : IsExpected expected [] ↔ expected = [] := by
  simp [IsExpected]

theorem isExpected_iff_of_ne_nil {expected observed : List String} (h : observed ≠ []) :
    IsExpected expected observed ↔ ∀ b ∈ observed, b ∈ expected :=
  and_iff_left fun _ => h

section Distance

variable [ExactContext] {agree : Prop}

/-- A number of the unit interval that vanishes where two sides agree. -/
structure IsDistance (x : Exact) (agree : Prop) : Prop where
  inUnit : x.InUnit
  eq_zero_iff : x = 0.0 ↔ agree

theorem isDistance_zero (h : agree) : IsDistance 0.0 agree :=
  ⟨Exact.inUnit_zero, iff_of_true rfl h⟩

theorem isDistance_one (h : ¬ agree) : IsDistance 1.0 agree := by
  refine ⟨Exact.inUnit_one, iff_of_false ?_ h⟩
  rw [Exact.one_eq, Exact.zero_eq, Exact.finite.injEq]
  exact one_ne_zero

theorem isDistance_share {part whole : Nat} (le : part ≤ whole) (pos : 0 < whole)
    (h : part = 0 ↔ agree) : IsDistance (Scalar.share part whole) agree := by
  have hlow : 0 ≤ (part / whole : ℚ) := by positivity
  have hhigh : (part / whole : ℚ) ≤ 1 := div_le_one_of_le₀ (Nat.cast_le.2 le) (Nat.cast_nonneg _)
  rw [Exact.share_eq pos]
  refine ⟨Exact.inUnit_finite_iff.2 ⟨hlow, hhigh⟩, ?_⟩
  rw [Exact.zero_eq, Exact.finite.injEq, div_eq_zero_iff, Nat.cast_eq_zero, Nat.cast_eq_zero, ← h]
  exact or_iff_left pos.ne'

theorem isDistance_sequenceDistance (as bs : List String) :
    IsDistance (sequenceDistance as bs) (as = bs) := by
  unfold sequenceDistance
  dsimp only
  split
  next h =>
    have has : as = [] := List.length_eq_zero_iff.1 (by omega)
    have hbs : bs = [] := List.length_eq_zero_iff.1 (by omega)
    exact isDistance_zero (has.trans hbs.symm)
  next h => exact isDistance_share (mismatches_le as bs) (by omega) mismatches_eq_zero_iff

theorem isDistance_behaviorMismatch (expected observed : List String) :
    IsDistance (behaviorMismatch expected observed) (IsExpected expected observed) := by
  unfold behaviorMismatch
  split
  next hnone =>
    rw [List.isEmpty_iff.1 hnone, isExpected_nil_iff]
    split
    next h => exact isDistance_zero (List.isEmpty_iff.1 h)
    next h => exact isDistance_one (mt List.isEmpty_iff.2 h)
  next hsome =>
    have hne : observed ≠ [] := mt List.isEmpty_iff.2 hsome
    rw [isExpected_iff_of_ne_nil hne]
    refine isDistance_share List.countP_le_length (List.length_pos_iff.2 hne) ?_
    simp [List.countP_eq_zero]

theorem isDistance_indicator (agrees : Bool) :
    IsDistance (Scalar.indicator (!agrees)) (agrees = true) := by
  cases agrees with
  | true => exact isDistance_zero rfl
  | false => exact isDistance_one nofun

end Distance

/-! ## The weights -/

/-- The weights of settings as rational numbers that pass the check. -/
structure BaselineSettings.Weights [ExactContext] (s : BaselineSettings Exact) where
  frame : ℚ
  interpretation : ℚ
  behavior : ℚ
  smoothing : ℚ
  frame_eq : s.frameWeight = .finite frame
  interpretation_eq : s.interpretationWeight = .finite interpretation
  behavior_eq : s.behaviorWeight = .finite behavior
  smoothing_eq : s.smoothing = .finite smoothing
  frame_nonneg : 0 ≤ frame
  interpretation_nonneg : 0 ≤ interpretation
  behavior_nonneg : 0 ≤ behavior
  total_pos : 0 < frame + interpretation + behavior
  smoothing_nonneg : 0 ≤ smoothing
  smoothing_le_one : smoothing ≤ 1

variable [ExactContext] {s : BaselineSettings Exact}

theorem nonempty_weights (h : Settings.checkBaseline s = .ok ()) : Nonempty s.Weights := by
  obtain ⟨-, ⟨-, hframe⟩, ⟨-, hinterpretation⟩, ⟨-, hbehavior⟩, htotal, ⟨-, hsmoothing⟩, -⟩ :=
    Settings.checkBaseline_eq_ok_iff.1 h
  obtain ⟨f, hf, hf0, -⟩ := Exact.inUnit_iff.1 hframe
  obtain ⟨i, hi, hi0, -⟩ := Exact.inUnit_iff.1 hinterpretation
  obtain ⟨b, hb, hb0, -⟩ := Exact.inUnit_iff.1 hbehavior
  obtain ⟨a, ha, ha0, ha1⟩ := Exact.inUnit_iff.1 hsmoothing
  rw [hf, hi, hb, Exact.finite_add_finite, Exact.finite_add_finite, Exact.zero_eq,
    Exact.finite_le_finite, not_le] at htotal
  exact ⟨⟨f, i, b, a, hf, hi, hb, ha, hf0, hi0, hb0, htotal, ha0, ha1⟩⟩

/-! ## The weighted mean -/

namespace BaselineSettings.Weights

variable (w : s.Weights) {x y z : ℚ}

def total : ℚ :=
  w.frame + w.interpretation + w.behavior

/-- The weighted mean of the distances of frame, interpretation and behavior. -/
def mean (x y z : ℚ) : ℚ :=
  (w.frame * x + w.interpretation * y + w.behavior * z) / w.total

theorem mean_nonneg (hx : 0 ≤ x) (hy : 0 ≤ y) (hz : 0 ≤ z) : 0 ≤ w.mean x y z := by
  have hframe := mul_nonneg w.frame_nonneg hx
  have hinterpretation := mul_nonneg w.interpretation_nonneg hy
  have hbehavior := mul_nonneg w.behavior_nonneg hz
  exact div_nonneg (by linarith) w.total_pos.le

theorem mean_le_one (hx : x ≤ 1) (hy : y ≤ 1) (hz : z ≤ 1) : w.mean x y z ≤ 1 := by
  have hframe := mul_le_of_le_one_right w.frame_nonneg hx
  have hinterpretation := mul_le_of_le_one_right w.interpretation_nonneg hy
  have hbehavior := mul_le_of_le_one_right w.behavior_nonneg hz
  exact div_le_one_of_le₀ (by unfold total; linarith) w.total_pos.le

theorem mean_eq_zero_iff (hx : 0 ≤ x) (hy : 0 ≤ y) (hz : 0 ≤ z) :
    w.mean x y z = 0 ↔
      w.frame * x = 0 ∧ w.interpretation * y = 0 ∧ w.behavior * z = 0 := by
  have hframe := mul_nonneg w.frame_nonneg hx
  have hinterpretation := mul_nonneg w.interpretation_nonneg hy
  have hbehavior := mul_nonneg w.behavior_nonneg hz
  have htotal : w.total ≠ 0 := w.total_pos.ne'
  rw [mean, div_eq_zero_iff, or_iff_left htotal, add_eq_zero_iff_of_nonneg (by linarith) hbehavior,
    add_eq_zero_iff_of_nonneg hframe hinterpretation, and_assoc]

end BaselineSettings.Weights

theorem driftScore_eq (w : s.Weights) {x y z : ℚ} (hx : 0 ≤ x ∧ x ≤ 1) (hy : 0 ≤ y ∧ y ≤ 1)
    (hz : 0 ≤ z ∧ z ≤ 1) {sameReading : Bool}
    (hindicator : Scalar.indicator (!sameReading) = Exact.finite y) :
    driftScore s (.finite x) sameReading (.finite z) = .finite (w.mean x y z) := by
  have htotal : w.frame + w.interpretation + w.behavior ≠ 0 := w.total_pos.ne'
  -- The mean lies in the unit interval as it is, so bringing it there changes nothing.
  have hlow := w.mean_nonneg hx.1 hy.1 hz.1
  have hhigh := w.mean_le_one hx.2 hy.2 hz.2
  simp only [driftScore, hindicator, w.frame_eq, w.interpretation_eq, w.behavior_eq,
    Exact.finite_mul_finite, Exact.finite_add_finite, Exact.finite_div_finite htotal,
    Exact.zero_eq, Exact.one_eq, Exact.clamp_finite]
  exact congrArg Exact.finite ((min_eq_right (max_le zero_le_one hhigh)).trans (max_eq_right hlow))

/-- What a distance adds to the mean is nothing exactly if its weight is zero or the sides agree. -/
theorem weighed_eq_zero_iff {weight d : ℚ} {agree : Prop} (nonneg : 0 ≤ weight)
    (h : IsDistance (.finite d) agree) :
    weight * d = 0 ↔ (0.0 < Exact.finite weight → agree) := by
  have hd : d = 0 ↔ agree := by
    rw [← h.eq_zero_iff, Exact.zero_eq, Exact.finite.injEq]
  rw [mul_eq_zero, hd, Exact.zero_eq, Exact.finite_lt_finite]
  constructor
  · rintro (hweight | hagree) hpos
    · exact absurd hweight hpos.ne'
    · exact hagree
  · intro hagree
    rcases nonneg.eq_or_lt with hweight | hpos
    · exact Or.inl hweight.symm
    · exact Or.inr (hagree hpos)

/-- The score is a distance too: it vanishes where the sides agree in all that has a weight. -/
theorem isDistance_driftScore (w : s.Weights) {x z : Exact} {sameTokens expected : Prop}
    (hx : IsDistance x sameTokens) (sameReading : Bool) (hz : IsDistance z expected) :
    IsDistance (driftScore s x sameReading z)
      ((0.0 < s.frameWeight → sameTokens) ∧ (0.0 < s.interpretationWeight → sameReading = true) ∧
        (0.0 < s.behaviorWeight → expected)) := by
  have hy := isDistance_indicator sameReading
  obtain ⟨p, rfl, hp⟩ := Exact.inUnit_iff.1 hx.inUnit
  obtain ⟨r, rfl, hr⟩ := Exact.inUnit_iff.1 hz.inUnit
  obtain ⟨q, hindicator, hq⟩ := Exact.inUnit_iff.1 hy.inUnit
  rw [hindicator] at hy
  rw [driftScore_eq w hp hq hr hindicator]
  refine ⟨Exact.inUnit_finite_iff.2
    ⟨w.mean_nonneg hp.1 hq.1 hr.1, w.mean_le_one hp.2 hq.2 hr.2⟩, ?_⟩
  rw [Exact.zero_eq, Exact.finite.injEq, w.mean_eq_zero_iff hp.1 hq.1 hr.1,
    weighed_eq_zero_iff w.frame_nonneg hx, weighed_eq_zero_iff w.interpretation_nonneg hy,
    weighed_eq_zero_iff w.behavior_nonneg hz, w.frame_eq, w.interpretation_eq, w.behavior_eq,
    Exact.zero_eq]

/-- The running drift stays in the unit interval. -/
theorem inUnit_smoothed (w : s.Weights) {running score : Exact} (hrunning : running.InUnit)
    (hscore : score.InUnit) : (smoothed s running score).InUnit := by
  obtain ⟨p, rfl, hp, hp'⟩ := Exact.inUnit_iff.1 hrunning
  obtain ⟨q, rfl, hq, hq'⟩ := Exact.inUnit_iff.1 hscore
  rw [smoothed, w.smoothing_eq, Exact.one_eq, Exact.finite_sub_finite, Exact.finite_mul_finite,
    Exact.finite_mul_finite, Exact.finite_add_finite, Exact.inUnit_finite_iff]
  have hnew : 0 ≤ w.smoothing * q := mul_nonneg w.smoothing_nonneg hq
  have hold : 0 ≤ (1 - w.smoothing) * p := mul_nonneg (sub_nonneg.2 w.smoothing_le_one) hp
  have hnew' : w.smoothing * q ≤ w.smoothing := mul_le_of_le_one_right w.smoothing_nonneg hq'
  have hold' : (1 - w.smoothing) * p ≤ 1 - w.smoothing :=
    mul_le_of_le_one_right (sub_nonneg.2 w.smoothing_le_one) hp'
  exact ⟨by linarith, by linarith⟩

end Mandate
