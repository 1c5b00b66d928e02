import Mandate.Proofs.Calibration.Error
import Mandate.Proofs.Scalar.Logarithm
import Mandate.Proofs.Uncertainty.Ensemble

/-!
# Broken measurements

A number that is not finite counts as some finite one before its factor is formed: an infinite
member of an ensemble as an end of the unit interval, a confidence as none. Only a member that is
not a number breaks the whole ensemble. What a broken number counts as may lower the factor
(`not_forall_factor_le_of_broken`); the main statement, `factor_le_of_broken`, says when it does
not.
-/

namespace Mandate

section

variable [ExactContext]

/-- What a number that is not finite does in place of a finite one.

An infinite member of an ensemble counts as the end of the unit interval on its side. The factor of
the uncertainty is not lowered if a member is not a number, or if that end is at least as far from
the mean of the other members as the finite member was.

A confidence counts as none, so its prediction joins the first bucket. The factor of the calibration
is not lowered exactly if the errors of the first bucket and of the one that the prediction leaves
do not shrink together. For a prediction that failed this says that nothing was expected of it, or
that its bucket is better than expected by half of that without it. For one that came true it is
enough that the first bucket is no worse than expected. -/
theorem factor_le_of_broken {x : Exact} (hx : Scalar.isFinite x = false) :
    (∀ (before after : List Exact) (p : ℚ),
      let ensemble (y : Exact) : Uncertainty Exact := .ofEnsemble (before ++ y :: after)
      let others := (before ++ after).map Exact.nearest
      (Scalar.isNaN x = false → ensemble x = ensemble (.finite x.nearest)) ∧
      (Scalar.isNaN x = true ∨ (∃ y ∈ before ++ after, Scalar.isNaN y = true) ∨
          Ensemble.IsFarther others (Exact.finite p).nearest x.nearest →
        (ensemble (.finite p)).factor ≤ (ensemble x).factor)) ∧
    (∀ (before after : List (Prediction Exact)) (correct : Bool) (p : ℚ) (bucketCount : Nat)
        (windowStart windowEnd : Instant),
      let window (y : Exact) : Calibration Exact :=
        .ofPredictions (before ++ ⟨y, correct⟩ :: after) bucketCount windowStart windowEnd
      let count := max bucketCount 1
      let surplus := Calibration.surplus count (before ++ after)
      let prediction : Prediction Exact := ⟨.finite p, correct⟩
      let own := prediction.bucket count
      window x = window (.finite 0) ∧
      ((window (.finite p)).factor ≤ (window x).factor ↔
        |surplus own + prediction.surprise| + |surplus 0| ≤
          |surplus 0 + prediction.truth| + |surplus own|) ∧
      (correct = false →
        ((window (.finite p)).factor ≤ (window x).factor ↔
          (Exact.finite p).settled = 0 ∨ (Exact.finite p).settled ≤ 2 * surplus own)) ∧
      (correct = true → 0 ≤ surplus 0 → (window (.finite p)).factor ≤ (window x).factor)) := by
  refine ⟨fun before after p => ⟨Uncertainty.ofEnsemble_nearest, fun h => ?_⟩,
    fun before after correct p bucketCount windowStart windowEnd => ?_⟩
  · exact Uncertainty.factor_le_iff.2
      (Uncertainty.weight_ofEnsemble_le hx Exact.isNaN_finite h)
  · intro window count surplus prediction own
    have hcount : 0 < count := by positivity
    have hstrain : (window (.finite p)).factor ≤ (window x).factor ↔
        Calibration.strain count (before ++ after) prediction ≤
          Calibration.strain count (before ++ after) ⟨x, prediction.correct⟩ :=
      Calibration.factor_le_iff.trans Calibration.weight_ofPredictions_le_iff
    rw [hstrain]
    refine ⟨Calibration.ofPredictions_broken hx correct,
      Calibration.strain_le_broken_iff hcount hx, ?_, ?_⟩
    · exact Calibration.strain_le_broken_iff_of_failed (p := prediction) hcount hx
    · exact Calibration.strain_le_broken_of_true (p := prediction) hcount hx

end

section

open scoped Exact.Whole

/-- An infinite member away from the others, and an infinite confidence in a prediction that failed
among two that came true. -/
theorem factor_le_of_broken_infinite :
    let ensemble (y : Exact) : Uncertainty Exact := .ofEnsemble [.finite 0.2, y, .finite 0.3]
    let window (y : Exact) : Calibration Exact :=
      .ofPredictions [⟨.finite 0.6, true⟩, ⟨y, false⟩, ⟨.finite 0.7, true⟩] 2 .epoch .epoch
    Scalar.isFinite (Exact.infinite false) = false ∧
      (ensemble (.finite 0.5)).factor ≤ (ensemble (.infinite false)).factor ∧
      (window (.finite 0.9)).factor ≤ (window (.infinite false)).factor := by
  intro ensemble window
  obtain ⟨hensemble, hwindow⟩ := factor_le_of_broken (x := .infinite false) rfl
  refine ⟨rfl, ?_, ?_⟩
  · refine (hensemble [.finite 0.2] [.finite 0.3] 0.5).2 (Or.inr (Or.inr (Or.inr ?_)))
    decide +kernel
  · obtain ⟨_, _, hfailed, _⟩ :=
      hwindow [⟨.finite 0.6, true⟩] [⟨.finite 0.7, true⟩] false 0.9 2 .epoch .epoch
    refine (hfailed rfl).2 (Or.inr ?_)
    decide +kernel

/-- An infinite member of an ensemble may lower the factor, and so may a confidence that is not a
number. -/
theorem not_forall_factor_le_of_broken :
    (¬ ∀ (before after : List Exact) (p : ℚ) (x : Exact), Scalar.isFinite x = false →
      (Uncertainty.ofEnsemble (before ++ .finite p :: after)).factor ≤
        (Uncertainty.ofEnsemble (before ++ x :: after)).factor) ∧
    ¬ ∀ (before after : List (Prediction Exact)) (correct : Bool) (p : ℚ) (x : Exact)
        (bucketCount : Nat), Scalar.isFinite x = false →
      (Calibration.ofPredictions (before ++ ⟨.finite p, correct⟩ :: after) bucketCount .epoch
          .epoch).factor ≤
        (Calibration.ofPredictions (before ++ ⟨x, correct⟩ :: after) bucketCount .epoch
          .epoch).factor := by
  constructor
  · intro h
    have hlowered := h [.finite 0] [] 1 (.infinite true) rfl
    revert hlowered
    decide +kernel
  · intro h
    have hlowered := h [] [] false 1 .undefined 1 rfl
    revert hlowered
    decide +kernel

end

end Mandate
