import Mandate.Proofs.Threshold.Order

/-!
# Less risk, no stricter decision

When a gate allows a request, it allows every request for the same observed value that is no
riskier. The main statement, `allow_of_noRiskierThan`, compares requests signal by signal.
-/

namespace Mandate

section

variable [ExactContext]

/-! ## Comparing requests -/

/-- Each risk signal of the first request is at most that of the second. A conflict that is not a
number counts as the greatest, as does an error that is not finite; no vocabulary is the least. -/
structure GateRequest.NoRiskierThan (r r' : GateRequest Exact) : Prop where
  gate : r.gate = r'.gate
  observed : r.observed = r'.observed
  mode : r.mode.rank ≤ r'.mode.rank
  conflict : Scalar.isNaN r'.conflict = true ∨ r.conflict ≤ r'.conflict
  built : r.uncertainty.IsBuilt ∧ r'.uncertainty.IsBuilt
  finite : r.uncertainty.isFinite = true ∧ r'.uncertainty.isFinite = true
  total : r.uncertainty.total ≤ r'.uncertainty.total
  ratio : r.uncertainty.ratio ≤ r'.uncertainty.ratio
  error : Scalar.isFinite r'.calibration.ece = false ∨
    Scalar.isFinite r.calibration.ece = true ∧ r.calibration.ece ≤ r'.calibration.ece
  vocabulary : ∀ n ∈ r.vocabulary, ∃ n' ∈ r'.vocabulary, n ≤ n'
  sensitive : r.HasSensitiveContent → r'.HasSensitiveContent

namespace GateRequest.NoRiskierThan

variable {r r' : GateRequest Exact}

theorem forbidden (h : r.NoRiskierThan r') (hr : r.mode = .forbidden) : r'.mode = .forbidden := by
  have hmode := h.mode
  rw [hr] at hmode
  revert hmode
  cases r'.mode <;> decide

-- Only the second conflict may be undefined: one that is undefined violates every limit.
theorem conflict_le (h : r.NoRiskierThan r') {limit : Exact} (hr : r'.conflict ≤ limit) :
    r.conflict ≤ limit := by
  rcases h.conflict with hnan | hle
  · rw [(Scalar.isNaN_eq_false_of_le hr).1] at hnan
    cases hnan
  · exact Exact.le_trans hle hr

theorem portion_ece_le (h : r.NoRiskierThan r') :
    r.calibration.ece.portion ≤ r'.calibration.ece.portion := by
  rcases h.error with hbroken | ⟨hfinite, hle⟩
  · rw [Exact.portion_of_not_isFinite hbroken]
    exact Exact.portion_le_one _
  · exact Exact.portion_mono hfinite hle

theorem tightness_le (h : r.NoRiskierThan r') :
    tightness r.mode r.uncertainty r.calibration ≤
      tightness r'.mode r'.uncertainty r'.calibration :=
  tightness_mono (GovernanceMode.weight_mono h.mode)
    (Uncertainty.weight_mono h.finite.1 (h.built.1.isFinite_ratio h.finite.1) h.total h.ratio)
    (Calibration.weight_mono h.portion_ece_le)

end GateRequest.NoRiskierThan

/-! ## Comparing decisions -/

namespace Engine

variable {e : Engine Exact} {s s' : Standing Exact} {r r' : GateRequest Exact}

theorem violates_of_noRiskierThan (h : r.NoRiskierThan r')
    (hfailures : failuresFor s r ≤ failuresFor s' r') {c : Constraint}
    (hc : e.Violates s r c) : e.Violates s' r' c := by
  cases c with
  | forbiddenMode => exact h.forbidden hc
  | sensitiveData => exact h.sensitive hc
  | conflictCoefficient => exact mt h.conflict_le hc
  | consecutiveFailures => exact Nat.le_trans hc hfailures
  | uncertaintyCeiling => exact mt (Exact.le_trans h.total) hc

theorem isWithin_of_noRiskierThan [Exact.LawfulLog2]
    (hg : Settings.checkGovernance e.settings.governance = .ok ()) (h : r.NoRiskierThan r')
    (hr : e.IsWithin r') : e.IsWithin r := by
  unfold IsWithin at hr ⊢
  rw [← h.gate, ← h.observed] at hr
  have hstricter :
      r.gate.direction.Meets (e.modulation r').threshold (e.modulation r).threshold := by
    unfold modulation
    rw [← h.gate]
    exact GovernanceSettings.threshold_meets hg h.tightness_le h.vocabulary
  exact hr.trans hstricter

/-- What an engine with accepted settings allows, it allows under no more failures, with no other
circuit open, for every request that is no riskier. The floor of the review gate takes a logarithm,
which has to be zero at one and never fall. -/
theorem allow_of_noRiskierThan [Exact.LawfulLog2] {settings : Settings Exact} {ontology : Ontology}
    {overlay : Option (Overlay Exact)} (hbuild : build settings ontology overlay = .ok e)
    (h : r.NoRiskierThan r') (hfailures : failuresFor s r ≤ failuresFor s' r')
    (hstopped : IsStopped s r → IsStopped s' r') (stamp stamp' : Stamp)
    (hallow : (e.evaluateGate stamp' r' s').result.action = .allow) :
    (e.evaluateGate stamp r s).result.action = .allow := by
  obtain ⟨-, -, -, hg, -⟩ := Settings.check_eq_ok_iff.1 (check_settings_of_build hbuild)
  obtain ⟨hclear, hfree, hwithin⟩ := passes_of_allow hallow
  have clear : e.IsClear s r := fun c hc =>
    hclear c (violates_of_noRiskierThan h hfailures hc)
  have within : e.IsWithin r := isWithin_of_noRiskierThan hg h hwithin
  exact ((Ruling.within clear (mt hstopped hfree) within).decision_eq stamp).1

/-! ## Two requests for review -/

/-- A request for an agent at the review gate, with nothing sensitive in it. -/
def reviewRequest (mode : GovernanceMode) (conflict epistemic ece : ℚ) (vocabulary : Nat) :
    GateRequest Exact where
  gate := .reviewAutoPass
  observed := .finite 1
  mode
  agent := some "a1"
  uncertainty := .ofComponents (.finite epistemic) (.finite 0.1) "measured"
  calibration := .ofError (.finite ece) .epoch
  vocabulary := some vocabulary
  content := none
  conflict := .finite conflict

end Engine

end

section

open scoped Exact.Whole

/-- What passes review in the strict mode with twice the vocabulary passes in the standard mode. -/
theorem Engine.allow_reviewRequest_standard :
    let e : Engine Exact := ⟨.default, .standard, none⟩
    let r := reviewRequest .standard 0.2 0.1 0.05 32
    let r' := reviewRequest .strict 0.3 0.2 0.1 64
    let stamp : Stamp := ⟨.epoch, .zero⟩
    r.NoRiskierThan r' ∧ (e.evaluateGate stamp r' .blank).result.action = .allow ∧
      (e.evaluateGate stamp r .blank).result.action = .allow := by
  intro e r r' stamp
  have hbuild : build .default .standard none = .ok e := by
    rw [build, Settings.check_default]
    rfl
  have hrisk : r.NoRiskierThan r' :=
    { gate := rfl
      observed := rfl
      mode := by decide
      conflict := by decide +kernel
      built := ⟨.ofComponents _ _ _, .ofComponents _ _ _⟩
      finite := ⟨rfl, rfl⟩
      total := by decide +kernel
      ratio := by decide +kernel
      error := by decide +kernel
      vocabulary := by decide +kernel
      sensitive := id }
  have hallow : (e.evaluateGate stamp r' .blank).result.action = .allow := by
    decide +kernel
  exact ⟨hrisk, hallow, allow_of_noRiskierThan hbuild hrisk le_rfl id stamp stamp hallow⟩

end

end Mandate
