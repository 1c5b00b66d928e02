import Mandate.Proofs.Threshold.Order

/-!
# What the kinds of uncertainty do to a threshold

Of the two parts of an uncertainty the epistemic one tightens every gate, and the noise of the task
relaxes it although the total grows with it. An uncertainty with a broken part tightens most. The
main statement is `epistemic_tightens`.
-/

namespace Mandate

/-! ## The epistemic share -/

/-- The epistemic share of the two parts; none when there is no uncertainty. -/
def epistemicShare (e a : ℚ) : ℚ :=
  e / (e + a)

section

variable {e e' a a' : ℚ}

theorem epistemicShare_nonneg (he : 0 ≤ e) (ha : 0 ≤ a) : 0 ≤ epistemicShare e a :=
  div_nonneg he (add_nonneg he ha)

theorem epistemicShare_le_one (he : 0 ≤ e) (ha : 0 ≤ a) : epistemicShare e a ≤ 1 :=
  div_le_one_of_le₀ (le_add_of_nonneg_right ha) (add_nonneg he ha)

theorem epistemicShare_mono (he : 0 ≤ e) (hee : e ≤ e') (ha : 0 ≤ a) :
    epistemicShare e a ≤ epistemicShare e' a := by
  rcases he.eq_or_lt with rfl | hpos
  · rw [epistemicShare, zero_div]
    exact epistemicShare_nonneg hee ha
  · have hcross : e * (e' + a) ≤ e' * (e + a) := by
      rw [mul_add, mul_add, mul_comm e' e]
      gcongr
    exact (div_le_div_iff₀ (by positivity) (by linarith)).2 hcross

theorem epistemicShare_antitone (he : 0 ≤ e) (ha : 0 ≤ a) (haa : a ≤ a') :
    epistemicShare e a' ≤ epistemicShare e a := by
  rcases he.eq_or_lt with rfl | hpos
  · simp [epistemicShare]
  · unfold epistemicShare
    gcongr

-- The total counts up to one only. That cap turns into one of the share by the epistemic part.
theorem epistemicShare_mul_min (he : 0 ≤ e) (ha : 0 ≤ a) :
    epistemicShare e a * min 1 (e + a) = min (epistemicShare e a) e := by
  have htotal : epistemicShare e a * (e + a) = e :=
    div_mul_cancel_of_imp fun h => by linarith
  rw [mul_min_of_nonneg _ _ (epistemicShare_nonneg he ha), mul_one, htotal]

end

section

variable [ExactContext]

/-! ## The factor of an uncertainty -/

namespace Uncertainty

variable {u : Uncertainty Exact} {e e' a a' : ℚ}

theorem portions_ofComponents (he : 0 ≤ e) (ha : 0 ≤ a) (method : String) :
    (ofComponents (.finite e) (.finite a) method).portions =
      (min 1 (e + a), epistemicShare e a) := by
  have htotal : 0 ≤ e + a := add_nonneg he ha
  simp only [portions, isFinite, ofComponents, ofParts, Exact.finite_add_finite,
    Exact.isFinite_finite, Exact.zero_eq, Exact.one_eq, Exact.finite_le_finite,
    Exact.finite_lt_finite, Bool.and_self, Bool.not_true, Bool.false_eq_true, if_false, if_true]
  rcases htotal.eq_or_lt with hzero | hpos
  · rw [if_pos hzero.ge, epistemicShare, ← hzero, div_zero, min_eq_right zero_le_one]
  · rw [if_neg hpos.not_ge, if_pos hpos, Exact.finite_div_finite hpos.ne', Exact.clamp_finite]
    have hshare : min 1 (max 0 (epistemicShare e a)) = epistemicShare e a := by
      rw [max_eq_right (epistemicShare_nonneg he ha), min_eq_right (epistemicShare_le_one he ha)]
    rw [← epistemicShare, hshare]
    simp only [Exact.portion, max_eq_right htotal, hshare]

theorem weight_ofComponents (he : 0 ≤ e) (ha : 0 ≤ a) (method : String) :
    (ofComponents (.finite e) (.finite a) method).weight =
      0.85 + 0.25 * epistemicShare e a + 0.35 * min (epistemicShare e a) e := by
  rw [weight, portions_ofComponents he ha, ← epistemicShare_mul_min he ha]
  ring

theorem weight_mono_epistemic (he : 0 ≤ e) (hee : e ≤ e') (ha : 0 ≤ a) (method method' : String) :
    (ofComponents (.finite e) (.finite a) method).weight ≤
      (ofComponents (.finite e') (.finite a) method').weight := by
  have hshare := epistemicShare_mono he hee ha
  rw [weight_ofComponents he ha, weight_ofComponents (he.trans hee) ha]
  gcongr

theorem weight_antitone_aleatoric (he : 0 ≤ e) (ha : 0 ≤ a) (haa : a ≤ a')
    (method method' : String) :
    (ofComponents (.finite e) (.finite a') method').weight ≤
      (ofComponents (.finite e) (.finite a) method).weight := by
  have hshare := epistemicShare_antitone he ha haa
  rw [weight_ofComponents he ha, weight_ofComponents he (ha.trans haa)]
  gcongr

/-! ## Broken parts -/

theorem portions_le_one (u : Uncertainty Exact) : u.portions.1 ≤ 1 ∧ u.portions.2 ≤ 1 := by
  unfold portions
  split
  · split
    · exact ⟨zero_le_one, zero_le_one⟩
    · exact ⟨u.total.portion_le_one, u.ratio.portion_le_one⟩
  · exact ⟨le_rfl, le_rfl⟩

/-- No uncertainty tightens more than one that is not finite. -/
theorem weight_le_of_not_isFinite {broken : Uncertainty Exact} (h : broken.isFinite = false)
    (u : Uncertainty Exact) : u.weight ≤ broken.weight := by
  have hgreatest : broken.portions = (1, 1) := if_neg (Bool.eq_false_iff.1 h)
  obtain ⟨_, hratio⟩ := u.portions_nonneg
  obtain ⟨htotal, hratio'⟩ := u.portions_le_one
  unfold weight
  rw [hgreatest]
  gcongr

theorem not_isFinite_ofParts {total epistemic aleatoric : Exact} {method : String}
    (h : ∃ part ∈ [total, epistemic, aleatoric], Scalar.isFinite part = false) :
    (ofParts total epistemic aleatoric method).isFinite = false := by
  simpa [isFinite, ofParts, Bool.and_eq_false_iff, or_assoc, -Bool.and_eq_false_imp] using h

end Uncertainty

/-! ## The threshold -/

/-- Under accepted settings more epistemic uncertainty makes the threshold of a gate stricter, and
more noise beside the same epistemic part makes it less strict although the total grows. Nothing
makes it stricter than an uncertainty with a part that is not finite. -/
theorem Settings.epistemic_tightens {s : Settings Exact} (h : s.check = .ok ()) (gate : Gate)
    (m : GovernanceMode) (c : Calibration Exact) (vocabulary : Option Nat) :
    let threshold (u : Uncertainty Exact) : Exact :=
      (s.governance.modulate gate m u c vocabulary).threshold
    let AsStrictAs (u u' : Uncertainty Exact) : Prop :=
      gate.direction.Meets (threshold u) (threshold u')
    (∀ (e e' a : ℚ) (method method' : String), 0 ≤ e → e ≤ e' → 0 ≤ a →
      AsStrictAs (.ofComponents (.finite e') (.finite a) method')
        (.ofComponents (.finite e) (.finite a) method)) ∧
    (∀ (e a a' : ℚ) (method method' : String), 0 ≤ e → 0 ≤ a → a ≤ a' →
      let u : Uncertainty Exact := .ofComponents (.finite e) (.finite a) method
      let u' : Uncertainty Exact := .ofComponents (.finite e) (.finite a') method'
      u.total ≤ u'.total ∧ AsStrictAs u u') ∧
    (∀ (total epistemic aleatoric : Exact) (method : String),
      (∃ part ∈ [total, epistemic, aleatoric], Scalar.isFinite part = false) →
      ∀ u, AsStrictAs (.ofParts total epistemic aleatoric method) u) := by
  intro threshold AsStrictAs
  obtain ⟨-, -, -, hgovernance, -⟩ := check_eq_ok_iff.1 h
  have asStrict {u u' : Uncertainty Exact} (hweight : u'.weight ≤ u.weight) : AsStrictAs u u' :=
    GovernanceSettings.threshold_meets_of_tightness_le hgovernance
      (tightness_mono le_rfl hweight le_rfl)
  refine ⟨fun e e' a method method' he hee ha => ?_, fun e a a' method method' he ha haa => ?_,
    fun total epistemic aleatoric method hbroken u => ?_⟩
  · exact asStrict (Uncertainty.weight_mono_epistemic he hee ha method method')
  · have htotal : e + a ≤ e + a' := by gcongr
    exact ⟨htotal, asStrict (Uncertainty.weight_antitone_aleatoric he ha haa method method')⟩
  · exact asStrict (Uncertainty.weight_le_of_not_isFinite
      (Uncertainty.not_isFinite_ofParts hbroken) u)

end

section

open scoped Exact.Whole

/-- The default review gate, with totals below one and above it, and with an infinite part. -/
theorem Settings.epistemic_tightens_review :
    let threshold (u : Uncertainty Exact) : Exact :=
      ((default : Settings Exact).governance.modulate .reviewAutoPass .standard u
        (.ofError (.finite 0.1) .epoch) (some 48)).threshold
    let measured (e a : ℚ) : Uncertainty Exact := .ofComponents (.finite e) (.finite a) "measured"
    let broken : Uncertainty Exact := .ofParts (.finite 1) (.infinite true) (.finite 0) "broken"
    (default : Settings Exact).check = .ok () ∧
      threshold (measured 0.3 0.4) ≤ threshold (measured 0.9 0.4) ∧
      threshold (measured 0.3 0.9) ≤ threshold (measured 0.3 0.4) ∧
      threshold (measured 0.9 0.4) ≤ threshold broken := by
  intro threshold measured broken
  obtain ⟨hepistemic, haleatoric, hbroken⟩ := epistemic_tightens check_default .reviewAutoPass
    .standard (.ofError (.finite 0.1) .epoch) (some 48)
  refine ⟨check_default, ?_, ?_, ?_⟩
  · exact hepistemic 0.3 0.9 0.4 _ _ (by norm_num) (by norm_num) (by norm_num)
  · exact (haleatoric 0.3 0.4 0.9 _ _ (by norm_num) (by norm_num) (by norm_num)).2
  · exact hbroken _ _ _ _ ⟨.infinite true, by simp, rfl⟩ _

end

end Mandate
