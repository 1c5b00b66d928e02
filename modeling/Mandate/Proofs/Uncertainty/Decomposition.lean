import Mandate.Proofs.Scalar.Logarithm
import Mandate.Proofs.Uncertainty.Ensemble

/-!
# The parts of an ensemble's uncertainty

Over exact numbers the uncertainty of an ensemble is wholly epistemic or aleatoric: the two parts
add up to the total. There is nothing epistemic where the members agree, and nothing aleatoric where
each of them is sure. The main statement is `ofEnsemble_exact`.
-/

namespace Mandate

/-! ## Where disagreement and noise vanish -/

namespace Ensemble

variable {xs ys : List ℚ}

theorem average_eq_zero_iff (h : ∀ x ∈ xs, 0 ≤ x) : average xs = 0 ↔ ∀ x ∈ xs, x = 0 := by
  rw [average, div_eq_zero_iff, Nat.cast_eq_zero, List.length_eq_zero_iff]
  constructor
  · rintro (hsum | rfl)
    · exact fun x hx => List.all_zero_of_le_zero_le_of_sum_eq_zero h hsum hx
    · exact fun x hx => absurd hx List.not_mem_nil
  · exact fun hzero => Or.inl (List.sum_eq_zero hzero)

theorem average_of_forall_eq {c : ℚ} (hne : xs ≠ []) (h : ∀ x ∈ xs, x = c) : average xs = c := by
  have hlength : (xs.length : ℚ) ≠ 0 := by simpa using hne
  rw [average, List.eq_replicate_of_mem h, List.sum_replicate, List.length_replicate, nsmul_eq_mul,
    mul_div_cancel_left₀ _ hlength]

theorem disagreement_eq_zero_iff : disagreement xs = 0 ↔ ∀ x ∈ xs, ∀ y ∈ xs, x = y := by
  have hzero : disagreement xs = 0 ↔ ∀ x ∈ xs, x = average xs := by
    rw [disagreement, average_eq_zero_iff fun d hd => ?_]
    · simp [sub_eq_zero]
    · obtain ⟨x, -, rfl⟩ := List.mem_map.1 hd
      exact mul_self_nonneg _
  rw [hzero]
  constructor
  · intro h x hx y hy
    rw [h x hx, h y hy]
  · intro h x hx
    exact (average_of_forall_eq (List.ne_nil_of_mem hx) fun y hy => h y hy x hx).symm

theorem noise_eq_zero_iff (h : ∀ x ∈ xs, 0 ≤ x ∧ x ≤ 1) :
    noise xs = 0 ↔ ∀ x ∈ xs, x = 0 ∨ x = 1 := by
  rw [noise, average_eq_zero_iff fun v hv => ?_]
  · simp [sub_eq_zero, eq_comm (a := (1 : ℚ))]
  · obtain ⟨x, hx, rfl⟩ := List.mem_map.1 hv
    exact mul_nonneg (h x hx).1 (sub_nonneg.2 (h x hx).2)

/-! ## The order of the members -/

theorem average_perm (h : xs.Perm ys) : average xs = average ys := by
  rw [average, average, h.sum_eq, h.length_eq]

theorem disagreement_perm (h : xs.Perm ys) : disagreement xs = disagreement ys := by
  rw [disagreement, disagreement, average_perm h, average_perm (h.map _)]

theorem noise_perm (h : xs.Perm ys) : noise xs = noise ys :=
  average_perm (h.map _)

/-! ## Bounds -/

theorem four_mul_disagreement_add_noise_le (xs : List ℚ) :
    4 * disagreement xs + 4 * noise xs ≤ 1 := by
  rw [← mul_add, disagreement_add_noise]
  nlinarith only [mul_self_nonneg (2 * average xs - 1)]

end Ensemble

/-! ## The uncertainty of an ensemble -/

namespace Uncertainty

open Ensemble

variable [ExactContext] {members members' : List Exact} {e a : ℚ}

theorem ratio_ofComponents (he : 0 ≤ e) (ha : 0 ≤ a) (method : String) :
    (ofComponents (Exact.finite e) (.finite a) method).ratio = .finite (epistemicShare e a) := by
  have htotal : 0 ≤ e + a := add_nonneg he ha
  simp only [ofComponents, ofParts, Exact.finite_add_finite, Exact.isFinite_finite, Exact.zero_eq,
    Exact.one_eq, Exact.finite_lt_finite, Bool.and_self, Bool.not_true, Bool.false_eq_true,
    if_false]
  rcases htotal.eq_or_lt with hzero | hpos
  · rw [if_neg hzero.not_lt, epistemicShare, ← hzero, div_zero]
  · rw [if_pos hpos, Exact.finite_div_finite hpos.ne', Exact.clamp_finite, ← epistemicShare,
      max_eq_right (epistemicShare_nonneg he ha), min_eq_right (epistemicShare_le_one he ha)]

theorem isConsistent_ofComponents {tolerance : Exact} (h : 0.0 ≤ tolerance) (method : String) :
    (ofComponents (.finite e) (.finite a) method).isConsistent tolerance = true := by
  rw [Exact.zero_eq] at h
  simpa [isConsistent, ofComponents, ofParts, Exact.magnitude_finite] using h

theorem weight_bounds (u : Uncertainty Exact) : 0.85 ≤ u.weight ∧ u.weight ≤ 1.45 := by
  obtain ⟨htotal, hratio⟩ := u.portions_nonneg
  obtain ⟨htotal', hratio'⟩ := u.portions_le_one
  unfold weight
  constructor
  · have hshare : 0 ≤ u.portions.2 * (0.25 + 0.35 * u.portions.1) := by positivity
    linarith
  · calc (0.85 + u.portions.2 * (0.25 + 0.35 * u.portions.1) : ℚ)
        ≤ 0.85 + 1 * (0.25 + 0.35 * 1) := by gcongr
      _ = 1.45 := by norm_num

theorem factor_bounds (u : Uncertainty Exact) : 0.85 ≤ u.factor ∧ u.factor ≤ 1.45 := by
  rw [u.factor_eq, Exact.ofScientific_eq, Exact.ofScientific_eq, Exact.finite_le_finite,
    Exact.finite_le_finite]
  exact u.weight_bounds

theorem ofEnsemble_perm (h : ∀ p ∈ members, Scalar.isNaN p = false)
    (hperm : members.Perm members') : ofEnsemble members' = ofEnsemble members := by
  have hvotes := hperm.map Exact.nearest
  rw [ofEnsemble_eq h, ofEnsemble_eq fun p hp => h p (hperm.mem_iff.2 hp),
    disagreement_perm hvotes, noise_perm hvotes]

theorem isNaN_of_isFinite {p : Exact} (h : Scalar.isFinite p = true) : Scalar.isNaN p = false := by
  obtain ⟨q, rfl⟩ := Exact.isFinite_iff.1 h
  exact Exact.isNaN_finite

/-- The parts of an ensemble's uncertainty add up to the total, and all of its numbers lie in the
unit interval. The epistemic part vanishes exactly if the members agree, and the aleatoric one
exactly if each is sure, once they are brought into the unit interval. The order of the members does
not matter. -/
theorem ofEnsemble_exact (h : ∀ p ∈ members, Scalar.isFinite p = true) :
    let u := ofEnsemble members
    let votes := members.map Exact.nearest
    u.epistemic + u.aleatoric = u.total ∧
    (∀ tolerance, 0.0 ≤ tolerance → u.isConsistent tolerance = true) ∧
    (∀ x ∈ [u.total, u.epistemic, u.aleatoric, u.ratio], x.InUnit) ∧
    (u.epistemic = 0.0 ↔ ∀ p ∈ votes, ∀ q ∈ votes, p = q) ∧
    (u.aleatoric = 0.0 ↔ ∀ p ∈ votes, p = 0 ∨ p = 1) ∧
    (∀ members', members.Perm members' → ofEnsemble members' = u) ∧
    0.85 ≤ u.factor ∧ u.factor ≤ 1.45 := by
  intro u votes
  have hdefined : ∀ p ∈ members, Scalar.isNaN p = false := fun p hp => isNaN_of_isFinite (h p hp)
  have hunit : ∀ q ∈ votes, 0 ≤ q ∧ q ≤ 1 := by
    intro q hq
    obtain ⟨p, -, rfl⟩ := List.mem_map.1 hq
    exact ⟨p.nearest_nonneg, p.nearest_le_one⟩
  have hepistemic : 0 ≤ 4 * disagreement votes := by
    have := disagreement_nonneg votes
    positivity
  have haleatoric : 0 ≤ 4 * noise votes := by
    have := noise_nonneg hunit
    positivity
  have htotal := four_mul_disagreement_add_noise_le votes
  have hu : u = ofComponents (.finite (4 * disagreement votes)) (.finite (4 * noise votes))
      "ensemble_variance" := ofEnsemble_eq hdefined
  refine ⟨?_, fun tolerance ht => ?_, ?_, ?_, ?_,
    fun members' hperm => ofEnsemble_perm hdefined hperm, u.factor_bounds⟩
  · rw [hu]
    rfl
  · rw [hu]
    exact isConsistent_ofComponents ht _
  · have hratio := ratio_ofComponents hepistemic haleatoric "ensemble_variance"
    simp only [List.forall_mem_cons, List.not_mem_nil, false_implies, implies_true, and_true]
    rw [hu, hratio]
    refine ⟨Exact.inUnit_finite_iff.2 ⟨add_nonneg hepistemic haleatoric, htotal⟩,
      Exact.inUnit_finite_iff.2 ⟨hepistemic, by linarith⟩,
      Exact.inUnit_finite_iff.2 ⟨haleatoric, by linarith⟩,
      Exact.inUnit_finite_iff.2 ⟨epistemicShare_nonneg hepistemic haleatoric,
        epistemicShare_le_one hepistemic haleatoric⟩⟩
  · rw [← disagreement_eq_zero_iff, hu, Exact.zero_eq]
    simp [ofComponents, ofParts]
  · rw [← noise_eq_zero_iff hunit, hu, Exact.zero_eq]
    simp [ofComponents, ofParts]

end Uncertainty

namespace Uncertainty

open scoped Exact.Whole

/-- Two members are brought into the unit interval, and only the one within it leaves anything
open. -/
theorem ofEnsemble_exact_clamped :
    let members : List Exact := [.finite (-1), .finite 0.5, .finite 3]
    let u := ofEnsemble members
    (∀ p ∈ members, Scalar.isFinite p = true) ∧ u.epistemic + u.aleatoric = u.total ∧
      u.isConsistent 0.0 = true ∧ u.ratio.InUnit ∧ u.epistemic ≠ 0.0 ∧ u.aleatoric ≠ 0.0 ∧
      ofEnsemble members.reverse = u := by
  intro members u
  have finite : ∀ p ∈ members, Scalar.isFinite p = true := by decide
  obtain ⟨hsum, hconsistent, hunit, hepistemic, haleatoric, hperm, -⟩ := ofEnsemble_exact finite
  refine ⟨finite, hsum, hconsistent 0.0 (Exact.le_refl rfl), hunit _ (by simp [u]),
    mt hepistemic.1 ?_, mt haleatoric.1 ?_, hperm _ members.reverse_perm.symm⟩
  · norm_num [members, Exact.nearest]
  · norm_num [members, Exact.nearest]

end Uncertainty
end Mandate
