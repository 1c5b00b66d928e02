import Mandate.Proofs.Threshold.Epistemic
import Mathlib.Algebra.BigOperators.Ring.List
import Mathlib.Algebra.Order.BigOperators.Group.List
import Mathlib.Tactic.FieldSimp
import Mathlib.Tactic.Ring

/-!
# Uncertainty among the members of an ensemble

Each member counts as its nearest number of the unit interval, so an infinite one counts as an end
of it. Over exact numbers the disagreement between the members and the noise within them add up to
the total (`ofEnsemble_eq`). A member that moves away from the mean of the others to an end of the
interval never lowers the factor (`weight_ofEnsemble_le`).
-/

namespace Mandate

/-! ## Disagreement and noise -/

namespace Ensemble

variable {xs before after : List ℚ} {p v : ℚ}

/-- The mean of a list. -/
def average (xs : List ℚ) : ℚ :=
  xs.sum / xs.length

/-- The variance between the members. -/
def disagreement (xs : List ℚ) : ℚ :=
  average (xs.map fun x => (x - average xs) * (x - average xs))

/-- The mean variance within the members. -/
def noise (xs : List ℚ) : ℚ :=
  average (xs.map fun x => x * (1 - x))

theorem disagreement_eq (xs : List ℚ) :
    disagreement xs = average (xs.map fun x => x * x) - average xs * average xs := by
  rcases eq_or_ne xs [] with rfl | hne
  · simp [disagreement, average]
  · have hlength : (xs.length : ℚ) ≠ 0 := by simpa using hne
    have hsum : xs.sum = average xs * xs.length := (div_mul_cancel₀ _ hlength).symm
    have hexpand (x m : ℚ) : (x - m) * (x - m) = x * x + (x * -(2 * m) + m * m) := by ring
    have hsquares : (xs.map fun x => (x - average xs) * (x - average xs)).sum =
        (xs.map fun x => x * x).sum - average xs * average xs * xs.length := by
      simp only [hexpand, List.sum_map_add, List.sum_map_mul_right, List.map_id', List.map_const',
        List.sum_replicate, nsmul_eq_mul, hsum]
      ring
    rw [disagreement, average, hsquares, List.length_map, sub_div, mul_div_cancel_right₀ _ hlength]
    simp only [average, List.length_map]

theorem noise_eq (xs : List ℚ) :
    noise xs = average xs - average (xs.map fun x => x * x) := by
  have hexpand (x : ℚ) : x * (1 - x) = x + -1 * (x * x) := by ring
  simp only [noise, hexpand, average, List.length_map, List.sum_map_add, List.sum_map_mul_left,
    List.map_id']
  ring

theorem disagreement_add_noise (xs : List ℚ) :
    disagreement xs + noise xs = average xs * (1 - average xs) := by
  rw [disagreement_eq, noise_eq]
  ring

theorem average_nonneg (h : ∀ x ∈ xs, 0 ≤ x) : 0 ≤ average xs :=
  div_nonneg (List.sum_nonneg h) (Nat.cast_nonneg _)

theorem disagreement_nonneg (xs : List ℚ) : 0 ≤ disagreement xs := by
  refine average_nonneg fun x hx => ?_
  obtain ⟨y, -, rfl⟩ := List.mem_map.1 hx
  exact mul_self_nonneg _

theorem noise_nonneg (h : ∀ x ∈ xs, 0 ≤ x ∧ x ≤ 1) : 0 ≤ noise xs := by
  refine average_nonneg fun x hx => ?_
  obtain ⟨y, hy, rfl⟩ := List.mem_map.1 hx
  exact mul_nonneg (h y hy).1 (sub_nonneg.2 (h y hy).2)

-- An infinity stands at an end of the interval, where nothing is left open within a member.
theorem nearest_mul_one_sub_nearest [ExactContext] {a : Exact} (h : Scalar.isFinite a = false) :
    a.nearest * (1 - a.nearest) = 0 := by
  cases a with
  | finite q => cases h
  | infinite negative => cases negative <;> simp [Exact.nearest]
  | undefined => simp [Exact.nearest]

theorem noise_nearest_nonneg (ys : List Exact) : 0 ≤ noise (ys.map Exact.nearest) := by
  refine noise_nonneg fun q hq => ?_
  obtain ⟨y, -, rfl⟩ := List.mem_map.1 hq
  exact ⟨y.nearest_nonneg, y.nearest_le_one⟩

/-! ## One member replaced -/

/-- The second number is at least as far as the first from the mean of the others, if there are
any. -/
def IsFarther (others : List ℚ) (p v : ℚ) : Prop :=
  others = [] ∨ |p - average others| ≤ |v - average others|

theorem disagreement_insert (before after : List ℚ) (p : ℚ) :
    disagreement (before ++ p :: after) =
      (((before ++ after).map fun x => x * x).sum + p * p) / ((before ++ after).length + 1) -
        (((before ++ after).sum + p) / ((before ++ after).length + 1)) ^ 2 := by
  rw [disagreement_eq]
  simp only [average, List.map_append, List.map_cons, List.sum_append, List.sum_cons,
    List.length_append, List.length_cons, List.length_map]
  push_cast
  ring

theorem disagreement_le_iff :
    disagreement (before ++ p :: after) ≤ disagreement (before ++ v :: after) ↔
      IsFarther (before ++ after) p v := by
  rw [disagreement_insert, disagreement_insert, IsFarther]
  rcases eq_or_ne (before ++ after) [] with hnil | hne
  · rw [hnil]
    refine iff_of_true (le_of_eq ?_) (Or.inl rfl)
    simp
    ring
  · rw [or_iff_right hne, average, ← sq_le_sq]
    have hlength : 0 < ((before ++ after).length : ℚ) := by
      exact_mod_cast List.length_pos_iff.2 hne
    generalize ((before ++ after).length : ℚ) = n at hlength ⊢
    generalize (before ++ after).sum = s
    generalize ((before ++ after).map fun x => x * x).sum = q
    -- Both differences have the sign of one product.
    have hleft : (q + v * v) / (n + 1) - ((s + v) / (n + 1)) ^ 2 -
        ((q + p * p) / (n + 1) - ((s + p) / (n + 1)) ^ 2) =
          (v - p) * (n * (v + p) - 2 * s) / (n + 1) ^ 2 := by
      field_simp
      ring
    have hright : (v - s / n) ^ 2 - (p - s / n) ^ 2 = (v - p) * (n * (v + p) - 2 * s) / n := by
      field_simp
      ring
    rw [← sub_nonneg, hleft, ← sub_nonneg (b := (p - s / n) ^ 2), hright,
      le_div_iff₀ (by positivity), le_div_iff₀ hlength, zero_mul, zero_mul]

theorem noise_le (h : v * (1 - v) ≤ p * (1 - p)) :
    noise (before ++ v :: after) ≤ noise (before ++ p :: after) := by
  simp only [noise, average, List.map_append, List.map_cons, List.sum_append, List.sum_cons,
    List.length_append, List.length_cons, List.length_map]
  gcongr

end Ensemble

/-! ## The uncertainty of an ensemble -/

namespace Uncertainty

variable [ExactContext] {members before after : List Exact} {p x : Exact}

open Ensemble

theorem mean_map_finite {qs : List ℚ} (h : qs ≠ []) :
    mean (qs.map Exact.finite) = .finite (average qs) := by
  rw [mean, Exact.sum_map_finite, List.length_map, Exact.ofNat_eq]
  exact Exact.finite_div_finite (by simpa using h)

/-- The disagreement of an ensemble is epistemic and its noise aleatoric, and the total is their
sum. -/
theorem ofEnsemble_eq (h : ∀ p ∈ members, Scalar.isNaN p = false) :
    ofEnsemble members =
      .ofComponents (.finite (4 * disagreement (members.map Exact.nearest)))
        (.finite (4 * noise (members.map Exact.nearest))) "ensemble_variance" := by
  rcases eq_or_ne members [] with rfl | hne
  · have hnone : (0.0 : Exact) = .finite (4 * disagreement []) ∧
        (0.0 : Exact) = .finite (4 * noise []) := by
      norm_num [disagreement, noise, average]
    simp only [ofEnsemble, List.isEmpty_nil, if_true, List.map_nil]
    rw [← hnone.1, ← hnone.2]
  · have hvotes : (members.map fun p => Scalar.clamp p 0.0 1.0) =
        (members.map Exact.nearest).map Exact.finite := by
      rw [List.map_map]
      exact List.map_congr_left fun p hp => Exact.clamp_unit (h p hp)
    have hne' : members.map Exact.nearest ≠ [] := by simpa using hne
    have htotal := disagreement_add_noise (members.map Exact.nearest)
    rw [ofEnsemble, if_neg (by simpa using hne), hvotes]
    generalize members.map Exact.nearest = votes at hne' htotal ⊢
    have hmap (f : Exact → Exact) (g : ℚ → ℚ) (hf : ∀ q, f (.finite q) = .finite (g q)) :
        mean ((votes.map Exact.finite).map f) = .finite (average (votes.map g)) := by
      have hcomp : (votes.map Exact.finite).map f = (votes.map g).map Exact.finite := by
        rw [List.map_map, List.map_map]
        exact List.map_congr_left fun q _ => hf q
      rw [hcomp, mean_map_finite (by simpa using hne')]
    have hbetween : mean ((votes.map Exact.finite).map fun p =>
        Scalar.square (p - mean (votes.map Exact.finite))) = .finite (disagreement votes) := by
      rw [mean_map_finite hne']
      exact hmap _ _ fun q => by simp [Scalar.square]
    have hwithin : mean ((votes.map Exact.finite).map fun p => p * (1.0 - p)) =
        Exact.finite (noise votes) :=
      hmap _ _ fun q => by rw [Exact.one_eq, Exact.finite_sub_finite, Exact.finite_mul_finite]
    have hfour : (4.0 : Exact) = .finite 4 := by norm_num
    dsimp only
    rw [hbetween, hwithin, mean_map_finite hne', hfour, Exact.one_eq, ofComponents]
    simp only [Exact.finite_sub_finite, Exact.finite_mul_finite, Exact.finite_add_finite]
    rw [← mul_add, htotal, mul_assoc]

theorem not_isFinite_ofEnsemble (h : ∃ p ∈ members, Scalar.isNaN p = true) :
    (ofEnsemble members).isFinite = false := by
  obtain ⟨p, hp, hnan⟩ := h
  obtain rfl := Exact.isNaN_iff.1 hnan
  have hmem : Exact.undefined ∈ members.map fun p => Scalar.clamp p 0.0 1.0 :=
    List.mem_map.2 ⟨.undefined, hp, Exact.clamp_undefined⟩
  have hmean : mean (members.map fun p => Scalar.clamp p 0.0 1.0) = .undefined := by
    rw [mean, Exact.sum_of_mem hmem]
    rfl
  rw [ofEnsemble, if_neg (by simpa using List.ne_nil_of_mem hp)]
  dsimp only
  rw [hmean]
  refine not_isFinite_ofParts ⟨_, List.mem_cons_self .., ?_⟩
  rfl

/-! ## One member replaced -/

theorem ofEnsemble_replace (h : Scalar.clamp x 0.0 1.0 = Scalar.clamp p 0.0 1.0) :
    ofEnsemble (before ++ x :: after) = ofEnsemble (before ++ p :: after) := by
  have hmap : (before ++ x :: after).map (fun p => Scalar.clamp p 0.0 1.0) =
      (before ++ p :: after).map fun p => Scalar.clamp p 0.0 1.0 := by
    simp only [List.map_append, List.map_cons, h]
  have hempty (y : Exact) : (before ++ y :: after).isEmpty = false := by simp
  simp only [ofEnsemble, hempty, hmap]

theorem ofEnsemble_nearest (hx : Scalar.isNaN x = false) :
    ofEnsemble (before ++ x :: after) = ofEnsemble (before ++ .finite x.nearest :: after) := by
  refine ofEnsemble_replace ?_
  rw [Exact.clamp_unit hx, Exact.zero_eq, Exact.one_eq, Exact.clamp_finite,
    max_eq_right x.nearest_nonneg, min_eq_right x.nearest_le_one]

theorem weight_ofEnsemble_mono {members' : List Exact}
    (hm : ∀ y ∈ members, Scalar.isNaN y = false) (hm' : ∀ y ∈ members', Scalar.isNaN y = false)
    (hmore : disagreement (members.map Exact.nearest) ≤ disagreement (members'.map Exact.nearest))
    (hless : noise (members'.map Exact.nearest) ≤ noise (members.map Exact.nearest)) :
    (ofEnsemble members).weight ≤ (ofEnsemble members').weight := by
  have hdisagreement := disagreement_nonneg (members.map Exact.nearest)
  have hdisagreement' := disagreement_nonneg (members'.map Exact.nearest)
  have hnoise := noise_nearest_nonneg members
  have hnoise' := noise_nearest_nonneg members'
  rw [ofEnsemble_eq hm, ofEnsemble_eq hm']
  refine (weight_mono_epistemic (by positivity) ?_ (by positivity) _ "ensemble_variance").trans
    (weight_antitone_aleatoric (by positivity) (by positivity) ?_ _ _)
  · gcongr
  · gcongr

theorem weight_ofEnsemble_le_of_defined (hdefined : ∀ y ∈ before ++ after, Scalar.isNaN y = false)
    (hp : Scalar.isNaN p = false) (hx : Scalar.isNaN x = false)
    (hbroken : Scalar.isFinite x = false)
    (h : IsFarther ((before ++ after).map Exact.nearest) p.nearest x.nearest) :
    (ofEnsemble (before ++ p :: after)).weight ≤ (ofEnsemble (before ++ x :: after)).weight := by
  have hall {y : Exact} (hy : Scalar.isNaN y = false) :
      ∀ z ∈ before ++ y :: after, Scalar.isNaN z = false := by
    intro z hz
    rcases List.mem_append.1 hz with hz | hz
    · exact hdefined z (List.mem_append_left _ hz)
    · rcases List.mem_cons.1 hz with rfl | hz
      · exact hy
      · exact hdefined z (List.mem_append_right _ hz)
  refine weight_ofEnsemble_mono (hall hp) (hall hx) ?_ ?_
  · simp only [List.map_append, List.map_cons] at h ⊢
    exact disagreement_le_iff.2 h
  · simp only [List.map_append, List.map_cons]
    refine noise_le ?_
    rw [nearest_mul_one_sub_nearest hbroken]
    exact mul_nonneg p.nearest_nonneg (sub_nonneg.2 p.nearest_le_one)

/-- A member that is replaced by one that is not finite does not lower the factor if a member is not
a number, or if the end of the interval that the new one counts as is at least as far from the mean
of the other members as the member was. -/
theorem weight_ofEnsemble_le (hx : Scalar.isFinite x = false) (hp : Scalar.isNaN p = false)
    (h : Scalar.isNaN x = true ∨ (∃ y ∈ before ++ after, Scalar.isNaN y = true) ∨
      IsFarther ((before ++ after).map Exact.nearest) p.nearest x.nearest) :
    (ofEnsemble (before ++ p :: after)).weight ≤ (ofEnsemble (before ++ x :: after)).weight := by
  by_cases hnan : ∃ y ∈ before ++ x :: after, Scalar.isNaN y = true
  · exact weight_le_of_not_isFinite (not_isFinite_ofEnsemble hnan) _
  · simp only [List.mem_append, List.mem_cons, not_exists, not_and, Bool.not_eq_true] at hnan
    have hx' : Scalar.isNaN x = false := hnan x (Or.inr (Or.inl rfl))
    have hdefined : ∀ y ∈ before ++ after, Scalar.isNaN y = false := by
      intro y hy
      exact hnan y ((List.mem_append.1 hy).imp_right Or.inr)
    rcases h with h | ⟨y, hy, h⟩ | h
    · rw [hx'] at h
      cases h
    · rw [hdefined y hy] at h
      cases h
    · exact weight_ofEnsemble_le_of_defined hdefined hp hx' hx h

end Uncertainty
end Mandate
