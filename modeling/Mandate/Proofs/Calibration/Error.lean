import Mandate.Calibration
import Mandate.Proofs.Threshold.Factors
import Mathlib.Algebra.BigOperators.Intervals
import Mathlib.Algebra.Order.BigOperators.Group.Finset
import Mathlib.Tactic.FieldSimp
import Mathlib.Tactic.Ring

/-!
# The expected error of a calibration

Over exact numbers the expected error of a window is the sum, over its buckets, of how far what came
true is from what was expected (`ece_ofPredictions`). One prediction adds its `strain` to that sum,
so of two predictions in one place the one with more strain raises the factor
(`weight_ofPredictions_le_iff`).
-/

namespace Mandate

/-! ## Confidences as numbers of the unit interval -/

namespace Exact

/-- What a confidence counts as: the nearest number of the unit interval, and none when it is not
finite. -/
def settled (a : Exact) : ℚ :=
  if a.isFinite then a.nearest else 0

theorem settled_nonneg (a : Exact) : 0 ≤ a.settled := by
  unfold settled
  split
  · exact a.nearest_nonneg
  · exact le_rfl

theorem settled_le_one (a : Exact) : a.settled ≤ 1 := by
  unfold settled
  split
  · exact a.nearest_le_one
  · exact zero_le_one

theorem settled_of_not_isFinite [ExactContext] {a : Exact} (h : Scalar.isFinite a = false) :
    a.settled = 0 :=
  if_neg (Bool.eq_false_iff.1 h)

end Exact

theorem Calibration.settled_eq [ExactContext] (a : Exact) :
    Calibration.settled a = .finite a.settled := by
  cases h : Scalar.isFinite a with
  | true =>
      obtain ⟨q, rfl⟩ := Exact.isFinite_iff.1 h
      exact Exact.clamp_unit Exact.isNaN_finite
  | false =>
      rw [Calibration.settled, h, Exact.settled_of_not_isFinite h, Exact.zero_eq]
      rfl

/-! ## One prediction -/

namespace Prediction

variable {p : Prediction Exact} {k : Nat}

/-- One for a prediction that came true and zero for another. -/
def truth (p : Prediction Exact) : ℚ :=
  if p.correct then 1 else 0

/-- By how much what came true exceeds the confidence. -/
def surprise (p : Prediction Exact) : ℚ :=
  p.truth - p.confidence.settled

theorem abs_surprise_le_one (p : Prediction Exact) : |p.surprise| ≤ 1 := by
  have := p.confidence.settled_nonneg
  have := p.confidence.settled_le_one
  rw [abs_le, surprise, truth]
  split <;> constructor <;> linarith

theorem sum_surprise (ps : List (Prediction Exact)) :
    (ps.map surprise).sum = ps.countP (·.correct) - (ps.map (·.confidence.settled)).sum := by
  induction ps with
  | nil => simp
  | cons p ps ih =>
      rw [List.map_cons, List.sum_cons, ih, List.map_cons, List.sum_cons, List.countP_cons,
        surprise, truth]
      push_cast
      ring

variable [ExactContext]

theorem surprise_of_not_isFinite (h : Scalar.isFinite p.confidence = false) :
    p.surprise = p.truth := by
  rw [surprise, Exact.settled_of_not_isFinite h, sub_zero]

/-- The place of the bucket that a prediction belongs to. -/
def bucket (k : Nat) (p : Prediction Exact) : Nat :=
  Calibration.bucketIndex k (1.0 / Scalar.ofNat k) (Calibration.settled p.confidence)

theorem bucket_lt (hk : 0 < k) (p : Prediction Exact) : p.bucket k < k :=
  Nat.lt_of_le_of_lt (Nat.min_le_right _ _) (Nat.sub_one_lt_of_lt hk)

theorem bucket_of_not_isFinite (hk : 0 < k) (h : Scalar.isFinite p.confidence = false) :
    p.bucket k = 0 := by
  have hwidth : (1 / k : ℚ) ≠ 0 := by positivity
  rw [bucket, Calibration.settled_eq, Exact.settled_of_not_isFinite h, Calibration.bucketIndex,
    Exact.one_eq, Exact.ofNat_eq, Exact.finite_div_finite (by positivity),
    Exact.finite_div_finite hwidth, zero_div]
  simp [Scalar.toCount, Exact.toCount]

end Prediction

namespace Calibration

theorem zipIdx_map_range {α β : Type} (f : Nat → α) (g : α → Nat → β) (k : Nat) :
    (((List.range k).map f).zipIdx.map fun t => g t.1 t.2) =
      (List.range k).map fun b => g (f b) b :=
  List.ext_getElem (by simp) fun b _ _ => by simp

variable [ExactContext] {k : Nat} {ps before after others : List (Prediction Exact)}
  {p p' : Prediction Exact}

/-! ## The tally of a bucket -/

/-- The tally of some predictions. -/
def tallyOf (ps : List (Prediction Exact)) : Tally Exact :=
  ⟨ps.length, .finite (ps.map (·.confidence.settled)).sum, ps.countP (·.correct)⟩

/-- The predictions of a bucket. -/
def ownOf (k : Nat) (ps : List (Prediction Exact)) (b : Nat) : List (Prediction Exact) :=
  ps.filter fun p => p.bucket k = b

theorem tallyOf_nil : tallyOf [] = ⟨0, 0.0, 0⟩ := by
  rw [Exact.zero_eq]
  rfl

theorem tallyOf_append_singleton (ps : List (Prediction Exact)) (p : Prediction Exact) :
    tallyOf (ps ++ [p]) = Tally.add (tallyOf ps) (settled p.confidence) p.correct := by
  simp [tallyOf, Tally.add, settled_eq, List.countP_append, List.countP_cons]

theorem ownOf_append_singleton (k : Nat) (ps : List (Prediction Exact)) (p : Prediction Exact)
    (b : Nat) :
    ownOf k (ps ++ [p]) b = if p.bucket k = b then ownOf k ps b ++ [p] else ownOf k ps b := by
  simp only [ownOf, List.filter_append, List.filter_cons, List.filter_nil, decide_eq_true_eq]
  split
  · rfl
  · exact List.append_nil _

/-- Each bucket has the tally of its own predictions. -/
theorem foldl_tally (k : Nat) (ps : List (Prediction Exact)) :
    ps.foldl (tally k (1.0 / Scalar.ofNat k)) (List.replicate k ⟨0, 0.0, 0⟩) =
      (List.range k).map fun b => tallyOf (ownOf k ps b) := by
  induction ps using List.reverseRecOn with
  | nil => simp [ownOf, tallyOf_nil]
  | append_singleton ps p ih =>
      rw [List.foldl_append, ih, List.foldl_cons, List.foldl_nil, tally]
      refine List.ext_getElem (by simp) fun b hb hb' => ?_
      simp only [List.getElem_modify, List.getElem_map, List.getElem_range, ownOf_append_singleton]
      rw [← Prediction.bucket]
      split
      · rw [tallyOf_append_singleton]
      · rfl

/-! ## The error of a bucket -/

/-- By how much what came true of a bucket's predictions exceeds their confidence in all. -/
def surplus (k : Nat) (ps : List (Prediction Exact)) (b : Nat) : ℚ :=
  ((ownOf k ps b).map Prediction.surprise).sum

theorem gap_bucket (hne : ps ≠ []) (width : Exact) (b : Nat) :
    gap (bucket width b (tallyOf ps)) =
      .finite (|(ps.map Prediction.surprise).sum| / ps.length) := by
  have hlength : ps.length ≠ 0 := by simpa using hne
  have hq : (ps.length : ℚ) ≠ 0 := by exact_mod_cast hlength
  simp only [gap, bucket, tallyOf, if_neg hlength, Scalar.share, Exact.ofNat_eq,
    Exact.finite_div_finite hq, Exact.finite_sub_finite, Exact.magnitude_finite]
  rw [← sub_div, ← Prediction.sum_surprise, abs_div, Nat.abs_cast]

theorem addError_bucket (n : Nat) (width : Exact) (b : Nat) (x : ℚ)
    (hn : ps.length ≤ n) :
    addError n (.finite x) (bucket width b (tallyOf ps)) =
      .finite (x + |(ps.map Prediction.surprise).sum| / n) := by
  rcases eq_or_ne ps [] with rfl | hne
  · simp [addError, bucket, tallyOf]
  · have hlength : ps.length ≠ 0 := by simpa using hne
    have hn' : n ≠ 0 := by omega
    have hq : (ps.length : ℚ) ≠ 0 := by exact_mod_cast hlength
    have hcount : (bucket width b (tallyOf ps)).count = ps.length := rfl
    rw [addError, hcount, if_neg hlength, gap_bucket hne, Exact.ofNat_eq, Exact.ofNat_eq,
      Exact.finite_mul_finite, Exact.finite_div_finite (by exact_mod_cast hn'),
      Exact.finite_add_finite, div_mul_cancel₀ _ hq]

/-- The expected error of a window: how far what came true in each bucket is from what was expected
of it, as a share of the window. -/
def expectedError (k : Nat) (ps : List (Prediction Exact)) : ℚ :=
  (∑ b ∈ Finset.range k, |surplus k ps b|) / ps.length

theorem foldl_addError (k j : Nat) (ps : List (Prediction Exact)) (width : Exact) :
    ((List.range j).map fun b => bucket width b (tallyOf (ownOf k ps b))).foldl
      (addError ps.length) 0.0 =
        .finite ((∑ b ∈ Finset.range j, |surplus k ps b|) / ps.length) := by
  induction j with
  | zero => norm_num
  | succ j ih =>
      rw [List.range_succ, List.map_append, List.foldl_append, ih, Finset.sum_range_succ, add_div]
      exact addError_bucket _ _ _ _ (List.length_filter_le _ _)

theorem ece_ofPredictions (ps : List (Prediction Exact)) (bucketCount : Nat)
    (windowStart windowEnd : Instant) :
    (ofPredictions ps bucketCount windowStart windowEnd).ece =
      .finite (expectedError (max bucketCount 1) ps) := by
  rw [ofPredictions]
  dsimp only
  rw [foldl_tally, zipIdx_map_range _ (fun t b => bucket _ b t), foldl_addError, expectedError]

/-! ## One prediction among others -/

theorem surplus_insert (k : Nat) (before after : List (Prediction Exact)) (p : Prediction Exact)
    (b : Nat) :
    surplus k (before ++ p :: after) b =
      surplus k (before ++ after) b + if b = p.bucket k then p.surprise else 0 := by
  simp only [surplus, ownOf, List.filter_append, List.filter_cons, decide_eq_true_eq,
    eq_comm (a := b)]
  split
  · simp only [List.map_append, List.map_cons, List.sum_append, List.sum_cons]
    ring
  · rw [add_zero]

/-- What a prediction adds to the sum of the errors of the others' buckets. -/
def strain (k : Nat) (others : List (Prediction Exact)) (p : Prediction Exact) : ℚ :=
  |surplus k others (p.bucket k) + p.surprise| - |surplus k others (p.bucket k)|

theorem strain_le_one (k : Nat) (others : List (Prediction Exact)) (p : Prediction Exact) :
    strain k others p ≤ 1 := by
  have hsum := abs_add_le (surplus k others (p.bucket k)) p.surprise
  have hone := p.abs_surprise_le_one
  rw [strain]
  linarith

/-- A prediction that failed adds nothing exactly if nothing was expected of it, or if its bucket
is better than expected by half of that without it. -/
theorem strain_nonpos_iff (hfailed : p.correct = false) :
    strain k others p ≤ 0 ↔
      p.confidence.settled = 0 ∨ p.confidence.settled ≤ 2 * surplus k others (p.bucket k) := by
  have hnonneg := p.confidence.settled_nonneg
  have hsurprise : p.surprise = -p.confidence.settled := by
    simp [Prediction.surprise, Prediction.truth, hfailed]
  rw [strain, sub_nonpos, ← sq_le_sq, hsurprise]
  generalize surplus k others (p.bucket k) = r
  generalize p.confidence.settled = c at hnonneg ⊢
  have hsquare : r ^ 2 - (r + -c) ^ 2 = c * (2 * r - c) := by ring
  rw [← sub_nonneg, hsquare, ← sub_nonneg (a := 2 * r)]
  constructor
  · intro h
    rcases hnonneg.eq_or_lt with hzero | hpos
    · exact Or.inl hzero.symm
    · exact Or.inr (nonneg_of_mul_nonneg_right h hpos)
  · rintro (rfl | h)
    · rw [zero_mul]
    · exact mul_nonneg hnonneg h

theorem sum_abs_surplus_insert (hk : 0 < k) (before after : List (Prediction Exact))
    (p : Prediction Exact) :
    ∑ b ∈ Finset.range k, |surplus k (before ++ p :: after) b| =
      ∑ b ∈ Finset.range k, |surplus k (before ++ after) b| + strain k (before ++ after) p := by
  have hplace : p.bucket k ∈ Finset.range k := Finset.mem_range.2 (p.bucket_lt hk)
  have hterm (b : Nat) : |surplus k (before ++ p :: after) b| =
      |surplus k (before ++ after) b| +
        if b = p.bucket k then strain k (before ++ after) p else 0 := by
    rw [surplus_insert]
    split
    next h =>
      rw [h, strain]
      ring
    next => rw [add_zero, add_zero]
  simp only [hterm, Finset.sum_add_distrib, Finset.sum_ite_eq', if_pos hplace]

theorem sum_abs_surplus_le (hk : 0 < k) (ps : List (Prediction Exact)) :
    ∑ b ∈ Finset.range k, |surplus k ps b| ≤ ps.length := by
  induction ps with
  | nil => simp [surplus, ownOf]
  | cons p ps ih =>
      have hinsert := sum_abs_surplus_insert hk [] ps p
      have hstrain := strain_le_one k ps p
      rw [List.nil_append, List.nil_append] at hinsert
      rw [hinsert, List.length_cons]
      push_cast
      linarith

theorem expectedError_nonneg (k : Nat) (ps : List (Prediction Exact)) : 0 ≤ expectedError k ps :=
  div_nonneg (Finset.sum_nonneg fun _ _ => abs_nonneg _) (Nat.cast_nonneg _)

theorem expectedError_le_one (hk : 0 < k) (ps : List (Prediction Exact)) :
    expectedError k ps ≤ 1 :=
  div_le_one_of_le₀ (sum_abs_surplus_le hk ps) (Nat.cast_nonneg _)

/-! ## The factor -/

variable {bucketCount : Nat} {windowStart windowEnd : Instant}

theorem weight_ofPredictions (ps : List (Prediction Exact)) :
    (ofPredictions ps bucketCount windowStart windowEnd).weight =
      0.98 + 0.40 * expectedError (max bucketCount 1) ps := by
  have hk : 0 < max bucketCount 1 := by positivity
  rw [weight, ece_ofPredictions, Exact.portion, max_eq_right (expectedError_nonneg _ ps),
    min_eq_right (expectedError_le_one hk ps)]

/-- Of two predictions in one place of a window, the one that strains the others' buckets more
gives the higher factor. -/
theorem weight_ofPredictions_le_iff :
    (ofPredictions (before ++ p :: after) bucketCount windowStart windowEnd).weight ≤
        (ofPredictions (before ++ p' :: after) bucketCount windowStart windowEnd).weight ↔
      strain (max bucketCount 1) (before ++ after) p ≤
        strain (max bucketCount 1) (before ++ after) p' := by
  have hk : 0 < max bucketCount 1 := by positivity
  have hlength : 0 < ((before ++ p :: after).length : ℚ) := by
    simp only [List.length_append, List.length_cons]
    positivity
  have hlength' : (before ++ p' :: after).length = (before ++ p :: after).length := by simp
  rw [weight_ofPredictions, weight_ofPredictions, add_le_add_iff_left,
    mul_le_mul_iff_of_pos_left (by norm_num), expectedError, expectedError, hlength',
    div_le_div_iff_of_pos_right hlength, sum_abs_surplus_insert hk, sum_abs_surplus_insert hk,
    add_le_add_iff_left]

/-! ## A confidence that is not finite -/

section

variable {x : Exact}

theorem ofPredictions_replace {y : Exact} {correct : Bool} (h : settled x = settled y) :
    ofPredictions (before ++ ⟨x, correct⟩ :: after) bucketCount windowStart windowEnd =
      ofPredictions (before ++ ⟨y, correct⟩ :: after) bucketCount windowStart windowEnd := by
  have hlength (z : Exact) : (before ++ ⟨z, correct⟩ :: after).length =
      before.length + (after.length + 1) := by simp
  simp only [ofPredictions, List.foldl_append, List.foldl_cons, tally, addBrier, hlength, h]

theorem ofPredictions_broken (hx : Scalar.isFinite x = false) (correct : Bool) :
    ofPredictions (before ++ ⟨x, correct⟩ :: after) bucketCount windowStart windowEnd =
      ofPredictions (before ++ ⟨.finite 0, correct⟩ :: after) bucketCount windowStart windowEnd := by
  refine ofPredictions_replace ?_
  rw [settled_eq, settled_eq, Exact.settled_of_not_isFinite hx]
  rfl

variable (hk : 0 < k) (hx : Scalar.isFinite x = false)

include hk hx

theorem strain_broken :
    strain k others ⟨x, p.correct⟩ = |surplus k others 0 + p.truth| - |surplus k others 0| := by
  rw [strain, Prediction.bucket_of_not_isFinite hk hx, Prediction.surprise_of_not_isFinite hx]
  rfl

theorem strain_le_broken_iff :
    strain k others p ≤ strain k others ⟨x, p.correct⟩ ↔
      |surplus k others (p.bucket k) + p.surprise| + |surplus k others 0| ≤
        |surplus k others 0 + p.truth| + |surplus k others (p.bucket k)| := by
  rw [strain_broken hk hx, strain, sub_le_sub_iff]

theorem strain_le_broken_iff_of_failed (hfailed : p.correct = false) :
    strain k others p ≤ strain k others ⟨x, p.correct⟩ ↔
      p.confidence.settled = 0 ∨ p.confidence.settled ≤ 2 * surplus k others (p.bucket k) := by
  have htruth : p.truth = 0 := by simp [Prediction.truth, hfailed]
  rw [strain_broken hk hx, htruth, add_zero, sub_self, strain_nonpos_iff hfailed]

theorem strain_le_broken_of_true (htrue : p.correct = true) (h : 0 ≤ surplus k others 0) :
    strain k others p ≤ strain k others ⟨x, p.correct⟩ := by
  have htruth : p.truth = 1 := by simp [Prediction.truth, htrue]
  rw [strain_broken hk hx, htruth, abs_of_nonneg h, abs_of_nonneg (by positivity),
    add_sub_cancel_left]
  exact strain_le_one k others p

end

end Calibration
end Mandate
