import Mandate.Proofs.Calibration.Error
import Mandate.Proofs.Scalar.Logarithm
import Mathlib.Algebra.BigOperators.Ring.Finset

/-!
# The numbers of a calibration

Over exact numbers each prediction of a window is counted in the bucket that its confidence lies in,
so the numbers of the buckets and the errors of the window fit together, in whatever order the
predictions came. The main statement is `ofPredictions_consistent`.
-/

namespace Mandate

/-! ## The bucket of a confidence -/

/-- Of `k` intervals of equal width, the one at this place has the number in it. The last interval
has its upper end too. -/
def InBucket (k b : Nat) (c : ℚ) : Prop :=
  b / k ≤ c ∧ (c < (b + 1) / k ∨ b + 1 = k ∧ c = 1)

instance (k b : Nat) (c : ℚ) : Decidable (InBucket k b c) :=
  inferInstanceAs (Decidable (_ ∧ _))

theorem InBucket.bounds {k b : Nat} {c : ℚ} (h : InBucket k b c) : b / k ≤ c ∧ c ≤ (b + 1) / k := by
  obtain ⟨hlow, hhigh | ⟨rfl, rfl⟩⟩ := h
  · exact ⟨hlow, hhigh.le⟩
  · refine ⟨hlow, ?_⟩
    rw [Nat.cast_add_one, div_self (by positivity)]

namespace Prediction

variable [ExactContext] {k b : Nat}

theorem bucket_eq (hk : 0 < k) (hsize : k < 2 ^ 64) (p : Prediction Exact) :
    p.bucket k = min ⌊p.confidence.settled * k⌋₊ (k - 1) := by
  have hk' : (k : ℚ) ≠ 0 := by positivity
  have hplace : p.confidence.settled / (1 / k) = p.confidence.settled * k := by
    rw [div_div_eq_mul_div, div_one]
  have hfloor : ⌊p.confidence.settled * k⌋₊ ≤ k :=
    Nat.floor_le_of_le (mul_le_of_le_one_left (by positivity) p.confidence.settled_le_one)
  rw [bucket, Calibration.settled_eq, Calibration.bucketIndex, Exact.one_eq, Exact.ofNat_eq,
    Exact.finite_div_finite hk', Exact.finite_div_finite (one_div_ne_zero hk'), hplace]
  simp only [Scalar.toCount, Exact.toCount]
  omega

theorem bucket_eq_iff (hsize : k < 2 ^ 64) (hb : b < k) {p : Prediction Exact} :
    p.bucket k = b ↔ InBucket k b p.confidence.settled := by
  have hk : 0 < k := by omega
  have hk' : (0 : ℚ) < k := by exact_mod_cast hk
  have hone := p.confidence.settled_le_one
  have hnonneg : 0 ≤ p.confidence.settled * k := mul_nonneg p.confidence.settled_nonneg hk'.le
  rw [bucket_eq hk hsize, InBucket, div_le_iff₀ hk', lt_div_iff₀ hk']
  generalize p.confidence.settled = c at hone hnonneg ⊢
  have hlow : b ≤ ⌊c * k⌋₊ ↔ (b : ℚ) ≤ c * k := Nat.le_floor_iff hnonneg
  have hhigh : ⌊c * k⌋₊ < b + 1 ↔ c * k < b + 1 := by
    rw [Nat.floor_lt hnonneg, Nat.cast_add_one]
  have hlast : k ≤ ⌊c * k⌋₊ ↔ c = 1 := by
    rw [Nat.le_floor_iff hnonneg]
    constructor
    · intro h
      exact le_antisymm hone (le_of_mul_le_mul_right (by rwa [one_mul]) hk')
    · rintro rfl
      rw [one_mul]
  rw [← hlow, ← hhigh, ← hlast]
  omega

theorem existsUnique_inBucket (hk : 0 < k) (hsize : k < 2 ^ 64) (p : Prediction Exact) :
    ∃! b, b < k ∧ InBucket k b p.confidence.settled := by
  have hlt := p.bucket_lt hk
  refine ⟨p.bucket k, ⟨hlt, (bucket_eq_iff hsize hlt).1 rfl⟩, ?_⟩
  rintro b ⟨hb, hin⟩
  exact ((bucket_eq_iff hsize hb).2 hin).symm

end Prediction

namespace Calibration

/-! ## Sums of surprises -/

theorem abs_sum_surprise_le (ps : List (Prediction Exact)) :
    |(ps.map Prediction.surprise).sum| ≤ ps.length := by
  induction ps with
  | nil => simp
  | cons p ps ih =>
      have hadd := abs_add_le p.surprise (ps.map Prediction.surprise).sum
      have hone := p.abs_surprise_le_one
      rw [List.map_cons, List.sum_cons, List.length_cons]
      push_cast
      linarith

/-- The mean square of what came as a surprise. -/
def brierScore (ps : List (Prediction Exact)) : ℚ :=
  (ps.map (·.surprise ^ 2)).sum / ps.length

theorem brierScore_nonneg (ps : List (Prediction Exact)) : 0 ≤ brierScore ps := by
  refine div_nonneg (List.sum_nonneg fun x hx => ?_) (Nat.cast_nonneg _)
  obtain ⟨p, -, rfl⟩ := List.mem_map.1 hx
  exact sq_nonneg _

theorem brierScore_le_one (ps : List (Prediction Exact)) : brierScore ps ≤ 1 := by
  refine div_le_one_of_le₀ ?_ (Nat.cast_nonneg _)
  have hsum := List.sum_le_card_nsmul (ps.map (·.surprise ^ 2)) 1 fun x hx => ?_
  · simpa using hsum
  · obtain ⟨p, -, rfl⟩ := List.mem_map.1 hx
    exact (sq_le_one_iff_abs_le_one _).2 p.abs_surprise_le_one

variable [ExactContext] {k b : Nat} {ps ps' : List (Prediction Exact)}

theorem ownOf_eq (hsize : k < 2 ^ 64) (hb : b < k) (ps : List (Prediction Exact)) :
    ownOf k ps b = ps.filter fun p => InBucket k b p.confidence.settled :=
  List.filter_congr fun _ _ => decide_eq_decide.2 (Prediction.bucket_eq_iff hsize hb)

/-! ## Sums over all buckets -/

theorem sum_ownOf (hk : 0 < k) (f : Prediction Exact → ℚ) (ps : List (Prediction Exact)) :
    ∑ b ∈ Finset.range k, ((ownOf k ps b).map f).sum = (ps.map f).sum := by
  induction ps with
  | nil => simp [ownOf]
  | cons p ps ih =>
      have hterm (b : Nat) : ((ownOf k (p :: ps) b).map f).sum =
          ((ownOf k ps b).map f).sum + if p.bucket k = b then f p else 0 := by
        simp only [ownOf, List.filter_cons, decide_eq_true_eq]
        split
        · rw [List.map_cons, List.sum_cons, add_comm]
        · rw [add_zero]
      simp only [hterm, Finset.sum_add_distrib, Finset.sum_ite_eq, ih, List.map_cons, List.sum_cons,
        if_pos (Finset.mem_range.2 (p.bucket_lt hk))]
      exact add_comm ..

theorem sum_length_ownOf (hk : 0 < k) (ps : List (Prediction Exact)) :
    ∑ b ∈ Finset.range k, ((ownOf k ps b).length : ℚ) = ps.length := by
  simpa using sum_ownOf hk (fun _ => 1) ps

/-! ## The numbers of a bucket -/

/-- What a bucket says of the predictions in it. One without any has its ends only. -/
def bucketOf (k : Nat) (ps : List (Prediction Exact)) (b : Nat) : Bucket Exact :=
  let own := ps.filter fun p => InBucket k b p.confidence.settled
  { lower := .finite (b / k)
    upper := .finite ((b + 1) / k)
    count := own.length
    meanConfidence := .finite ((own.map (·.confidence.settled)).sum / own.length)
    accuracy := .finite (own.countP (·.correct) / own.length) }

theorem quotient_eq (q : ℚ) (n : Nat) :
    (if n = 0 then 0.0 else Exact.finite q / .finite n) = .finite (q / n) := by
  rcases eq_or_ne n 0 with rfl | hn
  · rw [if_pos rfl, Nat.cast_zero, div_zero, Exact.zero_eq]
  · rw [if_neg hn, Exact.finite_div_finite (Nat.cast_ne_zero.2 hn)]

theorem bucket_tallyOf (hsize : k < 2 ^ 64) (hb : b < k) (ps : List (Prediction Exact)) :
    bucket (1.0 / Scalar.ofNat k) b (tallyOf (ownOf k ps b)) = bucketOf k ps b := by
  have hk : (k : ℚ) ≠ 0 := by
    have : k ≠ 0 := by omega
    exact_mod_cast this
  rw [bucketOf, ← ownOf_eq hsize hb]
  simp only [bucket, tallyOf, Scalar.share, Exact.ofNat_eq, quotient_eq, Exact.one_eq,
    Exact.finite_div_finite hk, Exact.finite_mul_finite, mul_one_div, Nat.cast_add_one]

theorem bucketOf_mean_bounds (hcount : (bucketOf k ps b).count ≠ 0) :
    (bucketOf k ps b).lower ≤ (bucketOf k ps b).meanConfidence ∧
      (bucketOf k ps b).meanConfidence ≤ (bucketOf k ps b).upper := by
  rw [bucketOf, Exact.finite_le_finite, Exact.finite_le_finite]
  rw [bucketOf] at hcount
  have hown {c : ℚ} (hc : c ∈ (ps.filter fun p => InBucket k b p.confidence.settled).map
      (·.confidence.settled)) : (b : ℚ) / k ≤ c ∧ c ≤ (b + 1) / k := by
    obtain ⟨p, hp, rfl⟩ := List.mem_map.1 hc
    exact (of_decide_eq_true (List.mem_filter.1 hp).2).bounds
  generalize ps.filter (fun p => InBucket k b p.confidence.settled) = own at hcount hown ⊢
  have hlength : (0 : ℚ) < own.length := by
    have : 0 < own.length := Nat.pos_of_ne_zero hcount
    exact_mod_cast this
  rw [le_div_iff₀ hlength, div_le_iff₀ hlength, mul_comm, ← nsmul_eq_mul, mul_comm ((_ : ℚ) / k),
    ← nsmul_eq_mul, ← List.length_map (f := (·.confidence.settled))]
  exact ⟨List.card_nsmul_le_sum _ _ fun c hc => (hown hc).1,
    List.sum_le_card_nsmul _ _ fun c hc => (hown hc).2⟩

/-! ## The maximum error -/

/-- How far the accuracy of a bucket is from its mean confidence. -/
def bucketError (k : Nat) (ps : List (Prediction Exact)) (b : Nat) : ℚ :=
  |surplus k ps b| / (ownOf k ps b).length

/-- The largest error of a bucket. -/
def maximumError (k : Nat) (ps : List (Prediction Exact)) : ℚ :=
  (Finset.range k).fold max 0 (bucketError k ps)

theorem raiseError_bucket {x : ℚ} (hx : 0 ≤ x) (width : Exact) (b : Nat) :
    raiseError (.finite x) (bucket width b (tallyOf ps)) =
      .finite (max x (|(ps.map Prediction.surprise).sum| / ps.length)) := by
  rcases eq_or_ne ps [] with rfl | hne
  · simp [raiseError, bucket, tallyOf, hx]
  · have hlength : ps.length ≠ 0 := by simpa using hne
    have hcount : (bucket width b (tallyOf ps)).count = ps.length := rfl
    rw [raiseError, hcount, if_neg hlength, gap_bucket hne, Exact.greatest_finite]

theorem foldl_raiseError (k j : Nat) (ps : List (Prediction Exact)) (width : Exact) :
    ((List.range j).map fun b => bucket width b (tallyOf (ownOf k ps b))).foldl raiseError 0.0 =
      .finite ((Finset.range j).fold max 0 (bucketError k ps)) := by
  induction j with
  | zero => exact Exact.zero_eq
  | succ j ih =>
      have hnonneg : 0 ≤ (Finset.range j).fold max 0 (bucketError k ps) :=
        Finset.le_fold_max _ |>.2 (Or.inl le_rfl)
      rw [List.range_succ, List.map_append, List.foldl_append, ih, Finset.range_add_one,
        Finset.fold_insert Finset.notMem_range_self, max_comm]
      exact raiseError_bucket hnonneg _ _

theorem maximumError_le_one (k : Nat) (ps : List (Prediction Exact)) : maximumError k ps ≤ 1 :=
  (Finset.fold_max_le _).2 ⟨zero_le_one, fun _ _ =>
    div_le_one_of_le₀ (abs_sum_surprise_le _) (Nat.cast_nonneg _)⟩

theorem maximumError_nonneg (k : Nat) (ps : List (Prediction Exact)) : 0 ≤ maximumError k ps :=
  (Finset.le_fold_max _).2 (Or.inl le_rfl)

theorem maximumError_nil (k : Nat) : maximumError k [] = 0 := by
  refine le_antisymm ((Finset.fold_max_le _).2 ⟨le_rfl, fun b _ => ?_⟩) (maximumError_nonneg k [])
  simp [bucketError, surplus, ownOf]

/-- The expected error is an average of the errors of the buckets, so none of it is beyond the
largest. -/
theorem expectedError_le_maximumError (hk : 0 < k) (ps : List (Prediction Exact)) :
    expectedError k ps ≤ maximumError k ps := by
  obtain ⟨-, hmax⟩ := (Finset.fold_max_le _).1 (le_refl (maximumError k ps))
  refine div_le_of_le_mul₀ (Nat.cast_nonneg _) (maximumError_nonneg k ps) ?_
  calc ∑ b ∈ Finset.range k, |surplus k ps b|
      ≤ ∑ b ∈ Finset.range k, maximumError k ps * (ownOf k ps b).length := by
        refine Finset.sum_le_sum fun b hb => ?_
        rcases eq_or_ne (ownOf k ps b) [] with hnil | hne
        · simp [surplus, hnil]
        · have hlength : 0 < (ownOf k ps b).length := List.length_pos_iff.2 hne
          exact (div_le_iff₀ (by exact_mod_cast hlength)).1 (hmax b hb)
    _ = maximumError k ps * ps.length := by rw [← Finset.mul_sum, sum_length_ownOf hk]

theorem abs_sum_surprise_le_expectedError (hk : 0 < k) (ps : List (Prediction Exact)) :
    |(ps.map Prediction.surprise).sum| / ps.length ≤ expectedError k ps := by
  rw [expectedError, ← sum_ownOf hk]
  gcongr
  exact Finset.abs_sum_le_sum_abs _ _

/-! ## The Brier score -/

theorem foldl_addBrier (x : ℚ) (ps : List (Prediction Exact)) :
    ps.foldl addBrier (.finite x) = .finite (x + (ps.map (·.surprise ^ 2)).sum) := by
  induction ps generalizing x with
  | nil => simp
  | cons p ps ih =>
      have hstep : addBrier (.finite x) p = .finite (x + p.surprise ^ 2) := by
        have htruth : Scalar.indicator p.correct = Exact.finite p.truth := by
          rw [Scalar.indicator, Prediction.truth, Exact.zero_eq, Exact.one_eq,
            apply_ite Exact.finite]
        rw [addBrier, settled_eq, htruth, Exact.finite_sub_finite, Scalar.square,
          Exact.finite_mul_finite, Exact.finite_add_finite, Prediction.surprise, ← sq, sub_sq_comm]
      rw [List.foldl_cons, hstep, ih, List.map_cons, List.sum_cons, add_assoc]

/-! ## All of a calibration -/

variable {bucketCount : Nat} {windowStart windowEnd : Instant}

theorem ofPredictions_eq (hk : k = max bucketCount 1) (hsize : k < 2 ^ 64) :
    ofPredictions ps bucketCount windowStart windowEnd =
      { ece := .finite (expectedError k ps)
        mce := .finite (maximumError k ps)
        brier := .finite (brierScore ps)
        windowSize := ps.length
        windowStart
        windowEnd
        buckets := (List.range k).map (bucketOf k ps) } := by
  have hbuckets : ((List.range k).map fun b =>
      bucket (1.0 / Scalar.ofNat k) b (tallyOf (ownOf k ps b))) =
        (List.range k).map (bucketOf k ps) :=
    List.map_congr_left fun b hb => bucket_tallyOf hsize (List.mem_range.1 hb) ps
  have hbrier : (if ps.length = 0 then 0.0 else
      ps.foldl addBrier 0.0 / Scalar.ofNat ps.length) = .finite (brierScore ps) := by
    rw [brierScore, ← quotient_eq, ← zero_add (List.sum _), ← foldl_addBrier, Exact.zero_eq,
      Exact.ofNat_eq]
  simp only [ofPredictions, ← hk]
  rw [foldl_tally, zipIdx_map_range _ (fun t b => bucket _ b t), foldl_addError, foldl_raiseError,
    hbrier, hbuckets]
  rfl

/-! ## The order of the predictions -/

theorem ownOf_perm (h : ps.Perm ps') (b : Nat) : (ownOf k ps b).Perm (ownOf k ps' b) :=
  h.filter _

theorem surplus_perm (h : ps.Perm ps') (b : Nat) : surplus k ps b = surplus k ps' b :=
  ((ownOf_perm h b).map _).sum_eq

theorem ofPredictions_perm (h : ps.Perm ps') (hsize : max bucketCount 1 < 2 ^ 64) :
    ofPredictions ps' bucketCount windowStart windowEnd =
      ofPredictions ps bucketCount windowStart windowEnd := by
  have hsurplus (k : Nat) : surplus k ps = surplus k ps' := funext (surplus_perm h)
  have herror (k : Nat) : bucketError k ps = bucketError k ps' :=
    funext fun b => by rw [bucketError, bucketError, hsurplus, (ownOf_perm h b).length_eq]
  have hbucket (k : Nat) : bucketOf k ps = bucketOf k ps' := funext fun b => by
    have hfilter := h.filter fun p => InBucket k b p.confidence.settled
    simp only [bucketOf, hfilter.length_eq, (hfilter.map _).sum_eq, hfilter.countP_eq]
  rw [ofPredictions_eq rfl hsize, ofPredictions_eq rfl hsize]
  simp only [expectedError, maximumError, brierScore, hsurplus, herror, hbucket, h.length_eq,
    (h.map _).sum_eq]

/-! ## What holds of a calibration -/

theorem sum_count_bucketOf (hk : 0 < k) (hsize : k < 2 ^ 64) (ps : List (Prediction Exact)) :
    (((List.range k).map (bucketOf k ps)).map (·.count)).sum = ps.length := by
  have hcount : ((List.range k).map (bucketOf k ps)).map (·.count) =
      (List.range k).map fun b => (ownOf k ps b).length := by
    rw [List.map_map]
    refine List.map_congr_left fun b hb => ?_
    rw [ownOf_eq hsize (List.mem_range.1 hb)]
    rfl
  have hsum : ((List.range k).map fun b => (ownOf k ps b).length).sum =
      ∑ b ∈ Finset.range k, (ownOf k ps b).length := (Multiset.sum_coe _).symm
  rw [hcount, hsum]
  exact_mod_cast sum_length_ownOf hk ps

/-- Each prediction is counted in the one bucket with its confidence, and what a bucket says of its
predictions is true of them. The errors lie in the unit interval, the expected one is at most the
maximum and at least how far the accuracy of the window is from its mean confidence. The order of
the predictions does not matter. -/
theorem ofPredictions_consistent (ps : List (Prediction Exact)) (bucketCount : UInt64)
    (windowStart windowEnd : Instant) :
    let k := max bucketCount.toNat 1
    let c := ofPredictions ps bucketCount.toNat windowStart windowEnd
    c.windowSize = ps.length ∧ (c.buckets.map (·.count)).sum = ps.length ∧
    c.buckets = (List.range k).map (bucketOf k ps) ∧
    (∀ p ∈ ps, ∃! b, b < k ∧ InBucket k b p.confidence.settled) ∧
    (∀ b ∈ c.buckets, b.count ≠ 0 → b.lower ≤ b.meanConfidence ∧ b.meanConfidence ≤ b.upper) ∧
    (0.0 ≤ c.ece ∧ c.ece ≤ c.mce ∧ c.mce ≤ 1.0) ∧ c.brier.InUnit ∧
    (ps ≠ [] → .finite |(ps.countP (·.correct) : ℚ) / ps.length -
      (ps.map (·.confidence.settled)).sum / ps.length| ≤ c.ece) ∧
    (∀ ps', ps.Perm ps' → ofPredictions ps' bucketCount.toNat windowStart windowEnd = c) ∧
    (ps = [] → c.ece = 0.0 ∧ c.mce = 0.0 ∧ c.brier = 0.0) := by
  intro k c
  have hk : 0 < k := by positivity
  have hsize : k < 2 ^ 64 := max_lt bucketCount.toNat_lt (by norm_num)
  have hc : c = _ := ofPredictions_eq rfl hsize
  refine ⟨rfl, ?_, congrArg (·.buckets) hc, fun p _ => p.existsUnique_inBucket hk hsize, ?_, ?_,
    ?_, fun _ => ?_, fun ps' hperm => ofPredictions_perm hperm hsize, ?_⟩
  · rw [hc]
    exact sum_count_bucketOf hk hsize ps
  · intro b hb hcount
    rw [hc] at hb
    obtain ⟨i, -, rfl⟩ := List.mem_map.1 hb
    exact bucketOf_mean_bounds hcount
  · rw [hc, Exact.zero_eq, Exact.one_eq]
    exact ⟨expectedError_nonneg k ps, expectedError_le_maximumError hk ps, maximumError_le_one k ps⟩
  · rw [hc]
    exact Exact.inUnit_finite_iff.2 ⟨brierScore_nonneg ps, brierScore_le_one ps⟩
  · rw [hc, Exact.finite_le_finite, ← sub_div, ← Prediction.sum_surprise, abs_div,
      Nat.abs_cast]
    exact abs_sum_surprise_le_expectedError hk ps
  · rintro rfl
    rw [hc, Exact.zero_eq]
    simp [expectedError, maximumError_nil, brierScore]

end Calibration

namespace Calibration

open scoped Exact.Whole

/-- A confidence between two buckets belongs to the upper one, full confidence to the last one, and
one that is not a number to the first. -/
theorem ofPredictions_consistent_edges :
    let ps : List (Prediction Exact) :=
      [⟨.finite 0.5, true⟩, ⟨.finite 1, false⟩, ⟨.undefined, true⟩]
    let c := ofPredictions ps 2 .epoch .epoch
    ps ≠ [] ∧ c.buckets.map (·.count) = [1, 2] ∧
      c.buckets.map (·.accuracy) = [.finite 1, .finite 0.5] ∧
      (∀ b ∈ c.buckets, b.count ≠ 0 → b.lower ≤ b.meanConfidence ∧ b.meanConfidence ≤ b.upper) ∧
      c.ece ≤ c.mce ∧ .finite (1 / 6) ≤ c.ece ∧ ofPredictions ps.reverse 2 .epoch .epoch = c := by
  intro ps c
  obtain ⟨-, -, hbuckets, -, hmean, ⟨-, herror, -⟩, -, hgap, hperm, -⟩ :=
    ofPredictions_consistent ps 2 .epoch .epoch
  have hne : ps ≠ [] := List.cons_ne_nil _ _
  refine ⟨hne, ?_, ?_, hmean, herror, ?_, hperm _ ps.reverse_perm.symm⟩
  · rw [show c.buckets = _ from hbuckets]
    decide +kernel
  · rw [show c.buckets = _ from hbuckets]
    decide +kernel
  · refine Exact.le_trans ?_ (hgap hne)
    decide +kernel

end Calibration
end Mandate
