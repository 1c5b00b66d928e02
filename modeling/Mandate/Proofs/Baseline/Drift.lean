import Mandate.Proofs.Baseline.Distance
import Mandate.Proofs.Baseline.Reading
import Mandate.Proofs.Baseline.Run
import Mandate.Proofs.Scalar.Logarithm

/-!
# What a comparison says

A conduct is compared with the newest of the records that are still held of its frame, and what the
comparison says of the two is so (`isAgainst_of_score?`). The drift of an agent stays in the unit
interval through every run (`inUnit_drift_run`). The main statement, `drift_sound`, joins the two.
-/

namespace Mandate

/-- Where `made` lists all records, the oldest first, and as many of the newest are held as the
capacity says, this is the newest record of a frame identity that is held. -/
structure IsNewest (capacity : Nat) (made : List BaselineRecord) (i : Identity)
    (r : BaselineRecord) : Prop where
  identity : r.identity = i
  newest : ∃ older newer, made = older ++ r :: newer ∧ newer.length < capacity ∧
    ∀ r' ∈ newer, r'.identity ≠ i

theorem find?_reverse_eq_some_iff {α : Type} {p : α → Bool} {xs : List α} {x : α} :
    xs.reverse.find? p = some x ↔
      p x = true ∧ ∃ older newer, xs = older ++ x :: newer ∧ ∀ y ∈ newer, p y = false := by
  rw [List.find?_eq_some_iff_append]
  refine and_congr_right fun _ => ⟨?_, ?_⟩
  · rintro ⟨as, bs, hxs, has⟩
    refine ⟨bs.reverse, as.reverse, ?_, ?_⟩
    · rw [List.reverse_eq_iff.1 hxs]
      simp
    · simpa using has
  · rintro ⟨older, newer, rfl, hnewer⟩
    exact ⟨newer.reverse, older.reverse, by simp, by simpa using hnewer⟩

theorem Baseline.newest?_eq_some_iff {F : Type} {b : Baseline F} {capacity : Nat}
    {made : List BaselineRecord} (held : b.records = keepNewest capacity made) {i : Identity}
    {r : BaselineRecord} : b.newest? i = some r ↔ IsNewest capacity made i r := by
  rw [newest?, find?_reverse_eq_some_iff, held]
  constructor
  · rintro ⟨hidentity, older, newer, hheld, hnewer⟩
    obtain ⟨hlength, older', hmade⟩ := keepNewest_eq_append_cons_iff.1 ⟨older, hheld⟩
    exact ⟨of_decide_eq_true hidentity, older', newer, hmade, hlength,
      fun r' hr' => of_decide_eq_false (hnewer r' hr')⟩
  · rintro ⟨hidentity, older', newer, hmade, hlength, hnewer⟩
    obtain ⟨older, hheld⟩ := keepNewest_eq_append_cons_iff.2 ⟨hlength, older', hmade⟩
    exact ⟨decide_eq_true hidentity, older, newer, hheld,
      fun r' hr' => decide_eq_false (hnewer r' hr')⟩

section Scoring

variable [ExactContext] {s : BaselineSettings Exact} {agent : String} {c : Conduct Exact}

/-! ## One comparison -/

/-- What a comparison says of a conduct beside a record. -/
structure Comparison.IsAgainst (s : BaselineSettings Exact) (r : BaselineRecord)
    (c : Conduct Exact) (k : Comparison Exact) : Prop where
  hasBaseline : k.hasBaseline = true
  recordedAt : k.recordedAt = some r.recordedAt
  frameDistance : IsDistance k.frameDistance (r.tokens = c.frame.tokens)
  interpretationMatches :
    k.interpretationMatches = true ↔ SameWords r.interpretation c.interpretation
  behaviorMismatch : IsDistance k.behaviorMismatch (IsExpected r.behaviors c.behaviors)
  behaviorMatches : k.behaviorMatches = true ↔ IsExpected r.behaviors c.behaviors
  score : IsDistance k.score
    ((0.0 < s.frameWeight → r.tokens = c.frame.tokens) ∧
      (0.0 < s.interpretationWeight → SameWords r.interpretation c.interpretation) ∧
      (0.0 < s.behaviorWeight → IsExpected r.behaviors c.behaviors))

theorem IsDistance.same_zero_iff {x : Exact} {agree : Prop} (h : IsDistance x agree) :
    Scalar.same x 0.0 = true ↔ agree := by
  obtain ⟨q, rfl, -⟩ := Exact.inUnit_iff.1 h.inUnit
  rw [← h.eq_zero_iff, Exact.zero_eq, Scalar.same, Bool.and_eq_true, decide_eq_true_iff,
    decide_eq_true_iff, Exact.finite_le_finite, Exact.finite_le_finite, ← le_antisymm_iff,
    Exact.finite.injEq]

/-- A score is taken against the newest record, and nothing is changed but the drift and the count
of comparisons. -/
theorem isAgainst_of_score? (w : s.Weights) {b b' : Baseline Exact} (hb : b.drift.InUnit)
    {k : Comparison Exact} (h : b.score? s agent c = some (k, b')) :
    ∃ r, b.newest? c.frame.identity = some r ∧ k.IsAgainst s r c ∧ k.agentDrift.InUnit ∧
      b' = { b with drift := k.agentDrift, comparisons := b.comparisons + 1 } := by
  obtain ⟨r, hr, heq⟩ := Option.map_eq_some_iff.1 h
  cases heq
  have hframe : IsDistance _ (r.tokens = c.frame.tokens) := isDistance_sequenceDistance ..
  have hbehavior := isDistance_behaviorMismatch r.behaviors c.behaviors
  have hreading : decide (normalized r.interpretation = normalized c.interpretation) = true ↔
      SameWords r.interpretation c.interpretation :=
    decide_eq_true_iff.trans normalized_eq_iff
  have hscore := isDistance_driftScore w hframe
    (decide (normalized r.interpretation = normalized c.interpretation)) hbehavior
  rw [hreading] at hscore
  refine ⟨r, hr, ⟨rfl, rfl, hframe, ?_, hbehavior, hbehavior.same_zero_iff, hscore⟩,
    inUnit_smoothed w hb hscore.inUnit, rfl⟩
  simp only [hreading]

namespace Baselines

variable {bs : Baselines Exact}

theorem compare_of_known (w : s.Weights) (hdrift : (bs.drift agent).InUnit)
    (h : bs.knows agent c.frame.identity = true) :
    let k := (bs.compare s agent c).1
    (∃ r, (bs.baseline agent).newest? c.frame.identity = some r ∧ k.IsAgainst s r c) ∧
      k.agentDrift.InUnit ∧
      (bs.compare s agent c).2 = bs.insert agent
        { bs.baseline agent with
          drift := k.agentDrift, comparisons := (bs.baseline agent).comparisons + 1 } := by
  cases hscore : (bs.baseline agent).score? s agent c with
  | none => cases h.symm.trans (Baseline.score?_eq_none_iff.1 hscore)
  | some p =>
      obtain ⟨k, b'⟩ := p
      obtain ⟨r, hr, hagainst, hinUnit, rfl⟩ := isAgainst_of_score? w hdrift hscore
      simp only [compare, hscore]
      exact ⟨⟨r, hr, hagainst⟩, hinUnit, trivial⟩

/-! ## The running drift -/

theorem inUnit_drift_compare (w : s.Weights) (hdrift : (bs.drift agent).InUnit)
    (c : Conduct Exact) : ((bs.compare s agent c).2.drift agent).InUnit := by
  rcases Bool.eq_false_or_eq_true (bs.knows agent c.frame.identity) with hknown | hnew
  · obtain ⟨-, hinUnit, hafter⟩ := compare_of_known w hdrift hknown
    rw [hafter, drift_insert_self]
    exact hinUnit
  · rw [compare_of_new hnew]
    exact hdrift

/-- A run on a frame that has no record is not compared, and nothing but the records is changed. -/
theorem observe_spares (h : bs.knows agent c.frame.identity = false) (now : Instant)
    (mayLearn : Bool) :
    let o := bs.observe s now agent c mayLearn
    o.1.comparison? = none ∧
      ∃ records, o.2.baseline agent = { bs.baseline agent with records } := by
  rw [observe_of_new h]
  cases mayLearn with
  | true => exact ⟨rfl, _, baseline_record ..⟩
  | false => exact ⟨rfl, _, rfl⟩

theorem inUnit_drift_observe (w : s.Weights) (hdrift : (bs.drift agent).InUnit) (now : Instant)
    (c : Conduct Exact) (mayLearn : Bool) :
    ((bs.observe s now agent c mayLearn).2.drift agent).InUnit := by
  rcases Bool.eq_false_or_eq_true (bs.knows agent c.frame.identity) with hknown | hnew
  · rw [observe_of_known hknown]
    exact inUnit_drift_compare w hdrift c
  · obtain ⟨-, records, hafter⟩ := observe_spares (s := s) hnew now mayLearn
    rwa [drift, hafter]

theorem inUnit_drift_recalibrate (bs : Baselines Exact) (now : Instant) (agent : String) :
    ((bs.recalibrate now agent).2.drift agent).InUnit := by
  rw [drift, baseline, get?_recalibrate_self]
  cases bs.get? agent <;> exact Exact.inUnit_zero

theorem inUnit_drift_serve (w : s.Weights) (now : Instant) (hdrift : (bs.drift agent).InUnit)
    (r : Request Exact) : ((bs.serve s now r).2.drift agent).InUnit := by
  by_cases h : r.agent = agent
  · cases r with
    | record own c =>
        obtain rfl : own = agent := h
        have hsame : (bs.serve s now (.record own c)).2.drift own = bs.drift own := drift_record ..
        rwa [hsame]
    | observe own c mayLearn =>
        obtain rfl : own = agent := h
        exact inUnit_drift_observe w hdrift now c mayLearn
    | compare own c =>
        obtain rfl : own = agent := h
        exact inUnit_drift_compare w hdrift c
    | recalibrate own =>
        obtain rfl : own = agent := h
        exact inUnit_drift_recalibrate bs now own
    | clear own =>
        obtain rfl : own = agent := h
        have hblank : (bs.serve s now (.clear own)).2.drift own = 0.0 :=
          congrArg Baseline.drift (bs.baseline_clear own)
        rw [hblank]
        exact Exact.inUnit_zero
  · have hsame : (bs.serve s now r).2.drift agent = bs.drift agent :=
      congrArg Baseline.drift (baseline_congr (bs.get?_serve_of_ne s now (Ne.symm h)))
    rwa [hsame]

theorem inUnit_drift_run (w : s.Weights) (agent : String) (rs : List (Instant × Request Exact)) :
    ((run s ∅ rs).drift agent).InUnit := by
  induction rs using List.reverseRecOn with
  | nil => exact Exact.inUnit_zero
  | append_singleton rs r ih =>
      rw [run_concat]
      exact inUnit_drift_serve w r.1 ih r.2

/-! ## The whole run -/

theorem get?_recalibrate (bs : Baselines Exact) (now : Instant) (agent other : String) :
    (bs.recalibrate now agent).2.get? other =
      if other = agent then
        (bs.get? other).map fun b => { b with drift := 0.0, recalibratedAt := some now }
      else bs.get? other := by
  split
  next h =>
    subst h
    exact get?_recalibrate_self ..
  next h => exact get?_recalibrate_of_ne h ..

/-- Under accepted settings the drift of an agent lies in the unit interval after every run, and so
does each score. A conduct is compared with the newest record that is held of its frame, and what
the comparison says of the two is so; without a record nothing is said and nothing is changed. To
recalibrate an agent changes its drift and the moment of that, and nothing else. -/
theorem drift_sound (h : Settings.checkBaseline s = .ok ()) (rs : List (Instant × Request Exact))
    (agent : String) (c : Conduct Exact) (now : Instant) (mayLearn : Bool) :
    let bs := run s ∅ rs
    let b := bs.baseline agent
    let r := bs.compare s agent c
    let o := bs.observe s now agent c mayLearn
    let IsHeld := IsNewest s.maxRecords (made s agent rs) c.frame.identity
    b.drift.InUnit ∧ r.1.score.InUnit ∧ r.1.agentDrift.InUnit ∧
    (∀ record, IsHeld record → r.1.IsAgainst s record c ∧ o = (.compared r.1, r.2) ∧
      r.2.baseline agent =
        { b with drift := r.1.agentDrift, comparisons := b.comparisons + 1 }) ∧
    ((∀ record, ¬ IsHeld record) → r.1.hasBaseline = false ∧ r.1.score = 0.0 ∧ r.2 = bs ∧
      o.1.comparison? = none ∧ ∃ records, o.2.baseline agent = { b with records }) ∧
    ∀ other, (bs.recalibrate now agent).2.get? other =
      if other = agent then
        (bs.get? other).map fun b => { b with drift := 0.0, recalibratedAt := some now }
      else bs.get? other := by
  intro bs b r o IsHeld
  obtain ⟨w⟩ := nonempty_weights h
  have hdrift : (bs.drift agent).InUnit := inUnit_drift_run w agent rs
  have hheld (record : BaselineRecord) : b.newest? c.frame.identity = some record ↔ IsHeld record :=
    Baseline.newest?_eq_some_iff (records_run s agent rs)
  have hrecalibrate := get?_recalibrate bs now agent
  -- A record of the frame is held exactly if the agent knows the frame, so one of the two halves on
  -- records is empty in each case.
  rcases Bool.eq_false_or_eq_true (bs.knows agent c.frame.identity) with hknown | hnew
  · obtain ⟨⟨record, hrecord, hagainst⟩, hinUnit, hafter⟩ := compare_of_known w hdrift hknown
    refine ⟨hdrift, hagainst.score.inUnit, hinUnit, fun record' hrecord' => ?_, fun hnone => ?_,
      hrecalibrate⟩
    · obtain rfl := Option.some.inj (((hheld record').2 hrecord').symm.trans hrecord)
      exact ⟨hagainst, observe_of_known hknown .., by rw [hafter, baseline_insert_self]⟩
    · exact absurd ((hheld record).1 hrecord) (hnone record)
  · have hnone : b.newest? c.frame.identity = none := Baseline.newest?_eq_none_iff.2 hnew
    have hr : r = _ := compare_of_new hnew s
    obtain ⟨hcomparison, hspared⟩ := observe_spares (s := s) hnew now mayLearn
    rw [hr]
    refine ⟨hdrift, Exact.inUnit_zero, hdrift, fun record hrecord => ?_, fun _ => ?_, hrecalibrate⟩
    · cases hnone.symm.trans ((hheld record).2 hrecord)
    · exact ⟨rfl, rfl, rfl, hcomparison, hspared⟩

end Baselines

end Scoring

namespace Baselines

open scoped Exact.Whole

/-- Under the default settings neither the spacing of an interpretation counts nor its letter case,
but another word does, and so does another label. -/
theorem drift_sound_other_label :
    let s : BaselineSettings Exact := .default
    let known : Conduct Exact := ⟨.ofParts "⊕◊▶β" [] [], "deploy strictly", ["deploy"]⟩
    let bs := run s ∅ [(.epoch, .record "a1" known)]
    let seen (interpretation label : String) : Conduct Exact :=
      ⟨known.frame, interpretation, [label]⟩
    let score (interpretation label : String) : Exact :=
      (bs.compare s "a1" (seen interpretation label)).1.score
    Settings.checkBaseline s = .ok () ∧ score "Deploy  strictly" "deploy" = 0.0 ∧
      score "Deploy loosely" "deploy" ≠ 0.0 ∧ score "Deploy  strictly" "delete" ≠ 0.0 ∧
      (score "Deploy  strictly" "delete").InUnit := by
  intro s known bs seen score
  have accepted : Settings.checkBaseline s = .ok () :=
    (Settings.check_eq_ok_iff.1 Settings.check_default).2.1
  have readingCounts : (0.0 : Exact) < s.interpretationWeight := by
    norm_num [s, BaselineSettings.default]
  have labelCounts : (0.0 : Exact) < s.behaviorWeight := by
    norm_num [s, BaselineSettings.default]
  have same : SameWords "deploy strictly" "Deploy  strictly" :=
    normalized_eq_iff.1 (by decide +kernel)
  have other : ¬ SameWords "deploy strictly" "Deploy loosely" := by
    rw [← normalized_eq_iff]
    decide +kernel
  have made_eq : made s "a1" [(.epoch, .record "a1" known)] = [known.record .epoch] := by
    simp [made, madeFrom, Request.made, Request.agent]
  have held : IsNewest s.maxRecords (made s "a1" [(.epoch, .record "a1" known)])
      known.frame.identity (known.record .epoch) :=
    ⟨rfl, [], [], made_eq, Nat.succ_pos 255, fun _ h => absurd h List.not_mem_nil⟩
  have against (interpretation label : String) :
      (bs.compare s "a1" (seen interpretation label)).1.IsAgainst s (known.record .epoch)
        (seen interpretation label) := by
    obtain ⟨-, -, -, hheld, -⟩ := drift_sound accepted [(.epoch, .record "a1" known)] "a1"
      (seen interpretation label) .epoch false
    exact (hheld _ held).1
  refine ⟨accepted, (against "Deploy  strictly" "deploy").score.eq_zero_iff.2
    ⟨fun _ => rfl, fun _ => same, fun _ => ?_⟩, fun hzero => ?_, fun hzero => ?_,
    (against "Deploy  strictly" "delete").score.inUnit⟩
  · simp [IsExpected, known, seen, Conduct.record]
  · obtain ⟨-, hsame, -⟩ := (against "Deploy loosely" "deploy").score.eq_zero_iff.1 hzero
    exact other (hsame readingCounts)
  · obtain ⟨-, -, hexpected⟩ := (against "Deploy  strictly" "delete").score.eq_zero_iff.1 hzero
    simpa [IsExpected, known, seen, Conduct.record] using hexpected labelCounts

end Baselines
end Mandate
