import Mandate.Frame
import Mandate.History
import Mandate.Instant
import Mandate.Keyed
import Mandate.Settings
import Mandate.Text.LetterCase

/-!
# Baselines and drift

For each agent it is remembered how frames were read and acted on. A later run of the same frame is
scored against the newest such record, and the scores are folded into the running drift of the
agent.
-/

namespace Mandate

/-- How a frame is expected to be read and acted on. -/
structure BaselineRecord where
  identity : Identity
  frame : String
  /-- Matched tokens in frame order. -/
  tokens : List String
  interpretation : String
  /-- Distinct labels in increasing order. -/
  behaviors : List String
  recordedAt : Instant
deriving DecidableEq

/-- What is remembered of one agent. -/
structure Baseline (F : Type) where
  records : List BaselineRecord
  /-- The running drift. -/
  drift : F
  comparisons : Nat
  recalibratedAt : Option Instant
deriving DecidableEq

/-- A run beside the record that it is compared with. -/
structure Comparison (F : Type) where
  agent : String
  identity : Identity
  hasBaseline : Bool
  /-- The drift of this run. -/
  score : F
  /-- The running drift of the agent after it. -/
  agentDrift : F
  interpretationMatches : Bool
  behaviorMatches : Bool
  frameDistance : F
  behaviorMismatch : F
  recordedAt : Option Instant
deriving DecidableEq

/-- A frame with the way in which it was read and acted on. -/
structure Conduct (F : Type) where
  frame : Frame F
  interpretation : String
  behaviors : List String

/-- What came of observing a run. -/
inductive Observation (F : Type) where
  /-- The frame was new and a record was made; holds how many there are now. -/
  | learned (records : Nat)
  | compared (comparison : Comparison F)
  /-- The frame was new and nothing was to be learned. -/
  | unknown

variable {F : Type}

/-! ## Scoring -/

/-- An interpretation without regard to spacing and letter case. -/
def normalized (text : String) : String :=
  let words := (Text.words text.toList).map String.ofList
  Text.lower (" ".intercalate words)

/-- The places at which two sequences differ, those included that only one of them has. -/
def mismatches : List String → List String → Nat
  | [], bs => bs.length
  | as, [] => as.length
  | a :: as, b :: bs => (if a = b then 0 else 1) + mismatches as bs

theorem mismatches_le (as bs : List String) : mismatches as bs ≤ max as.length bs.length := by
  fun_induction mismatches as bs with
  | case1 bs => simp
  | case2 as => simp
  | case3 a as b bs ih =>
      simp only [List.length_cons]
      split <;> omega

theorem mismatches_eq_zero_iff {as bs : List String} : mismatches as bs = 0 ↔ as = bs := by
  fun_induction mismatches as bs with
  | case1 bs => rw [List.length_eq_zero_iff, eq_comm]
  | case2 as => exact List.length_eq_zero_iff
  | case3 a as b bs ih =>
      rw [Nat.add_eq_zero_iff, ih, List.cons.injEq]
      by_cases h : a = b <;> simp [h]

/-- The share of places at which two sequences differ. -/
def sequenceDistance [Scalar F] (as bs : List String) : F :=
  let length := max as.length bs.length
  if length = 0 then 0.0 else Scalar.share (mismatches as bs) length

/-- The share of observed labels that were not expected. To see nothing where something was expected
is to be wholly off. -/
def behaviorMismatch [Scalar F] (expected observed : List String) : F :=
  if observed.isEmpty then (if expected.isEmpty then 0.0 else 1.0)
  else Scalar.share (observed.countP fun b => !expected.contains b) observed.length

/-- The weighted mean of the three distances, within the unit interval. -/
def driftScore [Scalar F] (s : BaselineSettings F) (frame : F) (interpretationMatches : Bool)
    (behavior : F) : F :=
  let weights := s.frameWeight + s.interpretationWeight + s.behaviorWeight
  Scalar.clamp
    ((s.frameWeight * frame + s.interpretationWeight * Scalar.indicator (!interpretationMatches)
      + s.behaviorWeight * behavior) / weights)
    0.0 1.0

/-- The running drift after one more score. -/
def smoothed [Scalar F] (s : BaselineSettings F) (running score : F) : F :=
  s.smoothing * score + (1.0 - s.smoothing) * running

/-! ## One agent -/

/-- The record that a run leaves. -/
def Conduct.record (c : Conduct F) (now : Instant) : BaselineRecord :=
  { identity := c.frame.identity
    frame := c.frame.raw
    tokens := c.frame.tokens
    interpretation := c.interpretation
    behaviors := Identity.distinct c.behaviors
    recordedAt := now }

namespace Baseline

/-- Nothing is remembered. -/
def blank [Scalar F] : Baseline F :=
  ⟨[], 0.0, 0, none⟩

/-- Adds a record; the oldest goes when there are too many. -/
def push (b : Baseline F) (s : BaselineSettings F) (r : BaselineRecord) : Baseline F :=
  { b with records := remember s.maxRecords b.records r }

/-- The newest record of a frame identity. -/
def newest? (b : Baseline F) (i : Identity) : Option BaselineRecord :=
  b.records.reverse.find? fun r => r.identity = i

/-- Whether there is a record of a frame identity. -/
def knows (b : Baseline F) (i : Identity) : Bool :=
  b.records.any fun r => r.identity = i

/-- Scores a run against the newest record of its frame, if there is one, and folds the score into
the running drift. -/
def score? [Scalar F] (b : Baseline F) (s : BaselineSettings F) (agent : String) (c : Conduct F) :
    Option (Comparison F × Baseline F) :=
  (b.newest? c.frame.identity).map fun r =>
    let distance : F := sequenceDistance r.tokens c.frame.tokens
    let agrees : Bool := normalized r.interpretation = normalized c.interpretation
    let mismatch : F := behaviorMismatch r.behaviors c.behaviors
    let score := driftScore s distance agrees mismatch
    let drift := smoothed s b.drift score
    ({ agent
       identity := c.frame.identity
       hasBaseline := true
       score
       agentDrift := drift
       interpretationMatches := agrees
       behaviorMatches := Scalar.same mismatch 0.0
       frameDistance := distance
       behaviorMismatch := mismatch
       recordedAt := some r.recordedAt },
     { b with drift, comparisons := b.comparisons + 1 })

/-- Forgets the drift and keeps the records. -/
def recalibrated [Scalar F] (b : Baseline F) (now : Instant) : Baseline F :=
  { b with drift := 0.0, recalibratedAt := some now }

/-! ### What becomes of the records -/

theorem knows_eq_false_iff {b : Baseline F} {i : Identity} :
    b.knows i = false ↔ ∀ r ∈ b.records, r.identity ≠ i := by
  simp [knows]

theorem newest?_eq_none_iff {b : Baseline F} {i : Identity} :
    b.newest? i = none ↔ b.knows i = false := by
  simp [newest?, knows_eq_false_iff]

theorem mem_records_of_newest? {b : Baseline F} {i : Identity} {r : BaselineRecord}
    (h : b.newest? i = some r) : r ∈ b.records ∧ r.identity = i := by
  have hr : r ∈ b.records := by simpa using List.mem_of_find?_eq_some h
  exact ⟨hr, by simpa using List.find?_some h⟩

theorem score?_eq_none_iff [Scalar F] {b : Baseline F} {s : BaselineSettings F} {agent : String}
    {c : Conduct F} : b.score? s agent c = none ↔ b.knows c.frame.identity = false := by
  rw [score?, Option.map_eq_none_iff, newest?_eq_none_iff]

theorem knows_of_score? [Scalar F] {b : Baseline F} {s : BaselineSettings F} {agent : String}
    {c : Conduct F} {p : Comparison F × Baseline F} (h : b.score? s agent c = some p) :
    b.knows c.frame.identity = true := by
  cases hk : b.knows c.frame.identity with
  | true => rfl
  | false =>
      rw [score?_eq_none_iff.2 hk] at h
      cases h

/-- A score is taken and leaves the records as they are. -/
theorem records_of_score? [Scalar F] {b b' : Baseline F} {s : BaselineSettings F} {agent : String}
    {c : Conduct F} {r : Comparison F} (h : b.score? s agent c = some (r, b')) :
    b'.records = b.records := by
  obtain ⟨_, _, h⟩ := Option.map_eq_some_iff.1 h
  cases h
  rfl

theorem agent_of_score? [Scalar F] {b b' : Baseline F} {s : BaselineSettings F} {agent : String}
    {c : Conduct F} {r : Comparison F} (h : b.score? s agent c = some (r, b')) :
    r.agent = agent := by
  obtain ⟨_, _, h⟩ := Option.map_eq_some_iff.1 h
  cases h
  rfl

end Baseline

/-! ## All agents -/

/-- What is remembered of the agents that anything is known of. -/
abbrev Baselines (F : Type) := Keyed (Baseline F)

namespace Baselines

variable [Scalar F]

/-- What is remembered of an agent. -/
def baseline (bs : Baselines F) (agent : String) : Baseline F :=
  (bs.get? agent).getD .blank

def drift (bs : Baselines F) (agent : String) : F :=
  (bs.baseline agent).drift

def records (bs : Baselines F) (agent : String) : List BaselineRecord :=
  (bs.baseline agent).records

/-- Whether an agent has a record of a frame identity. -/
def knows (bs : Baselines F) (agent : String) (i : Identity) : Bool :=
  (bs.baseline agent).knows i

/-- Makes a record for an agent and says how many there are now. -/
def record (bs : Baselines F) (s : BaselineSettings F) (now : Instant) (agent : String)
    (c : Conduct F) : Nat × Baselines F :=
  let b := (bs.baseline agent).push s (c.record now)
  (b.records.length, bs.insert agent b)

/-- The comparison of a run whose frame has no record. -/
def noComparison (agent : String) (i : Identity) (running : F) : Comparison F :=
  ⟨agent, i, false, 0.0, running, true, true, 0.0, 0.0, none⟩

/-- Compares a run with the newest record of its frame. -/
def compare (bs : Baselines F) (s : BaselineSettings F) (agent : String) (c : Conduct F) :
    Comparison F × Baselines F :=
  match (bs.baseline agent).score? s agent c with
  | some (r, b) => (r, bs.insert agent b)
  | none => (noComparison agent c.frame.identity (bs.drift agent), bs)

/-- Compares a run if its frame has a record, and otherwise makes a record if that is permitted. -/
def observe (bs : Baselines F) (s : BaselineSettings F) (now : Instant) (agent : String)
    (c : Conduct F) (mayLearn : Bool) : Observation F × Baselines F :=
  match (bs.baseline agent).score? s agent c with
  | some (r, b) => (.compared r, bs.insert agent b)
  | none =>
    if mayLearn then
      let (n, bs) := bs.record s now agent c
      (.learned n, bs)
    else (.unknown, bs)

/-- Forgets the drift of an agent; the flag says whether the agent is known. -/
def recalibrate (bs : Baselines F) (now : Instant) (agent : String) : Bool × Baselines F :=
  match bs.get? agent with
  | some b => (true, bs.insert agent (b.recalibrated now))
  | none => (false, bs)

/-- Forgets an agent; the flag says whether it was known. -/
def clear (bs : Baselines F) (agent : String) : Bool × Baselines F :=
  (bs.contains agent, bs.erase agent)

/-! ### What is remembered after an operation -/

@[simp] theorem baseline_insert_self (bs : Baselines F) (agent : String) (b : Baseline F) :
    baseline (bs.insert agent b) agent = b := by
  simp [baseline]

@[simp] theorem records_insert_self (bs : Baselines F) (agent : String) (b : Baseline F) :
    records (bs.insert agent b) agent = b.records := by
  simp [records]

@[simp] theorem drift_insert_self (bs : Baselines F) (agent : String) (b : Baseline F) :
    drift (bs.insert agent b) agent = b.drift := by
  simp [drift]

theorem baseline_congr {bs bs' : Baselines F} {agent : String}
    (h : bs'.get? agent = bs.get? agent) : bs'.baseline agent = bs.baseline agent :=
  congrArg (Option.getD · _) h

theorem records_congr {bs bs' : Baselines F} {agent : String}
    (h : bs'.get? agent = bs.get? agent) : bs'.records agent = bs.records agent :=
  congrArg Baseline.records (baseline_congr h)

@[simp] theorem records_empty (agent : String) : records (∅ : Baselines F) agent = [] := rfl

theorem observe_of_scored {bs : Baselines F} {s : BaselineSettings F} {agent : String}
    {c : Conduct F} {r : Comparison F} {b : Baseline F}
    (h : (bs.baseline agent).score? s agent c = some (r, b)) (now : Instant) (mayLearn : Bool) :
    bs.observe s now agent c mayLearn = (.compared r, bs.insert agent b) := by
  rw [observe, h]

theorem observe_of_new {bs : Baselines F} {agent : String} {c : Conduct F}
    (h : bs.knows agent c.frame.identity = false) (s : BaselineSettings F) (now : Instant)
    (mayLearn : Bool) :
    bs.observe s now agent c mayLearn =
      if mayLearn then
        (.learned (bs.record s now agent c).1, (bs.record s now agent c).2)
      else (.unknown, bs) := by
  rw [observe, Baseline.score?_eq_none_iff.2 h]

/-- A run on a frame that has a record is compared, whether it may be learnt from or not. -/
theorem observe_of_known {bs : Baselines F} {agent : String} {c : Conduct F}
    (h : bs.knows agent c.frame.identity = true) (s : BaselineSettings F) (now : Instant)
    (mayLearn : Bool) :
    bs.observe s now agent c mayLearn =
      (.compared (bs.compare s agent c).1, (bs.compare s agent c).2) := by
  unfold observe compare
  split
  next => rfl
  next hnone => cases h.symm.trans (Baseline.score?_eq_none_iff.1 hnone)

theorem compare_of_new {bs : Baselines F} {agent : String} {c : Conduct F}
    (h : bs.knows agent c.frame.identity = false) (s : BaselineSettings F) :
    bs.compare s agent c = (noComparison agent c.frame.identity (bs.drift agent), bs) := by
  rw [compare, Baseline.score?_eq_none_iff.2 h]

theorem baseline_record (bs : Baselines F) (s : BaselineSettings F) (now : Instant)
    (agent : String) (c : Conduct F) :
    (bs.record s now agent c).2.baseline agent = (bs.baseline agent).push s (c.record now) :=
  baseline_insert_self ..

theorem records_record (bs : Baselines F) (s : BaselineSettings F) (now : Instant) (agent : String)
    (c : Conduct F) :
    (bs.record s now agent c).2.records agent =
      remember s.maxRecords (bs.records agent) (c.record now) :=
  congrArg Baseline.records (baseline_record ..)

theorem drift_record (bs : Baselines F) (s : BaselineSettings F) (now : Instant) (agent : String)
    (c : Conduct F) : (bs.record s now agent c).2.drift agent = bs.drift agent :=
  (congrArg Baseline.drift (baseline_record bs s now agent c)).trans rfl

/-- A score is taken and leaves the records of the agent as they are. -/
theorem records_insert_of_scored {bs : Baselines F} {s : BaselineSettings F} {agent : String}
    {c : Conduct F} {r : Comparison F} {b : Baseline F}
    (h : (bs.baseline agent).score? s agent c = some (r, b)) :
    records (bs.insert agent b) agent = bs.records agent := by
  rw [records_insert_self, Baseline.records_of_score? h]
  rfl

theorem records_compare (bs : Baselines F) (s : BaselineSettings F) (agent : String)
    (c : Conduct F) : (bs.compare s agent c).2.records agent = bs.records agent := by
  unfold compare
  split
  next h => exact records_insert_of_scored h
  next => rfl

theorem records_observe (bs : Baselines F) (s : BaselineSettings F) (now : Instant) (agent : String)
    (c : Conduct F) (mayLearn : Bool) :
    (bs.observe s now agent c mayLearn).2.records agent =
      if mayLearn = true ∧ bs.knows agent c.frame.identity = false then
        remember s.maxRecords (bs.records agent) (c.record now)
      else bs.records agent := by
  cases hknown : bs.knows agent c.frame.identity with
  | true =>
      rw [observe_of_known hknown, if_neg nofun]
      exact records_compare ..
  | false =>
      rw [observe_of_new hknown]
      cases mayLearn with
      | true => exact records_record ..
      | false => rfl

theorem baseline_clear (bs : Baselines F) (agent : String) :
    (bs.clear agent).2.baseline agent = .blank := by
  simp [clear, baseline]

theorem agent_compare (bs : Baselines F) (s : BaselineSettings F) (agent : String) (c : Conduct F) :
    (bs.compare s agent c).1.agent = agent := by
  unfold compare
  split
  next h => exact Baseline.agent_of_score? h
  next => rfl

theorem get?_recalibrate_self (bs : Baselines F) (now : Instant) (agent : String) :
    (bs.recalibrate now agent).2.get? agent = (bs.get? agent).map (·.recalibrated now) := by
  unfold recalibrate
  split
  next h => rw [h, Keyed.get?_insert_self, Option.map_some]
  next h => rw [h, Option.map_none]

theorem records_recalibrate (bs : Baselines F) (now : Instant) (agent : String) :
    (bs.recalibrate now agent).2.records agent = bs.records agent := by
  unfold recalibrate
  split
  next h => simp [records, baseline, Baseline.recalibrated, h]
  next => rfl

section Other

variable {agent other : String} (h : other ≠ agent) (bs : Baselines F) (s : BaselineSettings F)
  (now : Instant) (c : Conduct F)
include h

theorem get?_record_of_ne : (bs.record s now agent c).2.get? other = bs.get? other :=
  Keyed.get?_insert_of_ne bs h _

theorem get?_compare_of_ne : (bs.compare s agent c).2.get? other = bs.get? other := by
  unfold compare
  split
  next => exact Keyed.get?_insert_of_ne bs h _
  next => rfl

theorem get?_observe_of_ne (mayLearn : Bool) :
    (bs.observe s now agent c mayLearn).2.get? other = bs.get? other := by
  unfold observe
  split
  next => exact Keyed.get?_insert_of_ne bs h _
  next =>
    split
    · exact get?_record_of_ne h bs s now c
    · rfl

theorem get?_recalibrate_of_ne : (bs.recalibrate now agent).2.get? other = bs.get? other := by
  unfold recalibrate
  split
  next => exact Keyed.get?_insert_of_ne bs h _
  next => rfl

end Other

end Baselines
end Mandate
