import Mathlib.Data.List.Induction
import Mathlib.Data.List.Nodup
import Mandate.Proofs.Gate.Ruling
import Mandate.Proofs.Standing.Calls

/-!
# What an agent learns

A baseline is made at an operator's word, or for the first success on a frame that is valid, while
the circuit of the agent is closed. `made` lists all baselines that a run makes for an agent; the
agent holds the newest of them (`records_run`). The main statement, `learning_discipline`, says
where each baseline that is held comes from, and what never makes one.
-/

namespace Mandate

variable {F : Type} [Scalar F]

namespace Engine

/-! ## The baseline that a call makes -/

/-- The call makes this baseline for the agent. -/
inductive Makes (e : Engine F) (s : Standing F) (agent : String) :
    Stamp × Call F → BaselineRecord → Prop where
  | demanded {stamp : Stamp} {raw interpretation : String} {behaviors : List String} {f : Frame F}
      (read : e.parse? raw = some f) :
      Makes e s agent (stamp, .recordBaseline agent raw interpretation behaviors)
        { identity := f.identity, frame := f.raw, tokens := f.tokens,
          interpretation, behaviors := Identity.distinct behaviors, recordedAt := stamp.now }
  | learned {stamp : Stamp} {raw label : String} {f : Frame F} (read : e.parse? raw = some f)
      (valid : (e.validate stamp.now raw none).valid = true)
      (allowed : isAllowed s agent = true)
      (new : ∀ r ∈ s.baselines.records agent, r.identity ≠ f.identity) :
      Makes e s agent (stamp, .operation agent raw label true)
        { identity := f.identity, frame := f.raw, tokens := f.tokens,
          interpretation := f.describe, behaviors := [label], recordedAt := stamp.now }

instance (e : Engine F) (now : Instant) (agent raw : String) (s : Standing F) :
    Decidable (e.MayLearn now agent raw s) :=
  inferInstanceAs (Decidable (_ ∧ _))

/-- The baseline that a call makes for an agent, if it makes one. -/
def made? (e : Engine F) (s : Standing F) (agent : String) (c : Stamp × Call F) :
    Option BaselineRecord :=
  match c.2 with
  | .recordBaseline own raw interpretation behaviors =>
    if own = agent then
      (e.parse? raw).map fun f => Conduct.record ⟨f, interpretation, behaviors⟩ c.1.now
    else none
  | .operation own raw label true =>
    if own = agent ∧ e.MayLearn c.1.now agent raw s then
      ((e.parse? raw).filter fun f => !s.baselines.knows agent f.identity).map fun f =>
        (conduct f label).record c.1.now
    else none
  | _ => none

omit [Scalar F] in
theorem record_conduct (f : Frame F) (label : String) (now : Instant) :
    (conduct f label).record now =
      { identity := f.identity, frame := f.raw, tokens := f.tokens,
        interpretation := f.describe, behaviors := [label], recordedAt := now } := by
  rw [conduct, Conduct.record, Identity.distinct_singleton]

theorem made?_operation_eq_some_iff {e : Engine F} {s : Standing F} {agent own raw label : String}
    {stamp : Stamp} {r : BaselineRecord} :
    e.made? s agent (stamp, .operation own raw label true) = some r ↔
      own = agent ∧ ∃ f, e.parse? raw = some f ∧ e.MayLearn stamp.now agent raw s ∧
        s.baselines.knows agent f.identity = false ∧ (conduct f label).record stamp.now = r := by
  simp only [made?]
  split
  next h => simp [h, Option.filter_eq_some_iff, and_assoc]
  next h =>
    refine ⟨nofun, ?_⟩
    rintro ⟨rfl, _, _, hmay, _⟩
    exact absurd ⟨rfl, hmay⟩ h

theorem made?_eq_some_iff {e : Engine F} {s : Standing F} {agent : String} {c : Stamp × Call F}
    {r : BaselineRecord} : e.made? s agent c = some r ↔ e.Makes s agent c r := by
  constructor
  · obtain ⟨stamp, call⟩ := c
    intro h
    cases call with
    | recordBaseline own raw interpretation behaviors =>
        obtain ⟨rfl, hmade⟩ := Option.ite_none_right_eq_some.1 h
        obtain ⟨f, hread, rfl⟩ := Option.map_eq_some_iff.1 hmade
        exact .demanded hread
    | operation own raw label success =>
        cases success with
        | false => cases h
        | true =>
            obtain ⟨rfl, f, hread, hmay, hnew, rfl⟩ := made?_operation_eq_some_iff.1 h
            rw [record_conduct]
            exact .learned hread hmay.1 hmay.2 (Baseline.knows_eq_false_iff.1 hnew)
    | compare | failure | drift | halt | resume | recalibrate | floor | gate | tripwires => cases h
  · intro h
    cases h with
    | demanded read => simp [made?, read, Conduct.record]
    | learned read valid allowed new =>
        have hnew : s.baselines.knows agent _ = false := Baseline.knows_eq_false_iff.2 new
        exact made?_operation_eq_some_iff.2
          ⟨rfl, _, read, ⟨valid, allowed⟩, hnew, record_conduct ..⟩

theorem made?_of_subject?_ne {e : Engine F} {s : Standing F} {agent : String}
    {c : Stamp × Call F} (h : c.2.subject? ≠ some agent) : e.made? s agent c = none := by
  refine Option.eq_none_iff_forall_ne_some.2 fun r hr => h ?_
  cases made?_eq_some_iff.1 hr <;> rfl

theorem made?_operation_eq_none {e : Engine F} {s : Standing F} {own raw label : String}
    {stamp : Stamp} (agent : String) (h : ∀ f, e.parse? raw = some f →
      e.MayLearn stamp.now own raw s → s.baselines.knows own f.identity = true) :
    e.made? s agent (stamp, .operation own raw label true) = none := by
  refine Option.eq_none_iff_forall_ne_some.2 fun r hr => ?_
  obtain ⟨rfl, f, hread, hmay, hnew, _⟩ := made?_operation_eq_some_iff.1 hr
  rw [h f hread hmay] at hnew
  cases hnew

/-- An operation on a frame that has a record is scored and makes no baseline. -/
theorem made?_operation_of_scored {e : Engine F} {s : Standing F} {own raw label : String}
    {stamp : Stamp} {f : Frame F} {p : Comparison F × Baseline F} (agent : String)
    (read : e.parse? raw = some f)
    (scored : (s.baselines.baseline own).score? e.settings.baseline own (conduct f label) =
      some p) :
    e.made? s agent (stamp, .operation own raw label true) = none := by
  refine made?_operation_eq_none agent fun g hg _ => ?_
  obtain rfl := Option.some.inj (read.symm.trans hg)
  exact Baseline.knows_of_score? scored

/-- An operation that fails, of an agent whose circuit is open, or on a frame that is not valid
makes no baseline. -/
theorem made?_operation_of_not_mayLearn {e : Engine F} {s : Standing F} {own raw label : String}
    {success : Bool} {stamp : Stamp} (agent : String)
    (h : success = false ∨ ¬ e.MayLearn stamp.now own raw s) :
    e.made? s agent (stamp, .operation own raw label success) = none := by
  cases success with
  | false => rfl
  | true =>
      rcases h with h | h
      · cases h
      · exact made?_operation_eq_none agent fun _ _ hmay => absurd hmay h

theorem made?_operation_of_unreadable {e : Engine F} {s : Standing F} {own raw label : String}
    {stamp : Stamp} (agent : String) (h : e.parse? raw = none) :
    e.made? s agent (stamp, .operation own raw label true) = none :=
  made?_operation_eq_none agent fun _ hread => nomatch h.symm.trans hread

theorem records_recordOperation (e : Engine F) (stamp : Stamp) (s : Standing F)
    (agent raw label : String) (success : Bool) :
    (e.recordOperation stamp.now agent raw label success s).standing.baselines.records agent =
      match e.made? s agent (stamp, .operation agent raw label success) with
      | none => s.baselines.records agent
      | some r => remember e.settings.baseline.maxRecords (s.baselines.records agent) r := by
  have hcourse := e.course_recordOperation stamp.now agent raw label success s
  generalize e.recordOperation stamp.now agent raw label success s = r at hcourse ⊢
  cases hcourse with
  | failed counted =>
      subst counted
      rfl
  | unreadable counted unread =>
      subst counted
      rw [made?_operation_of_unreadable agent unread]
      rfl
  | learned read new permitted made counted =>
      subst counted
      rw [made?_operation_eq_some_iff.2 ⟨rfl, _, read, permitted, new, rfl⟩]
      exact (congrArg (Baselines.records ·.2 agent) made).symm.trans (Baselines.records_record ..)
  | agreed read scored low counted =>
      subst counted
      rw [made?_operation_of_scored agent read scored]
      exact Baselines.records_insert_of_scored scored
  | drifted read scored high counted reported =>
      subst reported counted
      rw [made?_operation_of_scored agent read scored]
      exact Baselines.records_insert_of_scored scored
  | unknown read new barred counted =>
      subst counted
      rw [made?_operation_of_not_mayLearn agent (Or.inr barred)]
      rfl

/-- The records of an agent after a call: those before it, and the baseline that the call makes. -/
theorem records_perform (e : Engine F) (s : Standing F) (agent : String) (c : Stamp × Call F) :
    (e.perform c.1 s c.2).standing.baselines.records agent =
      match e.made? s agent c with
      | none => s.baselines.records agent
      | some r => remember e.settings.baseline.maxRecords (s.baselines.records agent) r := by
  obtain ⟨stamp, call⟩ := c
  by_cases hown : call.subject? = some agent
  · cases call with
    | recordBaseline own raw interpretation behaviors =>
        obtain rfl : own = agent := Option.some.inj hown
        simp only [perform, Effect.map, recordBaseline, made?, if_true]
        cases e.parse? raw with
        | none => rfl
        | some f => exact Baselines.records_record ..
    | compare own raw interpretation behaviors =>
        obtain rfl : own = agent := Option.some.inj hown
        simp only [perform, Effect.map, compare, made?]
        cases e.parse? raw with
        | none => rfl
        | some f => exact Baselines.records_compare ..
    | operation own raw label success =>
        obtain rfl : own = agent := Option.some.inj hown
        exact e.records_recordOperation stamp s own raw label success
    | failure | drift | halt | resume => rfl
    | recalibrate own =>
        obtain rfl : own = agent := Option.some.inj hown
        exact Baselines.records_recalibrate s.baselines stamp.now own
    | floor | gate | tripwires => cases hown
  · rw [made?_of_subject?_ne hown]
    exact Baselines.records_congr (congrArg Profile.baseline (e.profile_perform_of_ne stamp s hown))

/-! ## The baselines that a run makes -/

/-- All baselines that some calls make for an agent, the oldest first. -/
def made (e : Engine F) (agent : String) : Standing F → List (Stamp × Call F) → List BaselineRecord
  | _, [] => []
  | s, c :: cs => (e.made? s agent c).toList ++ e.made agent (e.perform c.1 s c.2).standing cs

theorem made_append (e : Engine F) (agent : String) (s : Standing F)
    (cs ds : List (Stamp × Call F)) :
    e.made agent s (cs ++ ds) = e.made agent s cs ++ e.made agent (e.run s cs) ds := by
  induction cs generalizing s with
  | nil => rfl
  | cons c cs ih =>
      simp only [List.cons_append, made, ih, List.append_assoc]
      rfl

theorem made_concat (e : Engine F) (agent : String) (s : Standing F) (cs : List (Stamp × Call F))
    (c : Stamp × Call F) :
    e.made agent s (cs ++ [c]) = e.made agent s cs ++ (e.made? (e.run s cs) agent c).toList := by
  rw [made_append]
  simp [made]

theorem mem_made_iff {e : Engine F} {agent : String} {s : Standing F} {cs : List (Stamp × Call F)}
    {r : BaselineRecord} :
    r ∈ e.made agent s cs ↔
      ∃ before c after, cs = before ++ c :: after ∧ e.Makes (e.run s before) agent c r := by
  induction cs generalizing s with
  | nil => simp [made]
  | cons d ds ih =>
      rw [made, List.mem_append, Option.mem_toList, made?_eq_some_iff, ih]
      constructor
      · rintro (h | ⟨before, c, after, rfl, h⟩)
        · exact ⟨[], d, ds, rfl, h⟩
        · exact ⟨d :: before, c, after, rfl, h⟩
      · rintro ⟨before, c, after, heq, h⟩
        cases before with
        | nil =>
            obtain ⟨rfl, rfl⟩ := List.cons.inj heq
            exact Or.inl h
        | cons b before =>
            obtain ⟨rfl, rfl⟩ := List.cons.inj heq
            exact Or.inr ⟨before, c, after, rfl, h⟩

/-- An agent holds the newest baselines of those that were made for it. -/
theorem records_run (e : Engine F) (agent : String) (calls : List (Stamp × Call F)) :
    (e.run .blank calls).baselines.records agent =
      keepNewest e.settings.baseline.maxRecords (e.made agent .blank calls) := by
  induction calls using List.reverseRecOn with
  | nil => exact (List.drop_nil).symm
  | append_singleton cs c ih =>
      rw [run_concat, records_perform, made_concat, ih]
      cases e.made? (e.run .blank cs) agent c with
      | none => simp
      | some r => exact remember_keepNewest ..

/-- Without a word of an operator an agent holds one baseline of a frame at most. -/
theorem nodup_identity_records_run (e : Engine F) (agent : String) (calls : List (Stamp × Call F))
    (h : ∀ c ∈ calls, ∀ raw interpretation behaviors,
      c.2 ≠ .recordBaseline agent raw interpretation behaviors) :
    (((e.run .blank calls).baselines.records agent).map (·.identity)).Nodup := by
  induction calls using List.reverseRecOn with
  | nil => exact .nil
  | append_singleton cs c ih =>
      have ih := ih fun d hd => h d (List.mem_append_left _ hd)
      rw [run_concat, records_perform]
      split
      next => exact ih
      next r hr =>
        have hnew : ∀ r' ∈ (e.run .blank cs).baselines.records agent, r'.identity ≠ r.identity := by
          cases made?_eq_some_iff.1 hr with
          | demanded =>
              have hc := h _ (List.mem_append_right _ (List.mem_singleton_self _))
              exact absurd rfl (hc _ _ _)
          | learned _ _ _ new => exact new
        rw [remember_eq_keepNewest]
        refine List.Nodup.sublist ((keepNewest_sublist ..).map _) ?_
        rw [List.map_append, List.map_singleton, List.nodup_append]
        refine ⟨ih, List.nodup_singleton _, fun i hi j hj => ?_⟩
        obtain ⟨r', hr', rfl⟩ := List.mem_map.1 hi
        obtain rfl := List.mem_singleton.1 hj
        exact hnew r' hr'

/-- In every run each baseline that an agent holds was made for it, at an operator's word or by its
first success on a valid frame while its circuit was closed. So without an operator's word it holds
one baseline of a frame at most, and an operation that fails, is barred or is on an invalid frame
adds none. -/
theorem learning_discipline (e : Engine F) (calls : List (Stamp × Call F)) (agent : String) :
    let records (cs : List (Stamp × Call F)) := (e.run .blank cs).baselines.records agent
    (∀ r ∈ records calls, ∃ before c after, calls = before ++ c :: after ∧
      e.Makes (e.run .blank before) agent c r ∧
      records (before ++ [c]) = remember e.settings.baseline.maxRecords (records before) r) ∧
    ((∀ c ∈ calls, ∀ raw interpretation behaviors,
        c.2 ≠ .recordBaseline agent raw interpretation behaviors) →
      ((records calls).map (·.identity)).Nodup) ∧
    ∀ stamp own raw label success,
      success = false ∨ isAllowed (e.run .blank calls) own = false ∨
          (e.validate stamp.now raw none).valid = false →
        records (calls ++ [(stamp, .operation own raw label success)]) = records calls := by
  intro records
  refine ⟨fun r hr => ?_, e.nodup_identity_records_run agent calls, ?_⟩
  · have hnewest : r ∈ keepNewest e.settings.baseline.maxRecords (e.made agent .blank calls) := by
      rwa [← records_run]
    have hmade : r ∈ e.made agent .blank calls := (keepNewest_sublist ..).subset hnewest
    obtain ⟨before, c, after, rfl, hmakes⟩ := mem_made_iff.1 hmade
    refine ⟨before, c, after, rfl, hmakes, ?_⟩
    simp only [records, run_concat, records_perform, made?_eq_some_iff.2 hmakes]
  · intro stamp own raw label success h
    have hbarred : success = false ∨ ¬ e.MayLearn stamp.now own raw (e.run .blank calls) := by
      rcases h with h | h | h
      · exact Or.inl h
      · exact Or.inr fun hmay => by simp [hmay.2] at h
      · exact Or.inr fun hmay => by simp [hmay.1] at h
    have hperform := e.records_perform (e.run .blank calls) agent
      (stamp, .operation own raw label success)
    rw [made?_operation_of_not_mayLearn agent hbarred] at hperform
    simpa only [records, run_concat] using hperform

/-- The first success of an agent on a valid frame makes the one baseline that it holds. -/
theorem learning_discipline_first_success :
    let success : Stamp × Call Float := (⟨.epoch, .zero⟩, .operation "a1" "⊕◊▶β" "deploy" true)
    let records := (standard.run .blank [success]).baselines.records "a1"
    (∃ r, records = [r] ∧ r.behaviors = ["deploy"]) ∧ (records.map (·.identity)).Nodup := by
  intro success records
  have valid : (standard.validate .epoch "⊕◊▶β" none).valid = true := by decide +kernel
  have readable : (standard.parse? "⊕◊▶β").isSome = true := by decide +kernel
  obtain ⟨f, read⟩ := Option.isSome_iff_exists.1 readable
  have makes : standard.Makes .blank "a1" success _ :=
    .learned read valid rfl fun _ h => absurd h List.not_mem_nil
  obtain ⟨r, made, hbehaviors⟩ :
      ∃ r, standard.made? .blank "a1" success = some r ∧ r.behaviors = ["deploy"] :=
    ⟨_, made?_eq_some_iff.2 makes, rfl⟩
  have unasked : ∀ c ∈ [success], ∀ raw interpretation behaviors,
      c.2 ≠ .recordBaseline "a1" raw interpretation behaviors := by simp [success]
  have room : 1 ≤ standard.settings.baseline.maxRecords := by decide
  have kept : remember standard.settings.baseline.maxRecords [] r = [r] := by
    rw [remember_eq_keepNewest]
    exact keepNewest_of_length_le room
  -- From here on the call is a name only: nothing more is asked of it, and to unfold it is slow.
  clear_value success
  have held := standard.records_perform .blank "a1" success
  rw [made] at held
  exact ⟨⟨r, held.trans kept, hbehaviors⟩,
    (learning_discipline standard [success] "a1").2.1 unasked⟩

end Engine
end Mandate
