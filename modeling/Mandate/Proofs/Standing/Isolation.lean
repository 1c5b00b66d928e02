import Mandate.Proofs.Gate.Ruling
import Mandate.Proofs.Standing.Undated

/-!
# Agents do not touch each other

What is known of an agent depends, but for dates, on the calls that bear on that agent and on
nothing else. The main statement, `isolation`, compares a run with the calls of it that bear on one
agent.
-/

namespace Mandate

variable {F : Type}

/-! ## Baselines -/

def Observation.undated : Observation F → Observation F
  | .compared c => .compared c.undated
  | o => o

namespace Baselines

/-- The same is remembered of an agent, but for dates. -/
def Alike (agent : String) (bs bs' : Baselines F) : Prop :=
  (bs.get? agent).map Baseline.undated = (bs'.get? agent).map Baseline.undated

variable {agent : String} {bs bs' : Baselines F}

theorem alike_insert {b b' : Baseline F} (h : b.undated = b'.undated) :
    Alike agent (bs.insert agent b) (bs'.insert agent b') := by
  rw [Alike, Keyed.get?_insert_self, Keyed.get?_insert_self]
  exact congrArg some h

variable [Scalar F]

theorem Alike.baseline_eq (h : Alike agent bs bs') :
    (bs.baseline agent).undated = (bs'.baseline agent).undated := by
  have hblank (known : Option (Baseline F)) :
      (known.getD .blank).undated = (known.map Baseline.undated).getD .blank := by
    cases known <;> rfl
  exact (hblank _).trans ((congrArg (·.getD .blank) h).trans (hblank _).symm)

theorem Alike.score?_eq (h : Alike agent bs bs') (s : BaselineSettings F) (c : Conduct F) :
    ((bs.baseline agent).score? s agent c).map (Prod.map Comparison.undated Baseline.undated) =
      ((bs'.baseline agent).score? s agent c).map
        (Prod.map Comparison.undated Baseline.undated) := by
  rw [Baseline.undated_score?, Baseline.undated_score?, h.baseline_eq]

theorem Alike.record (h : Alike agent bs bs') (s : BaselineSettings F) (now now' : Instant)
    (c : Conduct F) :
    (bs.record s now agent c).1 = (bs'.record s now' agent c).1 ∧
      Alike agent (bs.record s now agent c).2 (bs'.record s now' agent c).2 := by
  have hpush : ((bs.baseline agent).push s (c.record now)).undated =
      ((bs'.baseline agent).push s (c.record now')).undated := by
    rw [Baseline.undated_push, Baseline.undated_push, h.baseline_eq]
    rfl
  refine ⟨?_, alike_insert hpush⟩
  simpa [Baseline.undated, Baselines.record] using congrArg (·.records.length) hpush

/-- A run has a score with both or with neither, and both take it the same. -/
theorem Alike.scored (h : Alike agent bs bs') (s : BaselineSettings F) (c : Conduct F) :
    ((bs.baseline agent).score? s agent c = none ∧ (bs'.baseline agent).score? s agent c = none) ∨
      ∃ p q, (bs.baseline agent).score? s agent c = some p ∧
        (bs'.baseline agent).score? s agent c = some q ∧
        p.1.undated = q.1.undated ∧ p.2.undated = q.2.undated := by
  have hscore := h.score?_eq s c
  cases hx : (bs.baseline agent).score? s agent c with
  | none =>
      rw [hx, Option.map_none, eq_comm, Option.map_eq_none_iff] at hscore
      exact Or.inl ⟨rfl, hscore⟩
  | some p =>
      rw [hx, Option.map_some, eq_comm] at hscore
      obtain ⟨q, hq, heq⟩ := Option.map_eq_some_iff.1 hscore
      obtain ⟨hc, hb⟩ := Prod.mk.inj heq
      exact Or.inr ⟨p, q, rfl, hq, hc.symm, hb.symm⟩

theorem Alike.compare (h : Alike agent bs bs') (s : BaselineSettings F) (c : Conduct F) :
    (bs.compare s agent c).1.undated = (bs'.compare s agent c).1.undated ∧
      Alike agent (bs.compare s agent c).2 (bs'.compare s agent c).2 := by
  rcases h.scored s c with ⟨hx, hy⟩ | ⟨p, q, hx, hy, hc, hb⟩
  · simp only [Baselines.compare, hx, hy]
    exact ⟨congrArg (noComparison agent _ ·) (congrArg (·.drift) h.baseline_eq), h⟩
  · simp only [Baselines.compare, hx, hy]
    exact ⟨hc, alike_insert hb⟩

theorem Alike.observe (h : Alike agent bs bs') (s : BaselineSettings F) (now now' : Instant)
    (c : Conduct F) (mayLearn : Bool) :
    (bs.observe s now agent c mayLearn).1.undated =
        (bs'.observe s now' agent c mayLearn).1.undated ∧
      Alike agent (bs.observe s now agent c mayLearn).2
        (bs'.observe s now' agent c mayLearn).2 := by
  rcases h.scored s c with ⟨hx, hy⟩ | ⟨p, q, hx, hy, hc, hb⟩
  · simp only [Baselines.observe, hx, hy]
    cases mayLearn with
    | true =>
        have hrecord := h.record s now now' c
        exact ⟨congrArg Observation.learned hrecord.1, hrecord.2⟩
    | false => exact ⟨rfl, h⟩
  · simp only [Baselines.observe, hx, hy]
    exact ⟨congrArg Observation.compared hc, alike_insert hb⟩

theorem Alike.recalibrate (h : Alike agent bs bs') (now now' : Instant) :
    Alike agent (bs.recalibrate now agent).2 (bs'.recalibrate now' agent).2 := by
  have hknown : (bs.get? agent).map Baseline.undated = (bs'.get? agent).map Baseline.undated := h
  unfold Baselines.recalibrate
  generalize bs.get? agent = x at hknown ⊢
  generalize bs'.get? agent = y at hknown ⊢
  cases x with
  | none =>
      cases y with
      | none => exact h
      | some b' => cases hknown
  | some b =>
      cases y with
      | none => cases hknown
      | some b' =>
          exact alike_insert (congrArg (·.recalibrated .epoch) (Option.some.inj hknown) :)

end Baselines

/-! ## Standings and results without dates -/

namespace Profile

def undated (p : Profile F) : Profile F :=
  ⟨p.breaker.map .undated, p.baseline.map .undated⟩

end Profile

/-- The same is known of an agent, but for dates. -/
def Standing.Alike (agent : String) (s s' : Standing F) : Prop :=
  (s.profile agent).undated = (s'.profile agent).undated

/-- The results are the same but for dates, and so is what is known of the agent. -/
structure Effect.Alike {α : Type} (agent : String) (undated : α → α) (r r' : Effect F α) :
    Prop where
  result : undated r.result = undated r'.result
  standing : r.standing.Alike agent r'.standing

def OperationReport.undated (r : OperationReport F) : OperationReport F :=
  { r with comparison := r.comparison.map .undated }

/-- The decision without its date and its id. -/
def Decision.undated (d : Decision F) : Decision F :=
  { d with auditId := .zero, decidedAt := .epoch }

/-- The reply without its dates, to a call that bears on an agent. -/
def Reply.undated : Reply F → Reply F
  | .comparison c => .comparison (c.map .undated)
  | .operation r => .operation r.undated
  | r => r

namespace Standing.Alike

variable {agent : String} {s s' : Standing F}

theorem breaker (h : s.Alike agent s') :
    (s.breakers.get? agent).map Breaker.undated = (s'.breakers.get? agent).map Breaker.undated :=
  congrArg Profile.breaker h

theorem baselines (h : s.Alike agent s') : s.baselines.Alike agent s'.baselines :=
  congrArg Profile.baseline h

theorem isAllowed_eq (h : s.Alike agent s') :
    Engine.isAllowed s agent = Engine.isAllowed s' agent := by
  have hopen (known : Option (Breaker F)) :
      Breakers.isOpenIn known = Breakers.isOpenIn (known.map Breaker.undated) := by
    cases known <;> rfl
  exact congrArg (!·) ((hopen _).trans ((congrArg _ h.breaker).trans (hopen _).symm))

theorem failures_eq (h : s.Alike agent s') :
    s.breakers.failures agent = s'.breakers.failures agent := by
  have hcount (known : Option (Breaker F)) :
      Breakers.failuresIn known = Breakers.failuresIn (known.map Breaker.undated) := by
    cases known <;> rfl
  exact (hcount _).trans ((congrArg _ h.breaker).trans (hcount _).symm)

end Standing.Alike

/-! ## One call -/

namespace Engine

variable [Scalar F] {agent : String} {s s' : Standing F}

theorem alike_circuitEvent (h : s.Alike agent s') (e : Engine F) (now now' : Instant)
    (event : Breakers.Event F) :
    Effect.Alike agent id (e.circuitEvent now agent event s)
      (e.circuitEvent now' agent event s') := by
  have happly := (Breakers.undated_apply e.settings.breaker now agent _ event).trans
    ((congrArg (event.apply _ _ _) h.breaker).trans
      (Breakers.undated_apply e.settings.breaker now' agent _ event).symm)
  constructor
  · exact (Breakers.handle_fst ..).trans
      ((congrArg Prod.fst happly).trans (Breakers.handle_fst ..).symm)
  · have hself (now : Instant) (s : Standing F) :
        (e.circuitEvent now agent event s).standing.breakers.get? agent = _ :=
      Breakers.get?_handle_self ..
    refine (Profile.mk.injEq ..).mpr ⟨?_, h.baselines⟩
    rw [Standing.profile, Standing.profile, hself, hself]
    exact congrArg Prod.snd happly

omit [Scalar F] in
/-- A standing with other baselines, of which one agent's are the same but for dates. -/
theorem alike_withBaselines (h : s.Alike agent s') {bs bs' : Baselines F}
    (hbs : bs.Alike agent bs') :
    Standing.Alike agent { s with baselines := bs } { s' with baselines := bs' } :=
  (Profile.mk.injEq ..).mpr ⟨h.breaker, hbs⟩

theorem alike_recordBaseline (h : s.Alike agent s') (e : Engine F) (now now' : Instant)
    (raw interpretation : String) (behaviors : List String) :
    Effect.Alike agent id (e.recordBaseline now agent raw interpretation behaviors s)
      (e.recordBaseline now' agent raw interpretation behaviors s') := by
  unfold recordBaseline
  split
  next => exact ⟨rfl, h⟩
  next f hread =>
    have hrecord := h.baselines.record e.settings.baseline now now' ⟨f, interpretation, behaviors⟩
    exact ⟨congrArg some hrecord.1, alike_withBaselines h hrecord.2⟩

theorem alike_compare (h : s.Alike agent s') (e : Engine F) (raw interpretation : String)
    (behaviors : List String) :
    Effect.Alike agent (·.map Comparison.undated) (e.compare agent raw interpretation behaviors s)
      (e.compare agent raw interpretation behaviors s') := by
  unfold compare
  split
  next => exact ⟨rfl, h⟩
  next f hread =>
    have hcompare := h.baselines.compare e.settings.baseline ⟨f, interpretation, behaviors⟩
    exact ⟨congrArg some hcompare.1, alike_withBaselines h hcompare.2⟩

theorem alike_recalibrate (h : s.Alike agent s') (e : Engine F) (now now' : Instant) :
    Effect.Alike agent id (e.recalibrate now agent s) (e.recalibrate now' agent s') :=
  have hforgot := alike_withBaselines h (h.baselines.recalibrate now now')
  have hevent := alike_circuitEvent hforgot e now now' (.close "recalibrated")
  ⟨hevent.result, hevent.standing⟩

omit [Scalar F] in
theorem plainReport_eq (h : s.Alike agent s') (success : Bool) :
    plainReport agent success s = plainReport agent success s' := by
  rw [plainReport, plainReport, h.isAllowed_eq]

theorem alike_recordDrift (h : s.Alike agent s') (e : Engine F) (now now' : Instant) (score : F)
    (reason : String) :
    Effect.Alike agent id (e.recordDrift now agent score reason s)
      (e.recordDrift now' agent score reason s') :=
  have hevent := alike_circuitEvent h e now now' (.drift score reason)
  ⟨hevent.result, hevent.standing⟩

theorem alike_observed (h : s.Alike agent s') (e : Engine F) (now now' : Instant) (label : String)
    (f : Frame F) {o o' : Observation F} (ho : o.undated = o'.undated) :
    Effect.Alike agent OperationReport.undated (e.observed now agent label f s o)
      (e.observed now' agent label f s' o') := by
  cases o with
  | learned n =>
      cases o' with
      | learned n' =>
          refine ⟨?_, h⟩
          simp only [observed, plainReport_eq h]
      | compared | unknown => cases ho
  | unknown =>
      cases o' with
      | unknown => exact ⟨congrArg OperationReport.undated (plainReport_eq h true), h⟩
      | compared | learned => cases ho
  | compared c =>
      cases o' with
      | learned | unknown => cases ho
      | compared c' =>
          have hc : c.undated = c'.undated := Observation.compared.inj ho
          have hscore : c.score = c'.score := congrArg (·.score) hc
          simp only [observed, ← hscore]
          split
          next =>
            have hdrift := alike_recordDrift h e now now' c.score
              ("operation " ++ label ++ " drifted on " ++ f.raw)
            refine ⟨?_, hdrift.standing⟩
            have hresult := hdrift.result
            rw [id, id] at hresult
            simp only [OperationReport.undated, Option.map_some, hc, hresult,
              plainReport_eq hdrift.standing]
          next =>
            refine ⟨?_, h⟩
            simp only [OperationReport.undated, Option.map_some, hc, plainReport_eq h]

theorem alike_recordOperation (h : s.Alike agent s') (e : Engine F) (now now' : Instant)
    (raw label : String) (success : Bool) :
    Effect.Alike agent OperationReport.undated (e.recordOperation now agent raw label success s)
      (e.recordOperation now' agent raw label success s') := by
  cases success with
  | false =>
      have hevent := alike_circuitEvent h e now now' (.failure ("operation failed: " ++ label))
      have hresult := hevent.result
      rw [id, id] at hresult
      refine ⟨?_, hevent.standing⟩
      simp only [recordOperation, recordFailure, Bool.not_false, if_true, OperationReport.undated,
        hresult, plainReport_eq hevent.standing]
  | true =>
      have hevent := alike_circuitEvent h e now now' .success
      unfold recordOperation
      simp only [Bool.not_true, Bool.false_eq_true, if_false]
      cases e.parse? raw with
      | none =>
          have hreport := plainReport_eq hevent.standing true
          exact ⟨congrArg OperationReport.undated hreport, hevent.standing⟩
      | some f =>
          -- The verdict on a frame does not depend on when it is given.
          have hvalid : (e.validate now' raw none).valid = (e.validate now raw none).valid := rfl
          simp only [hvalid, ← hevent.standing.isAllowed_eq]
          have hobserve := hevent.standing.baselines.observe e.settings.baseline now now'
            ⟨f, f.describe, [label]⟩
          exact alike_observed (alike_withBaselines hevent.standing (hobserve _).2) e now now'
            label f (hobserve _).1

/-- A call that bears on an agent does the same wherever the same is known of the agent. -/
theorem alike_perform (h : s.Alike agent s') (e : Engine F) (stamp stamp' : Stamp) {c : Call F}
    (hc : c.subject? = some agent) :
    Effect.Alike agent Reply.undated (e.perform stamp s c) (e.perform stamp' s' c) := by
  have hmap {α : Type} {undated : α → α} {r r' : Effect F α} (hr : Effect.Alike agent undated r r')
      {f : α → Reply F} (hf : ∀ a, (f a).undated = f (undated a)) :
      Effect.Alike agent Reply.undated (r.map f) (r'.map f) :=
    ⟨(hf _).trans ((congrArg f hr.result).trans (hf _).symm), hr.standing⟩
  cases c with
  | recordBaseline own raw interpretation behaviors =>
      obtain rfl : own = agent := Option.some.inj hc
      exact hmap (alike_recordBaseline h e _ _ raw interpretation behaviors) fun _ => rfl
  | compare own raw interpretation behaviors =>
      obtain rfl : own = agent := Option.some.inj hc
      exact hmap (alike_compare h e raw interpretation behaviors) fun _ => rfl
  | operation own raw label success =>
      obtain rfl : own = agent := Option.some.inj hc
      exact hmap (alike_recordOperation h e _ _ raw label success) fun _ => rfl
  | failure own reason =>
      obtain rfl : own = agent := Option.some.inj hc
      exact hmap (alike_circuitEvent h e _ _ (.failure reason)) fun _ => rfl
  | drift own score reason =>
      obtain rfl : own = agent := Option.some.inj hc
      exact hmap (alike_recordDrift h e _ _ score reason) fun _ => rfl
  | halt own reason =>
      obtain rfl : own = agent := Option.some.inj hc
      have hevent := alike_circuitEvent h e stamp.now stamp'.now (.halt reason)
      exact ⟨congrArg Reply.transition hevent.result, hevent.standing⟩
  | resume own =>
      obtain rfl : own = agent := Option.some.inj hc
      exact hmap (alike_circuitEvent h e _ _ (.close "operator resume")) fun _ => rfl
  | recalibrate own =>
      obtain rfl : own = agent := Option.some.inj hc
      exact hmap (alike_recalibrate h e _ _) fun _ => rfl
  | floor | gate | tripwires => cases hc

/-! ## Gates -/

omit [Scalar F] in
theorem signals_eq (h : s.Alike agent s') {r : GateRequest F} (hr : r.agent = some agent) :
    signals s r = signals s' r := by
  rw [signals, signals, hr, Option.map_some, Option.map_some, h.failures_eq]

theorem undated_decide (m : Modulation F) (stamp stamp' : Stamp) (observed : F) (v : FloorVerdict) :
    (Decision.decide m stamp observed v).undated =
      (Decision.decide m stamp' observed v).undated := by
  unfold Decision.decide
  cases v.violation with
  | some w => rfl
  | none =>
      simp only [Decision.byFloor, Decision.byThreshold]
      split
      next => split <;> rfl
      next => rfl

/-- A request for an agent is decided the same wherever the same is known of the agent. -/
theorem undated_evaluateGate (h : s.Alike agent s') (e : Engine F) (stamp stamp' : Stamp)
    {r : GateRequest F} (hr : r.agent = some agent) :
    (e.evaluateGate stamp r s).result.undated = (e.evaluateGate stamp' r s').result.undated := by
  simp only [evaluateGate, checkFloor, signals_eq h hr, decision, hr, Option.any_some,
    h.isAllowed_eq]
  split
  next => rfl
  next => exact undated_decide ..

/-! ## Runs -/

/-- What the calls that bear on an agent are answered in a run. -/
def repliesTo (e : Engine F) (agent : String) : Standing F → List (Stamp × Call F) → List (Reply F)
  | _, [] => []
  | s, c :: cs =>
    let r := e.perform c.1 s c.2
    if c.2.subject? = some agent then r.result :: e.repliesTo agent r.standing cs
    else e.repliesTo agent r.standing cs

/-- The calls that bear on an agent. -/
def callsOf (agent : String) (calls : List (Call F)) : List (Call F) :=
  calls.filter fun c => c.subject? = some agent

theorem alike_run (h : s.Alike agent s') (e : Engine F) {calls own : List (Stamp × Call F)}
    (hown : own.map (·.2) = callsOf agent (calls.map (·.2))) :
    (e.run s calls).Alike agent (e.run s' own) ∧
      (e.repliesTo agent s calls).map Reply.undated =
        (e.repliesTo agent s' own).map Reply.undated := by
  induction calls generalizing s s' own with
  | nil =>
      obtain rfl := List.map_eq_nil_iff.1 hown
      exact ⟨h, rfl⟩
  | cons c cs ih =>
      by_cases hc : c.2.subject? = some agent
      · rw [List.map_cons, callsOf, List.filter_cons_of_pos (by simpa using hc)] at hown
        obtain ⟨d, ds, rfl, hd, hds⟩ := List.map_eq_cons_iff.1 hown
        have hcall : Effect.Alike agent Reply.undated (e.perform c.1 s c.2)
            (e.perform d.1 s' d.2) := by
          rw [hd]
          exact alike_perform h e c.1 d.1 hc
        obtain ⟨hrun, hreplies⟩ := ih hcall.standing hds
        refine ⟨hrun, ?_⟩
        rw [repliesTo, repliesTo, if_pos hc, if_pos (hd ▸ hc), List.map_cons, List.map_cons,
          hcall.result, hreplies]
      · rw [List.map_cons, callsOf, List.filter_cons_of_neg (by simpa using hc)] at hown
        have hkept : (e.perform c.1 s c.2).standing.Alike agent s' :=
          (congrArg Profile.undated (e.profile_perform_of_ne c.1 s hc)).trans h
        obtain ⟨hrun, hreplies⟩ := ih hkept hown
        refine ⟨hrun, ?_⟩
        rw [repliesTo, if_neg hc]
        exact hreplies

/-- A run and the calls of it that bear on one agent, made at whatever moments, leave the same known
of that agent, are answered the same, and let the same requests of it pass. So neither the calls of
other agents nor gates, tripwires and the floor have a part in it; questions leave the standing as
it is and are no calls. -/
theorem isolation (e : Engine F) (agent : String) (calls own : List (Stamp × Call F))
    (hown : own.map (·.2) = callsOf agent (calls.map (·.2))) :
    ((e.run .blank calls).profile agent).undated = ((e.run .blank own).profile agent).undated ∧
    (e.repliesTo agent .blank calls).map Reply.undated =
      (e.repliesTo agent .blank own).map Reply.undated ∧
    ∀ (stamp stamp' : Stamp) (r : GateRequest F), r.agent = some agent →
      (e.evaluateGate stamp r (e.run .blank calls)).result.undated =
        (e.evaluateGate stamp' r (e.run .blank own)).result.undated := by
  have hblank : Standing.Alike agent (.blank : Standing F) .blank := rfl
  obtain ⟨hrun, hreplies⟩ := alike_run hblank e hown
  exact ⟨hrun, hreplies, fun stamp stamp' _ hr => undated_evaluateGate hrun e stamp stamp' hr⟩

/-- A halted agent stands as if it were alone, whatever befalls another agent and whatever the
probes of its own interpreter bring. -/
theorem isolation_halted_among_others :
    let stamp : Stamp := ⟨.epoch, .zero⟩
    let request : GateRequest Float := harmlessRequest 0.01 0.0
    let calls : List (Stamp × Call Float) :=
      [(stamp, .failure "a2" "timeout"), (stamp, .halt "a1" "manual"),
        (stamp, .tripwires "a1" (fun _ => none) fun _ => ⟨0, 0, 0⟩), (stamp, .drift "a2" 0.9 "off")]
    let own : List (Stamp × Call Float) := [(⟨.epoch, ⟨.replicate 16 1, rfl⟩⟩, .halt "a1" "manual")]
    own.map (·.2) = callsOf "a1" (calls.map (·.2)) ∧
      ((standard.run .blank calls).profile "a1").undated =
        ((standard.run .blank own).profile "a1").undated ∧
      (standard.evaluateGate stamp request (standard.run .blank calls)).result.undated =
        (standard.evaluateGate stamp request (standard.run .blank own)).result.undated := by
  intro stamp request calls own
  have kept : own.map (·.2) = callsOf "a1" (calls.map (·.2)) := by
    simp [calls, own, callsOf, Call.subject?]
  obtain ⟨known, _, decided⟩ := isolation standard "a1" calls own kept
  exact ⟨kept, known, decided stamp stamp _ rfl⟩

end Engine
end Mandate
