import Mathlib.Data.List.Chain
import Mandate.Proofs.Breaker.Transitions
import Mandate.Proofs.Standing.Learning

/-!
# The audit trail as an account of the agents

The trail of a run says when the circuit of an agent opened and closed, when a baseline was made for
it and what was decided at its gates. `Replays` is what a trail and the standing of the agents have
in common while calls are made; the main statement, `trail_replays`, reads the standing off the
trail.
-/

namespace Mandate

variable {F : Type}

/-! ## What a record says of an agent -/

/-- The state that the circuit of an agent changed to, if the record is about that. -/
def AuditRecord.switch? (agent : String) (r : AuditRecord F) : Option Circuit :=
  if r.agent = some agent then
    match r.event with
    | .circuitOpened => some .opened
    | .circuitClosed => some .closed
    | _ => none
  else none

/-- The states that the circuit of an agent changed to, in order. -/
def switches (agent : String) (rs : List (AuditRecord F)) : List Circuit :=
  rs.filterMap (·.switch? agent)

/-- The record is about a baseline that was made for an agent. -/
def AuditRecord.IsBaselineOf (agent : String) (r : AuditRecord F) : Prop :=
  r.event = .baselineRecorded ∧ r.agent = some agent

instance (agent : String) (r : AuditRecord F) : Decidable (r.IsBaselineOf agent) :=
  inferInstanceAs (Decidable (_ ∧ _))

/-- How many baselines were made for an agent. -/
def baselineCount (agent : String) (rs : List (AuditRecord F)) : Nat :=
  rs.countP (·.IsBaselineOf agent)

theorem switches_eq_nil {agent : String} {rs : List (AuditRecord F)}
    (h : ∀ r ∈ rs, r.event ≠ .circuitOpened ∧ r.event ≠ .circuitClosed) :
    switches agent rs = [] := by
  refine List.filterMap_eq_nil_iff.2 fun r hr => ?_
  obtain ⟨hopened, hclosed⟩ := h r hr
  unfold AuditRecord.switch?
  split
  next => split <;> first | contradiction | rfl
  next => rfl

theorem switches_singleton {agent : String} {r : AuditRecord F} (ho : r.event ≠ .circuitOpened)
    (hc : r.event ≠ .circuitClosed) : switches agent [r] = [] :=
  switches_eq_nil (List.forall_mem_singleton.2 ⟨ho, hc⟩)

namespace Standing

/-- The state of an agent's circuit. -/
def circuit (s : Standing F) (agent : String) : Circuit :=
  Breakers.circuitIn (s.breakers.get? agent)

/-- What is known of each agent is about that agent. -/
def IsLabelled (s : Standing F) : Prop :=
  ∀ agent, Breakers.IsLabelled agent (s.breakers.get? agent)

end Standing

namespace Engine

theorem isAllowed_eq_false_iff {s : Standing F} {agent : String} :
    isAllowed s agent = false ↔ s.circuit agent = .opened :=
  (Breakers.isAllowed_eq_false_iff ..).trans Breakers.isOpenIn_eq_true_iff

/-! ## Circuits -/

/-- The trail tells the state of an agent's circuit, which changed with each switch. -/
structure Replays (agent : String) (rs : List (AuditRecord F)) (s : Standing F) : Prop where
  labelled : s.IsLabelled
  alternate : (Circuit.closed :: switches agent rs).IsChain (· ≠ ·)
  last : (Circuit.closed :: switches agent rs).getLast? = some (s.circuit agent)

variable {agent : String} {rs xs : List (AuditRecord F)} {s s' : Standing F}

theorem replays_nil (agent : String) : Replays agent [] (.blank : Standing F) :=
  ⟨fun _ _ h => (nomatch h), .singleton _, rfl⟩

/-- More records that say what became of the circuit. -/
theorem Replays.append (h : Replays agent rs s) (labelled : s'.IsLabelled)
    (hx : switches agent xs =
      if s'.circuit agent = s.circuit agent then [] else [s'.circuit agent]) :
    Replays agent (rs ++ xs) s' := by
  have hs : switches agent (rs ++ xs) = switches agent rs ++ switches agent xs :=
    List.filterMap_append
  rw [hx] at hs
  split at hs
  next hsame =>
    rw [List.append_nil] at hs
    exact ⟨labelled, hs ▸ h.alternate, by rw [hs, hsame]; exact h.last⟩
  next hother =>
    refine ⟨labelled, ?_, by rw [hs, ← List.cons_append, List.getLast?_concat]⟩
    rw [hs, ← List.cons_append, List.isChain_append]
    refine ⟨h.alternate, .singleton _, fun c hc d hd => ?_⟩
    rw [h.last, Option.mem_some] at hc
    rw [List.head?_singleton, Option.mem_some] at hd
    exact hc ▸ hd ▸ Ne.symm hother

/-- Nothing happens to circuits and no record says so. -/
theorem Replays.quiet (h : Replays agent rs s) (hb : s'.breakers = s.breakers)
    (hx : switches agent xs = []) : Replays agent (rs ++ xs) s' := by
  refine h.append ?_ ?_
  · rw [Standing.IsLabelled, hb]
    exact h.labelled
  · rw [Standing.circuit, Standing.circuit, hb, if_pos rfl]
    exact hx

theorem Replays.withBaselines (h : Replays agent rs s) (bs : Baselines F) :
    Replays agent rs { s with baselines := bs } :=
  ⟨h.labelled, h.alternate, h.last⟩

/-- A record of a transition says of an agent what the transition does. -/
theorem switches_transitionRecord (agent : String) (now : Instant) (t : Option Transition) :
    switches agent (t.toList.map (transitionRecord (F := F) now)) =
      ((t.map fun t => (t.agent, t.target)).toList.filter (·.1 = agent)).map (·.2) := by
  cases t with
  | none => rfl
  | some t =>
      obtain ⟨own, _, target, _⟩ := t
      by_cases h : own = agent
      · cases target <;> simp [switches, AuditRecord.switch?, transitionRecord, h]
      · simp [switches, AuditRecord.switch?, transitionRecord, h]

variable [Scalar F]

theorem records_circuitEvent (e : Engine F) (now : Instant) (own : String)
    (event : Breakers.Event F) (s : Standing F) :
    (e.circuitEvent now own event s).records =
      (event.apply e.settings.breaker now own (s.breakers.get? own)).1.toList.map
        (transitionRecord now) := by
  rw [← Breakers.handle_fst]
  rfl

theorem Replays.circuitEvent (h : Replays agent rs s) (e : Engine F) (now : Instant) (own : String)
    (event : Breakers.Event F) (he : event ≠ .reset) :
    Replays agent (rs ++ (e.circuitEvent now own event s).records)
      (e.circuitEvent now own event s).standing := by
  have moves := Breakers.moves_apply e.settings.breaker now (h.labelled own) he
  have hself : (e.circuitEvent now own event s).standing.breakers.get? own = _ :=
    Breakers.get?_handle_self ..
  have hothers {other : String} (hne : other ≠ own) :
      (e.circuitEvent now own event s).standing.breakers.get? other = _ :=
    Breakers.get?_handle_of_ne e.settings.breaker now hne event s.breakers
  refine h.append (fun other => ?_) ?_
  · by_cases hne : other = own
    · subst hne
      exact hself ▸ moves.labelled
    · exact hothers hne ▸ h.labelled other
  · rw [records_circuitEvent, switches_transitionRecord, moves.reported]
    by_cases hne : agent = own
    · subst hne
      rw [Standing.circuit, Standing.circuit, hself]
      split <;> simp
    · rw [Standing.circuit, Standing.circuit, hothers hne, if_pos rfl]
      split <;> simp [Ne.symm hne]

/-- A success opens and closes no circuit. -/
theorem Replays.succeeded (h : Replays agent rs s) (e : Engine F) (now : Instant) (own : String) :
    Replays agent rs (e.succeeded now own s) := by
  have hnone : (e.circuitEvent now own .success s).records = [] := records_circuitEvent ..
  have hevent := h.circuitEvent e now own .success (by simp)
  rwa [hnone, List.append_nil] at hevent

theorem switches_driftRecords (agent : String) (now : Instant) (own : String) (score : F)
    (reason : String) : switches agent (driftRecords now own score reason) = [] :=
  switches_eq_nil fun x hx => by simp [(event_agent_of_mem_driftRecords hx).1]

theorem switches_checkFloor (e : Engine F) (agent : String) (now : Instant) (signals : Signals F)
    (s : Standing F) : switches agent (e.checkFloor now signals s).records = [] :=
  switches_eq_nil fun x hx => by simp [event_of_mem_checkFloor hx]

theorem Replays.recordDrift (h : Replays agent rs s) (e : Engine F) (now : Instant) (own : String)
    (score : F) (reason : String) :
    Replays agent (rs ++ (e.recordDrift now own score reason s).records)
      (e.recordDrift now own score reason s).standing := by
  have hreported : Replays agent (rs ++ driftRecords now own score reason) s :=
    h.quiet rfl (switches_driftRecords ..)
  have hevent := hreported.circuitEvent e now own (.drift score reason) (by simp)
  rwa [List.append_assoc] at hevent

theorem Replays.recordOperation (h : Replays agent rs s) (e : Engine F) (now : Instant)
    (own raw label : String) (success : Bool) :
    Replays agent (rs ++ (e.recordOperation now own raw label success s).records)
      (e.recordOperation now own raw label success s).standing := by
  have hsuccess := h.succeeded e now own
  have hcourse := e.course_recordOperation now own raw label success s
  generalize e.recordOperation now own raw label success s = r at hcourse ⊢
  cases hcourse with
  | failed counted =>
      subst counted
      exact h.circuitEvent e now own (.failure _) (by simp)
  | unreadable counted =>
      subst counted
      exact hsuccess.quiet rfl rfl
  | learned _ _ _ _ counted =>
      subst counted
      exact hsuccess.quiet rfl (switches_singleton (by simp) (by simp))
  | agreed _ _ _ counted =>
      subst counted
      exact hsuccess.quiet rfl rfl
  | drifted _ _ _ counted reported =>
      subst reported counted
      exact (hsuccess.withBaselines _).recordDrift e now own _ _
  | unknown _ _ _ counted =>
      subst counted
      exact hsuccess.quiet rfl rfl

/-- The trail goes on telling the state of an agent's circuit through every call. -/
theorem Replays.perform (h : Replays agent rs s) (e : Engine F) (stamp : Stamp) (c : Call F) :
    Replays agent (rs ++ (e.perform stamp s c).records) (e.perform stamp s c).standing := by
  cases c with
  | recordBaseline own raw interpretation behaviors =>
      simp only [Engine.perform, Effect.map, Engine.recordBaseline]
      split
      next => exact h.quiet rfl rfl
      next => exact h.quiet rfl (switches_singleton (by simp) (by simp))
  | compare own raw interpretation behaviors =>
      simp only [Engine.perform, Effect.map, Engine.compare]
      split <;> exact h.quiet rfl rfl
  | operation own raw label success => exact h.recordOperation e stamp.now own raw label success
  | failure own reason => exact h.circuitEvent e stamp.now own (.failure reason) (by simp)
  | drift own score reason => exact h.recordDrift e stamp.now own score reason
  | halt own reason =>
      have hhalted : Replays agent
          (rs ++ [⟨stamp.now, .agentHalted, some own, .record [("reason", .text reason)]⟩]) s :=
        h.quiet rfl (switches_singleton (by simp) (by simp))
      have hevent := hhalted.circuitEvent e stamp.now own (.halt reason) (by simp)
      rwa [List.append_assoc] at hevent
  | resume own => exact h.circuitEvent e stamp.now own (.close "operator resume") (by simp)
  | recalibrate own =>
      have hforgot : Replays agent
          (rs ++ [⟨stamp.now, .agentRecalibrated, some own, .record []⟩]) s :=
        h.quiet rfl (switches_singleton (by simp) (by simp))
      have hkept := hforgot.withBaselines (s.baselines.recalibrate stamp.now own).2
      have hevent := hkept.circuitEvent e stamp.now own (.close "recalibrated") (by simp)
      rwa [List.append_assoc] at hevent
  | floor signals =>
      exact h.quiet rfl (switches_checkFloor e agent stamp.now signals s)
  | gate request =>
      have hfloor : Replays agent
          (rs ++ (e.checkFloor stamp.now (signals s request) s).records) s :=
        h.quiet rfl (switches_checkFloor ..)
      have hdecided : Replays agent (rs ++ (e.checkFloor stamp.now (signals s request) s).records ++
          [⟨stamp.now, .gateDecision, request.agent,
            (e.evaluateGate stamp request s).result.toDatum⟩]) s :=
        hfloor.quiet rfl (switches_singleton (by simp) (by simp))
      rwa [List.append_assoc] at hdecided
  | tripwires own interpreter draws =>
      exact h.quiet rfl (switches_singleton (by simp) (by simp))

theorem replays_run (e : Engine F) (agent : String) (calls : List (Stamp × Call F)) :
    Replays agent (e.trail .blank calls) (e.run .blank calls) := by
  induction calls using List.reverseRecOn with
  | nil => exact replays_nil agent
  | append_singleton cs c ih =>
      rw [trail_concat, run_concat]
      exact ih.perform e c.1 c.2

omit [Scalar F] in
theorem Replays.circuit_eq_opened_iff (h : Replays agent rs s) :
    s.circuit agent = .opened ↔ (switches agent rs).getLast? = some .opened := by
  have hlast := h.last
  rw [List.getLast?_cons, Option.some.injEq] at hlast
  rw [← hlast]
  cases (switches agent rs).getLast? <;> simp

/-! ## Baselines -/

omit [Scalar F] in
theorem baselineCount_append (agent : String) (rs xs : List (AuditRecord F)) :
    baselineCount agent (rs ++ xs) = baselineCount agent rs + baselineCount agent xs :=
  List.countP_append

omit [Scalar F] in
theorem baselineCount_eq_zero {agent : String} {rs : List (AuditRecord F)}
    (h : ∀ r ∈ rs, r.event ≠ .baselineRecorded) : baselineCount agent rs = 0 :=
  List.countP_eq_zero.2 fun r hr => by simp [AuditRecord.IsBaselineOf, h r hr]

omit [Scalar F] in
theorem baselineCount_cons_of_ne {agent : String} {r : AuditRecord F}
    (h : r.event ≠ .baselineRecorded) (rs : List (AuditRecord F)) :
    baselineCount agent (r :: rs) = baselineCount agent rs := by
  simp [baselineCount, AuditRecord.IsBaselineOf, h]

omit [Scalar F] in
theorem baselineCount_baselineRecord (agent : String) (now : Instant) (own : String) (f : Frame F)
    (more : List (String × Datum F)) :
    baselineCount agent [baselineRecord now own f more] = if own = agent then 1 else 0 := by
  simp [baselineCount, AuditRecord.IsBaselineOf, baselineRecord, List.countP_singleton]

theorem baselineCount_circuitEvent (e : Engine F) (agent : String) (now : Instant) (own : String)
    (event : Breakers.Event F) (s : Standing F) :
    baselineCount agent (e.circuitEvent now own event s).records = 0 := by
  refine baselineCount_eq_zero fun x hx => ?_
  rcases event_of_mem_circuitEvent hx with hx | hx <;> simp [hx]

theorem baselineCount_recordDrift (e : Engine F) (agent : String) (now : Instant) (own : String)
    (score : F) (reason : String) (s : Standing F) :
    baselineCount agent (e.recordDrift now own score reason s).records = 0 := by
  have hdrift : baselineCount agent (driftRecords now own score reason) = 0 :=
    baselineCount_eq_zero fun x hx => by simp [(event_agent_of_mem_driftRecords hx).1]
  exact (baselineCount_append ..).trans
    (congrArg₂ (· + ·) hdrift (e.baselineCount_circuitEvent agent now own _ s))

theorem baselineCount_checkFloor (e : Engine F) (agent : String) (now : Instant)
    (signals : Signals F) (s : Standing F) :
    baselineCount agent (e.checkFloor now signals s).records = 0 :=
  baselineCount_eq_zero fun x hx => by simp [event_of_mem_checkFloor hx]

/-- A call leaves a record of the baseline that it makes, if it makes one. -/
theorem baselineCount_recordOperation (e : Engine F) (agent : String) (stamp : Stamp)
    (own raw label : String) (success : Bool) (s : Standing F) :
    baselineCount agent (e.recordOperation stamp.now own raw label success s).records =
      (e.made? s agent (stamp, .operation own raw label success)).toList.length := by
  have hcourse := e.course_recordOperation stamp.now own raw label success s
  generalize e.recordOperation stamp.now own raw label success s = r at hcourse ⊢
  cases hcourse with
  | failed counted =>
      subst counted
      exact e.baselineCount_circuitEvent agent stamp.now own (.failure _) s
  | unreadable counted unread =>
      rw [made?_operation_of_unreadable agent unread]
      rfl
  | learned read new permitted made counted =>
      rw [baselineCount_baselineRecord]
      by_cases h : own = agent
      · subst h
        rw [if_pos rfl, made?_operation_eq_some_iff.2 ⟨rfl, _, read, permitted, new, rfl⟩]
        rfl
      · have hnone : e.made? s agent (stamp, .operation own raw label true) = none :=
          made?_of_subject?_ne fun heq => h (Option.some.inj heq)
        rw [if_neg h, hnone]
        rfl
  | agreed read scored low counted =>
      rw [made?_operation_of_scored agent read scored]
      rfl
  | drifted read scored high counted reported =>
      subst reported
      rw [made?_operation_of_scored agent read scored]
      exact baselineCount_recordDrift ..
  | unknown read new barred counted =>
      rw [made?_operation_of_not_mayLearn agent (Or.inr barred)]
      rfl

theorem baselineCount_perform (e : Engine F) (agent : String) (s : Standing F)
    (c : Stamp × Call F) :
    baselineCount agent (e.perform c.1 s c.2).records = (e.made? s agent c).toList.length := by
  obtain ⟨stamp, call⟩ := c
  cases call with
  | recordBaseline own raw interpretation behaviors =>
      simp only [perform, Effect.map, recordBaseline, made?]
      by_cases h : own = agent
      · rw [if_pos h]
        cases e.parse? raw with
        | none => rfl
        | some f => exact (baselineCount_baselineRecord ..).trans (if_pos h)
      · rw [if_neg h]
        cases e.parse? raw with
        | none => rfl
        | some f => exact (baselineCount_baselineRecord ..).trans (if_neg h)
  | compare own raw interpretation behaviors =>
      simp only [perform, Effect.map, compare]
      split <;> rfl
  | operation own raw label success =>
      exact e.baselineCount_recordOperation agent stamp own raw label success s
  | failure own reason => exact e.baselineCount_circuitEvent agent stamp.now own (.failure reason) s
  | drift own score reason => exact e.baselineCount_recordDrift agent stamp.now own score reason s
  | halt own reason =>
      exact (baselineCount_cons_of_ne (by simp) _).trans
        (e.baselineCount_circuitEvent agent stamp.now own (.halt reason) s)
  | resume own =>
      exact e.baselineCount_circuitEvent agent stamp.now own (.close "operator resume") s
  | recalibrate own =>
      exact (baselineCount_cons_of_ne (by simp) _).trans
        (e.baselineCount_circuitEvent agent stamp.now own (.close "recalibrated") _)
  | floor signals => exact e.baselineCount_checkFloor agent stamp.now signals s
  | gate request =>
      exact (baselineCount_append ..).trans (congrArg₂ (· + ·)
        (e.baselineCount_checkFloor agent stamp.now _ s) (baselineCount_cons_of_ne (by simp) []))
  | tripwires own interpreter draws => exact baselineCount_cons_of_ne (by simp) []

theorem baselineCount_trail (e : Engine F) (agent : String) (calls : List (Stamp × Call F)) :
    baselineCount agent (e.trail .blank calls) = (e.made agent .blank calls).length := by
  induction calls using List.reverseRecOn with
  | nil => rfl
  | append_singleton cs c ih =>
      rw [trail_concat, made_concat, List.length_append, ← ih, ← baselineCount_perform]
      exact List.countP_append

/-! ## Gates -/

/-- The floor leaves one record exactly when the decision says that it is violated. -/
theorem records_checkFloor (e : Engine F) (stamp : Stamp) (r : GateRequest F) (s : Standing F) :
    ((e.checkFloor stamp.now (signals s r) s).records.map (·.event)) =
      if (e.evaluateGate stamp r s).result.floorTriggered then [.immutableViolation] else [] := by
  rcases Constraint.exists_isFirst_or_forall_not (e.Violates s r) with ⟨c, first⟩ | clear
  · obtain ⟨_, _, hv⟩ := verdict_of_isFirst first
    obtain ⟨_, _, triggered⟩ := decision_of_isFirst stamp first
    simp only [triggered, if_true, checkFloor, hv]
    rfl
  · have triggered : (e.evaluateGate stamp r s).result.floorTriggered = false := by
      by_cases stopped : IsStopped s r
      · exact (decision_of_isStopped stamp clear stopped).2.2
      · rw [decision_of_not_isStopped stamp clear stopped]
        exact (action_byThreshold ..).2.1
    simp only [triggered, checkFloor, verdict_of_isClear clear]
    rfl

/-- The trail of a run tells of each agent whether it may act and how many baselines were made for
it, of which the agent holds the newest. A decision at a gate adds its own record to the trail,
behind one of the violated floor if that is what it rests on. -/
theorem trail_replays (e : Engine F) (calls : List (Stamp × Call F)) (agent : String) :
    let trail := e.trail .blank calls
    let s := e.run .blank calls
    (Circuit.closed :: switches agent trail).IsChain (· ≠ ·) ∧
    (isAllowed s agent = false ↔ (switches agent trail).getLast? = some .opened) ∧
    (baselineCount agent trail = (e.made agent .blank calls).length ∧
      s.baselines.records agent =
        keepNewest e.settings.baseline.maxRecords (e.made agent .blank calls)) ∧
    ∀ stamp request, ∃ violations,
      let d := (e.evaluateGate stamp request s).result
      violations.map (·.event) = (if d.floorTriggered then [.immutableViolation] else []) ∧
      e.trail .blank (calls ++ [(stamp, .gate request)]) =
        trail ++ violations ++ [⟨stamp.now, .gateDecision, request.agent, d.toDatum⟩] := by
  intro trail s
  have replays := e.replays_run agent calls
  refine ⟨replays.alternate, ?_, ⟨e.baselineCount_trail agent calls, e.records_run agent calls⟩,
    fun stamp request => ?_⟩
  · exact isAllowed_eq_false_iff.trans replays.circuit_eq_opened_iff
  · refine ⟨_, e.records_checkFloor stamp request s, ?_⟩
    rw [trail_concat, List.append_assoc]
    rfl

end Engine
end Mandate
