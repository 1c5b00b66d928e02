import Mandate.Proofs.Breaker.Coherence
import Mandate.Proofs.Frame.Matched
import Mandate.Proofs.Standing.Replay

/-!
# What the report of an operation tells

An operation that fails is one event for the circuit of its agent; one that succeeds is a success,
which a drift may follow. What one event does to the circuit and to what is kept beside it
(`atMostOpens_circuitEvent`, `memory_circuitEvent`) is carried along the courses that an operation
can take. The main statement, `coherent_recordOperation`, says that the report agrees with what has
changed.
-/

namespace Mandate

variable {F : Type}

namespace Engine

open Breakers (IsLabelled Turn statusIn isOpenIn memoryIn)

/-! ## The circuit -/

/-- Whether an agent may act before and after, told by a transition: there is one exactly if that
changed, and then it opens the circuit of the agent, which could act before. -/
structure AtMostOpens (agent : String) (before after : Bool) (t : Option Transition) : Prop where
  isSome_iff : t.isSome = true ↔ after ≠ before
  opening : ∀ u, t = some u → u.agent = agent ∧ u.source = .closed ∧ u.target = .opened
  lasting : before = false → after = false

theorem atMostOpens_none (agent : String) (allowed : Bool) :
    AtMostOpens agent allowed allowed none :=
  ⟨by simp, nofun, id⟩

variable [Scalar F] {agent : String} {s : Standing F}

theorem atMostOpens_of_turn {now : Instant} {n : Nat} {event : Breakers.Event F}
    {known known' : Option (Breaker F)} {t : Option Transition}
    (turn : Turn agent now n event (statusIn known) t (statusIn known'))
    (goesOn : event.lifts = false) : AtMostOpens agent (!isOpenIn known) (!isOpenIn known') t := by
  have hopen : isOpenIn known = true ↔ (statusIn known).circuit = .opened := by
    rw [Breakers.isOpenIn_eq_true_iff, Breakers.circuit_statusIn]
  have hopen' : isOpenIn known' = true ↔ (statusIn known').circuit = .opened := by
    rw [Breakers.isOpenIn_eq_true_iff, Breakers.circuit_statusIn]
  generalize statusIn known = σ at turn hopen
  generalize statusIn known' = σ' at turn hopen'
  cases turn with
  | keeps =>
      rw [Bool.eq_iff_iff.2 (hopen'.trans hopen.symm)]
      exact atMostOpens_none ..
  | opens closed given =>
      have hclosed : isOpenIn known = false := by
        rw [← Bool.not_eq_true, hopen, closed]
        nofun
      rw [hclosed, hopen'.2 rfl]
      exact ⟨by simp, by rintro _ ⟨⟩; exact ⟨rfl, rfl, rfl⟩, nofun⟩
  | closes _ given =>
      subst given
      cases goesOn
  | clears _ given =>
      subst given
      cases goesOn

theorem atMostOpens_circuitEvent (h : IsLabelled agent (s.breakers.get? agent)) (e : Engine F)
    (now : Instant) (event : Breakers.Event F) (goesOn : event.lifts = false) :
    let r := e.circuitEvent now agent event s
    AtMostOpens agent (isAllowed s agent) (isAllowed r.standing agent) r.result := by
  have he : event ≠ .reset := by
    rintro rfl
    cases goesOn
  have hturn := (Breakers.turnsIn_apply e.settings.breaker now h he).turn
  rw [← Breakers.handle_fst, ← Breakers.get?_handle_self] at hturn
  exact atMostOpens_of_turn hturn goesOn

theorem isLabelled_succeeded (h : IsLabelled agent (s.breakers.get? agent)) (e : Engine F)
    (now : Instant) : IsLabelled agent ((e.succeeded now agent s).breakers.get? agent) := by
  have hlabelled := (Breakers.turnsIn_apply e.settings.breaker now h (e := .success) nofun).labelled
  rwa [← Breakers.get?_handle_self] at hlabelled

/-- The report tells whether the agent may act, and of the circuit it tells what became of it. -/
theorem circuit_recordOperation (h : IsLabelled agent (s.breakers.get? agent)) (e : Engine F)
    (now : Instant) (raw label : String) (success : Bool) :
    let r := e.recordOperation now agent raw label success s
    r.result.allowed = isAllowed r.standing agent ∧
      AtMostOpens agent (isAllowed s agent) (isAllowed r.standing agent) r.result.transition := by
  have hcourse := e.course_recordOperation now agent raw label success s
  have hallowed := e.isAllowed_succeeded now agent s
  have hlabelled := isLabelled_succeeded h e now
  generalize e.recordOperation now agent raw label success s = r at hcourse ⊢
  dsimp only
  -- The success alone leaves the circuit as it is; of what follows it only a drift can open it.
  have hquiet {s' : Standing F} (hs' : s'.breakers = (e.succeeded now agent s).breakers) :
      AtMostOpens agent (isAllowed s agent) (isAllowed s' agent) none := by
    have hsame : isAllowed s' agent = isAllowed s agent :=
      (congrArg (Breakers.isAllowed · agent) hs').trans hallowed
    rw [hsame]
    exact atMostOpens_none ..
  cases hcourse with
  | failed counted =>
      subst counted
      exact ⟨rfl, atMostOpens_circuitEvent h e now (.failure _) rfl⟩
  | unreadable counted | learned _ _ _ _ counted | agreed _ _ _ counted | unknown _ _ _ counted =>
      subst counted
      exact ⟨rfl, hquiet rfl⟩
  | drifted _ _ _ counted reported =>
      subst reported counted
      refine ⟨rfl, ?_⟩
      rw [← hallowed]
      exact atMostOpens_circuitEvent hlabelled e now (.drift _ _) rfl

/-! ## What is kept beside the circuit -/

theorem memory_circuitEvent (e : Engine F) (now : Instant) (agent : String)
    (event : Breakers.Event F) (s : Standing F) :
    memoryIn ((e.circuitEvent now agent event s).standing.breakers.get? agent) =
      event.note e.settings.breaker now (isOpenIn (s.breakers.get? agent))
        (memoryIn (s.breakers.get? agent)) :=
  (congrArg memoryIn (Breakers.get?_handle_self ..)).trans (Breakers.memoryIn_apply ..)

/-- The alert that a comparison gives rise to, which only a drift above zero does. -/
def alert? (e : Engine F) (now : Instant) (raw label : String) (c : Comparison F) :
    Option (DriftAlert F) :=
  if 0.0 < c.score then
    some ⟨c.score, "operation " ++ label ++ " drifted on " ++ raw,
      Scalar.exceeds c.score e.settings.breaker.criticalDrift, now⟩
  else none

/-- After a success is counted a row of failures is over if the circuit is closed. -/
theorem memory_succeeded (e : Engine F) (now : Instant) (agent : String) (s : Standing F) :
    let m := memoryIn (s.breakers.get? agent)
    memoryIn ((e.succeeded now agent s).breakers.get? agent) =
      { m with consecutiveFailures := if isAllowed s agent then 0 else m.consecutiveFailures } := by
  have hallowed : isAllowed s agent = !isOpenIn (s.breakers.get? agent) := rfl
  refine (e.memory_circuitEvent now agent .success s).trans ?_
  rw [hallowed]
  cases isOpenIn (s.breakers.get? agent) <;> rfl

/-- A success ends a row of failures while the circuit is closed, and an alert is kept of the drift
that it shows; nothing else is changed. -/
theorem memory_recordOperation (e : Engine F) (now : Instant) (agent raw label : String)
    (s : Standing F) :
    let r := e.recordOperation now agent raw label true s
    let m := memoryIn (s.breakers.get? agent)
    memoryIn (r.standing.breakers.get? agent) =
      { m with
        consecutiveFailures := if isAllowed s agent then 0 else m.consecutiveFailures
        alerts := (r.result.comparison.bind (e.alert? now raw label)).elim m.alerts
          (remember e.settings.breaker.maxAlerts m.alerts) } := by
  have hcourse := e.course_recordOperation now agent raw label true s
  have hcounted := e.memory_succeeded now agent s
  generalize e.recordOperation now agent raw label true s = r at hcourse ⊢
  dsimp only at hcounted ⊢
  cases hcourse with
  | unreadable counted | learned _ _ _ _ counted | unknown _ _ _ counted =>
      subst counted
      exact hcounted
  | agreed _ _ low counted =>
      subst counted
      simp only [Option.bind_some, alert?, if_neg low, Option.elim_none]
      exact hcounted
  | @drifted s' f _ _ _ read _ high counted reported =>
      have hraw : f.raw = raw := Frame.raw_of_parse? read
      have hcounted' : memoryIn (s'.breakers.get? agent) = _ :=
        (congrArg (fun s => memoryIn (s.breakers.get? agent)) counted).trans hcounted
      rw [reported, hraw]
      refine (e.memory_circuitEvent now agent (.drift _ _) s').trans ?_
      simp only [Option.bind_some, alert?, if_pos high, Option.elim_some, hcounted',
        Breakers.Event.note]

/-! ## What was learnt -/

/-- No operation is both learnt from and compared, and one that fails or whose frame has no matched
symbol is neither. -/
theorem exclusive_recordOperation (e : Engine F) (now : Instant) (agent raw label : String)
    (success : Bool) (s : Standing F) :
    let r := (e.recordOperation now agent raw label success s).result
    (r.baselineRecorded = true → r.comparison = none) ∧
      (success = false ∨ e.ontology.matched raw = [] →
        r.baselineRecorded = false ∧ r.comparison = none) := by
  have hcourse := e.course_recordOperation now agent raw label success s
  have hunread (h : e.ontology.matched raw = []) : e.parse? raw = none :=
    Frame.parse?_eq_none_iff.2 h
  generalize e.recordOperation now agent raw label success s = r at hcourse ⊢
  dsimp only
  cases hcourse with
  | failed | unreadable | unknown => exact ⟨nofun, fun _ => ⟨rfl, rfl⟩⟩
  | learned read =>
      refine ⟨fun _ => rfl, ?_⟩
      rintro (h | h)
      · cases h
      · cases read.symm.trans (hunread h)
  | agreed read | drifted read =>
      refine ⟨nofun, ?_⟩
      rintro (h | h)
      · cases h
      · cases read.symm.trans (hunread h)

/-- The report says whether a baseline was made for the agent. -/
theorem baselineRecorded_recordOperation (e : Engine F) (stamp : Stamp) (agent raw label : String)
    (success : Bool) (s : Standing F) :
    (e.recordOperation stamp.now agent raw label success s).result.baselineRecorded =
      (e.made? s agent (stamp, .operation agent raw label success)).isSome := by
  have hcourse := e.course_recordOperation stamp.now agent raw label success s
  generalize e.recordOperation stamp.now agent raw label success s = r at hcourse ⊢
  cases hcourse with
  | failed => rfl
  | unreadable _ unread =>
      rw [made?_operation_of_unreadable agent unread]
      rfl
  | learned read new permitted =>
      rw [made?_operation_eq_some_iff.2 ⟨rfl, _, read, permitted, new, rfl⟩]
      rfl
  | agreed read scored | drifted read scored =>
      rw [made?_operation_of_scored agent read scored]
      rfl
  | unknown _ _ barred =>
      rw [made?_operation_of_not_mayLearn agent (Or.inr barred)]
      rfl

/-! ## The whole report -/

/-- What an operation made of the standing of the agents, `s` before it, is what its report says. -/
structure IsCoherent (e : Engine F) (stamp : Stamp) (agent raw label : String) (success : Bool)
    (s : Standing F) (r : Effect F (OperationReport F)) : Prop where
  allowed : r.result.allowed = isAllowed r.standing agent
  circuit : AtMostOpens agent (isAllowed s agent) (isAllowed r.standing agent) r.result.transition
  exclusive : r.result.baselineRecorded = true → r.result.comparison = none
  unobserved : success = false ∨ e.ontology.matched raw = [] →
    r.result.baselineRecorded = false ∧ r.result.comparison = none
  others : ∀ other, other ≠ agent → r.standing.profile other = s.profile other
  failed : success = false → r.standing.baselines = s.baselines
  counted : success = true →
    let m := (s.breakers.breaker agent stamp.now).memory
    (r.standing.breakers.breaker agent stamp.now).memory =
      { m with
        consecutiveFailures := if isAllowed s agent then 0 else m.consecutiveFailures
        alerts := (r.result.comparison.bind (e.alert? stamp.now raw label)).elim m.alerts
          (remember e.settings.breaker.maxAlerts m.alerts) }
  learned : r.result.baselineRecorded = true →
    ∃ made, e.Makes s agent (stamp, .operation agent raw label success) made ∧
      r.standing.baselines.records agent =
        remember e.settings.baseline.maxRecords (s.baselines.records agent) made
  unlearned : r.result.baselineRecorded = false →
    r.standing.baselines.records agent = s.baselines.records agent

theorem isCoherent_recordOperation (h : IsLabelled agent (s.breakers.get? agent)) (e : Engine F)
    (stamp : Stamp) (raw label : String) (success : Bool) :
    e.IsCoherent stamp agent raw label success s
      (e.recordOperation stamp.now agent raw label success s) := by
  obtain ⟨hallowed, hcircuit⟩ := circuit_recordOperation h e stamp.now raw label success
  obtain ⟨hexclusive, hunobserved⟩ :=
    e.exclusive_recordOperation stamp.now agent raw label success s
  have hmade := e.baselineRecorded_recordOperation stamp agent raw label success s
  have hrecords := e.records_recordOperation stamp s agent raw label success
  refine ⟨hallowed, hcircuit, hexclusive, hunobserved,
    fun other hne => profile_recordOperation_of_ne hne e stamp.now s raw label success, ?_, ?_, ?_,
    ?_⟩
  · rintro rfl
    rfl
  · rintro rfl
    simp only [Breakers.memory_breaker]
    exact e.memory_recordOperation stamp.now agent raw label s
  · intro hlearned
    obtain ⟨made, hsome⟩ := Option.isSome_iff_exists.1 (hmade.symm.trans hlearned)
    rw [hsome] at hrecords
    exact ⟨made, made?_eq_some_iff.1 hsome, hrecords⟩
  · intro hunlearned
    have hnone := Option.isSome_eq_false_iff.1 (hmade.symm.trans hunlearned)
    rwa [Option.isNone_iff_eq_none.1 hnone] at hrecords

/-- In every state that calls can lead to, the report of an operation agrees with what the operation
made of it. -/
theorem coherent_recordOperation (e : Engine F) (calls : List (Stamp × Call F)) (stamp : Stamp)
    (agent raw label : String) (success : Bool) :
    let s := e.run .blank calls
    e.IsCoherent stamp agent raw label success s
      (e.recordOperation stamp.now agent raw label success s) :=
  isCoherent_recordOperation ((replays_run e agent calls).labelled agent) e stamp raw label success

/-- The fifth failure in a row opens the circuit, and its report says so. -/
theorem coherent_recordOperation_fifth_failure :
    let failure : Stamp × Call Float := (⟨.epoch, .zero⟩, .operation "a1" "⊕◊▶β" "deploy" false)
    let s := standard.run .blank (List.replicate 4 failure)
    let r := standard.recordOperation .epoch "a1" "⊕◊▶β" "deploy" false s
    isAllowed s "a1" = true ∧ r.result.allowed = false ∧
      ∃ t, r.result.transition = some t ∧ t.agent = "a1" ∧ t.target = .opened := by
  intro failure s r
  have coherent : standard.IsCoherent ⟨.epoch, .zero⟩ "a1" "⊕◊▶β" "deploy" false s r :=
    coherent_recordOperation standard _ _ "a1" "⊕◊▶β" "deploy" false
  have before : isAllowed s "a1" = true := by decide +kernel
  have after : isAllowed r.standing "a1" = false := by decide +kernel
  have changed : isAllowed r.standing "a1" ≠ isAllowed s "a1" := by
    rw [before, after]
    nofun
  obtain ⟨t, ht⟩ := Option.isSome_iff_exists.1 (coherent.circuit.isSome_iff.2 changed)
  obtain ⟨hagent, _, htarget⟩ := coherent.circuit.opening t ht
  exact ⟨before, coherent.allowed.trans after, t, ht, hagent, htarget⟩

end Engine
end Mandate
