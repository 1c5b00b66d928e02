import Mandate.Engine
import Mandate.Ontology.Standard
import Mandate.Proofs.Gate.Floor
import Mandate.Proofs.Scalar.Comparison

/-!
# What a gate rules

The rules of a gate, one constructor each: the first constraint of the floor that the request
violates decides, then an open circuit, then the side of the threshold that the observed value is
on. The main statement, `evaluateGate_iff_ruling`, says that the engine decides by these rules and
by no others.
-/

namespace Mandate

variable {F : Type}

/-- The request is for an agent whose circuit is open. -/
def Engine.IsStopped (s : Standing F) (r : GateRequest F) : Prop :=
  ∃ agent, r.agent = some agent ∧ isAllowed s agent = false

theorem Engine.isStopped_iff {s : Standing F} {r : GateRequest F} :
    IsStopped s r ↔ (r.agent.any fun a => !isAllowed s a) = true := by
  simp [IsStopped, Option.any_eq_true]

variable [Scalar F]

/-- The content of the request has something sensitive in it. -/
def GateRequest.HasSensitiveContent (r : GateRequest F) : Prop :=
  ∃ text, r.content = some text ∧ Sensitive.scan text ≠ []

/-- The value is on the allowed side of the threshold. -/
def Direction.Meets : Direction → F → F → Prop
  | .lowerIsStricter, value, threshold => value ≤ threshold
  | .higherIsStricter, value, threshold => threshold ≤ value

theorem Direction.Meets.isNaN_eq_false [Scalar.LawfulComparison F] {d : Direction}
    {value threshold : F} (h : d.Meets value threshold) : Scalar.isNaN value = false := by
  cases d with
  | lowerIsStricter => exact (Scalar.isNaN_eq_false_of_le h).1
  | higherIsStricter => exact (Scalar.isNaN_eq_false_of_le h).2

theorem Modulation.isViolatedBy_iff {m : Modulation F} {value : F} :
    m.isViolatedBy value = true ↔ ¬ m.direction.Meets value m.threshold := by
  unfold isViolatedBy Direction.Meets
  cases m.direction <;> simp

namespace Engine

/-! ## The rules -/

/-- The failures in a row of the agent that the request is for; there are none without an agent. -/
def failuresFor (s : Standing F) (r : GateRequest F) : Nat :=
  match r.agent with
  | some agent => s.breakers.failures agent
  | none => 0

/-- Whether a request violates a constraint of the floor. A number is too high unless it is known to
be low enough. -/
def Violates (e : Engine F) (s : Standing F) (r : GateRequest F) : Constraint → Prop
  | .forbiddenMode => r.mode = .forbidden
  | .sensitiveData => r.HasSensitiveContent
  | .conflictCoefficient => ¬ r.conflict ≤ e.settings.floor.conflictThreshold
  | .consecutiveFailures => e.settings.floor.failureFloor ≤ failuresFor s r
  | .uncertaintyCeiling => ¬ r.uncertainty.total ≤ e.settings.floor.uncertaintyCeiling

/-- The request violates no constraint of the floor. -/
def IsClear (e : Engine F) (s : Standing F) (r : GateRequest F) : Prop :=
  ∀ c, ¬ e.Violates s r c

/-- The observed value is on the allowed side of the threshold that the request is held to. -/
def IsWithin (e : Engine F) (r : GateRequest F) : Prop :=
  r.gate.direction.Meets r.observed (e.modulation r).threshold

/-- What a gate does with a request, and for which constraint of the floor. -/
inductive Ruling (e : Engine F) (s : Standing F) (r : GateRequest F) :
    GateAction → Option Constraint → Prop where
  | review {c : Constraint} (first : c.IsFirst (e.Violates s r))
      (kind : c = .sensitiveData ∨ c = .conflictCoefficient) : Ruling e s r .hold (some c)
  | refusal {c : Constraint} (first : c.IsFirst (e.Violates s r))
      (kind : c = .forbiddenMode ∨ c = .consecutiveFailures ∨ c = .uncertaintyCeiling) :
      Ruling e s r .block (some c)
  | stopped (clear : e.IsClear s r) (stopped : IsStopped s r) : Ruling e s r .block none
  | beyond (clear : e.IsClear s r) (free : ¬ IsStopped s r)
      (beyond : Scalar.isNaN r.observed = true ∨ ¬ e.IsWithin r) : Ruling e s r .hold none
  | within (clear : e.IsClear s r) (free : ¬ IsStopped s r) (within : e.IsWithin r) :
      Ruling e s r .allow none

/-! ## The decision in each case -/

variable {e : Engine F} {s : Standing F} {r : GateRequest F}

/-- The floor is shown the request itself and the failures of its agent. -/
theorem violates_signals (e : Engine F) (s : Standing F) (r : GateRequest F) :
    e.settings.floor.Violates (signals s r) = e.Violates s r := by
  funext c
  cases c with
  | consecutiveFailures =>
      unfold FloorSettings.Violates Violates failuresFor signals
      cases r.agent <;> rfl
  | forbiddenMode | sensitiveData | conflictCoefficient | uncertaintyCeiling => rfl

theorem verdict_of_isFirst {c : Constraint} (h : c.IsFirst (e.Violates s r)) :
    ∃ message hits, e.settings.floor.verdict (signals s r) = .violated c message hits :=
  FloorSettings.verdict_of_isFirst (e.violates_signals s r ▸ h)

theorem verdict_of_isClear (h : e.IsClear s r) :
    e.settings.floor.verdict (signals s r) = .pass := by
  refine FloorSettings.verdict_of_clear fun c => ?_
  rw [violates_signals]
  exact h c

theorem decision_of_isFirst {c : Constraint} (stamp : Stamp) (h : c.IsFirst (e.Violates s r)) :
    let d := (e.evaluateGate stamp r s).result
    d.action = .ofFloor c.action ∧ d.constraint = some c ∧ d.floorTriggered = true := by
  obtain ⟨message, hits, hv⟩ := verdict_of_isFirst h
  simp [evaluateGate, checkFloor, decision, hv, FloorVerdict.violated, Decision.decide,
    Decision.stop]

theorem decision_of_isStopped (stamp : Stamp) (h : e.IsClear s r) (hs : IsStopped s r) :
    let d := (e.evaluateGate stamp r s).result
    d.action = .block ∧ d.constraint = none ∧ d.floorTriggered = false := by
  simp [evaluateGate, checkFloor, verdict_of_isClear h, decision, FloorVerdict.pass,
    isStopped_iff.1 hs, Decision.stop]

theorem decision_of_not_isStopped (stamp : Stamp) (h : e.IsClear s r) (hs : ¬ IsStopped s r) :
    (e.evaluateGate stamp r s).result =
      .byThreshold (e.modulation r) stamp r.observed := by
  have hopen := Bool.eq_false_iff.2 (mt isStopped_iff.2 hs)
  simp [evaluateGate, checkFloor, verdict_of_isClear h, decision,
    FloorVerdict.pass, hopen, Decision.decide, Decision.byFloor]

theorem action_byThreshold (m : Modulation F) (stamp : Stamp) (observed : F) :
    let d := Decision.byThreshold m stamp observed
    d.constraint = none ∧ d.floorTriggered = false ∧
      (m.direction.Meets observed m.threshold → d.action = .allow) ∧
      (¬ m.direction.Meets observed m.threshold → d.action = .hold) := by
  have hv : m.isViolatedBy observed = true ↔ _ := Modulation.isViolatedBy_iff
  unfold Decision.byThreshold
  split
  next h => exact ⟨rfl, rfl, fun hm => absurd hm (hv.1 h), fun _ => rfl⟩
  next h => exact ⟨rfl, rfl, fun _ => rfl, fun hm => absurd (hv.2 hm) h⟩

/-! ## The decision by the rules -/

theorem exists_ruling (e : Engine F) (s : Standing F) (r : GateRequest F) :
    ∃ action constraint, e.Ruling s r action constraint := by
  rcases Constraint.exists_isFirst_or_forall_not (e.Violates s r) with ⟨c, first⟩ | clear
  · cases c with
    | sensitiveData => exact ⟨_, _, .review first (Or.inl rfl)⟩
    | conflictCoefficient => exact ⟨_, _, .review first (Or.inr rfl)⟩
    | forbiddenMode => exact ⟨_, _, .refusal first (Or.inl rfl)⟩
    | consecutiveFailures => exact ⟨_, _, .refusal first (Or.inr (Or.inl rfl))⟩
    | uncertaintyCeiling => exact ⟨_, _, .refusal first (Or.inr (Or.inr rfl))⟩
  · by_cases hs : IsStopped s r
    · exact ⟨_, _, .stopped clear hs⟩
    · by_cases hw : e.IsWithin r
      · exact ⟨_, _, .within clear hs hw⟩
      · exact ⟨_, _, .beyond clear hs (Or.inr hw)⟩

theorem Ruling.decision_eq [Scalar.LawfulComparison F] {action : GateAction}
    {constraint : Option Constraint} (h : e.Ruling s r action constraint) (stamp : Stamp) :
    let d := (e.evaluateGate stamp r s).result
    d.action = action ∧ d.constraint = constraint ∧ d.floorTriggered = constraint.isSome := by
  cases h with
  | review first kind =>
      obtain ⟨ha, hc, ht⟩ := decision_of_isFirst stamp first
      refine ⟨ha.trans ?_, hc, ht⟩
      rcases kind with rfl | rfl <;> rfl
  | refusal first kind =>
      obtain ⟨ha, hc, ht⟩ := decision_of_isFirst stamp first
      refine ⟨ha.trans ?_, hc, ht⟩
      rcases kind with rfl | rfl | rfl <;> rfl
  | stopped clear hs => exact decision_of_isStopped stamp clear hs
  | beyond clear hs beyond =>
      have hnot : ¬ e.IsWithin r := by
        rcases beyond with hnan | hnot
        · intro hw
          rw [hw.isNaN_eq_false] at hnan
          cases hnan
        · exact hnot
      rw [decision_of_not_isStopped stamp clear hs]
      obtain ⟨hc, ht, _, ha⟩ := action_byThreshold (e.modulation r) stamp r.observed
      exact ⟨ha hnot, hc, ht⟩
  | within clear hs within =>
      rw [decision_of_not_isStopped stamp clear hs]
      obtain ⟨hc, ht, ha, _⟩ := action_byThreshold (e.modulation r) stamp r.observed
      exact ⟨ha within, hc, ht⟩

theorem passes_of_allow [Scalar.LawfulComparison F] {stamp : Stamp}
    (h : (e.evaluateGate stamp r s).result.action = .allow) :
    e.IsClear s r ∧ ¬ IsStopped s r ∧ e.IsWithin r := by
  obtain ⟨action, constraint, hr⟩ := e.exists_ruling s r
  obtain rfl : action = .allow := (hr.decision_eq stamp).1.symm.trans h
  cases hr with
  | within clear free within => exact ⟨clear, free, within⟩

/-- The engine decides by the rules: an action is taken for a constraint exactly if a rule says so,
and the floor is named as the cause exactly if a constraint is. So a request is allowed exactly if
no constraint is violated, no open circuit stops it, and the observed value is on the allowed side
of the threshold. -/
theorem evaluateGate_iff_ruling [Scalar.LawfulComparison F] (e : Engine F) (s : Standing F)
    (r : GateRequest F) (stamp : Stamp) (action : GateAction) (constraint : Option Constraint) :
    let d := (e.evaluateGate stamp r s).result
    (d.action = action ∧ d.constraint = constraint ↔ e.Ruling s r action constraint) ∧
      d.floorTriggered = d.constraint.isSome ∧
      (d.action = .allow ↔ e.IsClear s r ∧ ¬ IsStopped s r ∧ e.IsWithin r) := by
  obtain ⟨a, c, h⟩ := e.exists_ruling s r
  obtain ⟨ha, hc, ht⟩ := h.decision_eq stamp
  refine ⟨⟨?_, fun g => ?_⟩, ht.trans (by rw [hc]), ?_⟩
  · rintro ⟨ha', hc'⟩
    rwa [← ha', ← hc', ha, hc]
  · obtain ⟨ha', hc', _⟩ := g.decision_eq stamp
    exact ⟨ha', hc'⟩
  · constructor
    · intro hallow
      rw [ha] at hallow
      subst hallow
      cases h with
      | within clear hs hw => exact ⟨clear, hs, hw⟩
    · rintro ⟨clear, hs, hw⟩
      exact ((Ruling.within clear hs hw).decision_eq stamp).1

/-! ## A request that violates nothing -/

/-- The engine of a deployment that adjusts nothing. -/
def standard : Engine Float :=
  ⟨.default, .standard, none⟩

/-- A request for an agent at the drift gate, of which all but the conflict is harmless. -/
def harmlessRequest (observed conflict : Float) : GateRequest Float where
  gate := .driftThreshold
  observed
  mode := .standard
  agent := some "a1"
  uncertainty := .zero
  calibration := .ofError 0.0 .epoch
  vocabulary := none
  content := none
  conflict

theorem isClear_harmlessRequest (observed : Float) :
    standard.IsClear .blank (harmlessRequest observed 0.0) := by
  intro c
  cases c with
  | forbiddenMode => exact fun h => GovernanceMode.noConfusion h
  | sensitiveData => rintro ⟨_, h, _⟩; cases h
  | conflictCoefficient =>
      have low : (0.0 : Float) ≤ standard.settings.floor.conflictThreshold := by decide
      exact not_not_intro low
  | consecutiveFailures =>
      have few : ¬ standard.settings.floor.failureFloor ≤ 0 := by decide
      exact few
  | uncertaintyCeiling =>
      have low : (0.0 : Float) ≤ standard.settings.floor.uncertaintyCeiling := by decide
      exact not_not_intro low

/-- An undefined value is held even where nothing is violated. -/
theorem evaluateGate_undefined_observed :
    let r := harmlessRequest (0.0 / 0.0) 0.0
    let d := (standard.evaluateGate ⟨.epoch, .zero⟩ r .blank).result
    d.action = .hold ∧ d.constraint = none :=
  (evaluateGate_iff_ruling standard .blank _ _ .hold none).1.2
    (.beyond (isClear_harmlessRequest _) (by rw [isStopped_iff]; decide) (Or.inl (by decide)))

end Engine
end Mandate
