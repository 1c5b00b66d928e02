import Mandate.Engine.Run
import Mandate.Proofs.Gate.Ruling

/-!
# Open circuits at a gate

A request for an agent whose circuit is open is never allowed. It is blocked unless the floor asks
for a review first, which it does for sensitive data and for too high a conflict. The main
statement, `evaluateGate_of_isStopped`, gives the exact condition.
-/

namespace Mandate.Engine

variable {F : Type} [Scalar F]

/-- The floor asks for a review of the request before it blocks anything. -/
def NeedsReview (e : Engine F) (r : GateRequest F) : Prop :=
  r.mode ≠ .forbidden ∧
    (r.HasSensitiveContent ∨ ¬ r.conflict ≤ e.settings.floor.conflictThreshold)

variable {e : Engine F} {r : GateRequest F}

-- What is known of the agent has no part in it: its failures come after both constraints that ask
-- for a review.
theorem needsReview_iff (s : Standing F) :
    e.NeedsReview r ↔
      ∃ c : Constraint, c.IsFirst (e.Violates s r) ∧ c.action = .hold := by
  constructor
  · rintro ⟨hmode, hreview⟩
    by_cases hscan : r.HasSensitiveContent
    · have earlier : ∀ d ∈ Constraint.sensitiveData.earlier,
          ¬ e.Violates s r d := by
        simpa [Violates] using hmode
      exact ⟨.sensitiveData, ⟨hscan, earlier⟩, rfl⟩
    · have earlier : ∀ d ∈ Constraint.conflictCoefficient.earlier,
          ¬ e.Violates s r d := by
        simpa [Violates] using And.intro hmode hscan
      exact ⟨.conflictCoefficient, ⟨hreview.resolve_left hscan, earlier⟩, rfl⟩
  · rintro ⟨c, ⟨violated, earlier⟩, haction⟩
    cases c with
    | sensitiveData => exact ⟨earlier .forbiddenMode (by simp), Or.inl violated⟩
    | conflictCoefficient => exact ⟨earlier .forbiddenMode (by simp), Or.inr violated⟩
    | forbiddenMode | consecutiveFailures | uncertaintyCeiling => cases haction

/-- An open circuit never lets a request pass, and it blocks the request exactly if the floor does
not ask for a review. -/
theorem evaluateGate_of_isStopped (e : Engine F) (s : Standing F) (r : GateRequest F)
    (stamp : Stamp) (h : IsStopped s r) :
    let d := (e.evaluateGate stamp r s).result
    d.action ≠ .allow ∧ (d.action = .block ↔ ¬ e.NeedsReview r) := by
  intro d
  rw [needsReview_iff s]
  rcases Constraint.exists_isFirst_or_forall_not (e.Violates s r) with ⟨c, first⟩ | clear
  · have haction : d.action = .ofFloor c.action := (decision_of_isFirst stamp first).1
    have hreview : (∃ c' : Constraint, c'.IsFirst (e.Violates s r) ∧ c'.action = .hold) ↔
        c.action = .hold := by
      refine ⟨?_, fun hc => ⟨c, first, hc⟩⟩
      rintro ⟨c', first', hc'⟩
      rwa [first.unique first']
    rw [haction, hreview]
    cases c.action <;> decide
  · have haction : d.action = .block := (decision_of_isStopped stamp clear h).1
    rw [haction]
    refine ⟨nofun, fun _ => ?_, fun _ => rfl⟩
    rintro ⟨c, first, _⟩
    exact clear c first.violated

/-! ## A halted agent -/

/-- What is known after an operator halted an agent. -/
def haltedStanding : Standing Float :=
  standard.run .blank [(⟨.epoch, .zero⟩, .halt "a1" "manual")]

/-- A halted agent is blocked where the conflict is low. -/
theorem evaluateGate_halted :
    let r := harmlessRequest 0.01 0.0
    IsStopped haltedStanding r ∧ ¬ standard.NeedsReview r ∧
      (standard.evaluateGate ⟨.epoch, .zero⟩ r haltedStanding).result.action = .block := by
  have stopped : IsStopped haltedStanding (harmlessRequest 0.01 0.0) := ⟨"a1", rfl, by decide⟩
  have clear : ¬ standard.NeedsReview (harmlessRequest 0.01 0.0) := by
    rintro ⟨_, ⟨_, h, _⟩ | h⟩
    · cases h
    · have low : (0.0 : Float) ≤ standard.settings.floor.conflictThreshold := by decide
      exact h low
  exact ⟨stopped, clear, (evaluateGate_of_isStopped standard _ _ _ stopped).2.2 clear⟩

/-- Not every request for an agent with an open circuit is blocked: a high conflict turns the block
into a review. -/
theorem not_forall_isStopped_block :
    ¬ ∀ (settings : Settings Float) (ontology : Ontology) (overlay : Option (Overlay Float))
        (e : Engine Float) (calls : List (Stamp × Call Float)) (r : GateRequest Float)
        (stamp : Stamp), build settings ontology overlay = .ok e →
        IsStopped (e.run .blank calls) r →
        (e.evaluateGate stamp r (e.run .blank calls)).result.action = .block := by
  intro h
  have hold : (standard.evaluateGate ⟨.epoch, .zero⟩ (harmlessRequest 0.01 0.9)
      haltedStanding).result.action = .hold := by decide +kernel
  have block := h .default .standard none standard [(⟨.epoch, .zero⟩, .halt "a1" "manual")]
    (harmlessRequest 0.01 0.9) ⟨.epoch, .zero⟩ rfl ⟨"a1", rfl, by decide⟩
  exact GateAction.noConfusion (hold.symm.trans block)

end Mandate.Engine
