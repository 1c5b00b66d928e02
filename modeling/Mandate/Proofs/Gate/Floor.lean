import Mandate.Floor

/-!
# The first violated constraint

Each constraint of the floor is violated or not, whatever becomes of the others. The verdict names
the first one that is violated, in order of priority, and passes only if there is none.
-/

namespace Mandate

variable {F : Type} [Scalar F]

/-- The constraints that go before this one. -/
def Constraint.earlier (c : Constraint) : List Constraint :=
  Constraint.all.takeWhile (· ≠ c)

namespace Constraint

@[simp] theorem earlier_forbiddenMode : forbiddenMode.earlier = [] := rfl

@[simp] theorem earlier_sensitiveData : sensitiveData.earlier = [forbiddenMode] := rfl

@[simp] theorem earlier_conflictCoefficient :
    conflictCoefficient.earlier = [forbiddenMode, sensitiveData] := rfl

@[simp] theorem earlier_consecutiveFailures :
    consecutiveFailures.earlier = [forbiddenMode, sensitiveData, conflictCoefficient] := rfl

@[simp] theorem earlier_uncertaintyCeiling :
    uncertaintyCeiling.earlier =
      [forbiddenMode, sensitiveData, conflictCoefficient, consecutiveFailures] := rfl

theorem eq_or_mem_earlier (c d : Constraint) : c = d ∨ c ∈ d.earlier ∨ d ∈ c.earlier := by
  cases c <;> cases d <;> simp

/-- Of the constraints that are violated this one goes before all others. -/
structure IsFirst (violates : Constraint → Prop) (c : Constraint) : Prop where
  violated : violates c
  earlier : ∀ d ∈ c.earlier, ¬ violates d

variable {violates : Constraint → Prop} {c d : Constraint}

theorem IsFirst.unique (h : c.IsFirst violates) (g : d.IsFirst violates) : c = d := by
  rcases c.eq_or_mem_earlier d with rfl | hc | hd
  · rfl
  · exact absurd h.violated (g.earlier c hc)
  · exact absurd g.violated (h.earlier d hd)

theorem exists_isFirst_or_forall_not (violates : Constraint → Prop) :
    (∃ c : Constraint, c.IsFirst violates) ∨ ∀ c, ¬ violates c := by
  by_cases h1 : violates .forbiddenMode
  · exact Or.inl ⟨_, h1, by simp⟩
  by_cases h2 : violates .sensitiveData
  · exact Or.inl ⟨_, h2, by simp [h1]⟩
  by_cases h3 : violates .conflictCoefficient
  · exact Or.inl ⟨_, h3, by simp [h1, h2]⟩
  by_cases h4 : violates .consecutiveFailures
  · exact Or.inl ⟨_, h4, by simp [h1, h2, h3]⟩
  by_cases h5 : violates .uncertaintyCeiling
  · exact Or.inl ⟨_, h5, by simp [h1, h2, h3, h4]⟩
  refine Or.inr fun c => ?_
  cases c <;> assumption

end Constraint

namespace FloorSettings

/-- Whether signals violate a constraint. A number is too high unless it is known to be low
enough. -/
def Violates (s : FloorSettings F) (x : Signals F) : Constraint → Prop
  | .forbiddenMode => x.mode = .forbidden
  | .sensitiveData => ∃ text, x.content = some text ∧ Sensitive.scan text ≠ []
  | .conflictCoefficient => ¬ x.conflict ≤ s.conflictThreshold
  | .consecutiveFailures => s.failureFloor ≤ x.failures
  | .uncertaintyCeiling => ¬ x.uncertainty ≤ s.uncertaintyCeiling

variable {s : FloorSettings F} {x : Signals F} {c : Constraint}

theorem exceeds_iff {value limit : F} : Scalar.exceeds value limit = true ↔ ¬ value ≤ limit := by
  simp [Scalar.exceeds]

/-! ## The verdict -/

theorem violates_sensitiveData_iff :
    s.Violates x .sensitiveData ↔ (!((x.content.map Sensitive.scan).getD []).isEmpty) = true := by
  unfold Violates
  cases x.content <;> simp

-- The branches of the verdict that an earlier constraint decides are not taken.
theorem verdict_of_isFirst (h : c.IsFirst (s.Violates x)) :
    ∃ message hits, s.verdict x = .violated c message hits := by
  obtain ⟨violated, earlier⟩ := h
  cases c with
  | forbiddenMode => exact ⟨_, _, if_pos violated⟩
  | sensitiveData =>
      have h1 := earlier .forbiddenMode (by simp)
      have h2 := violates_sensitiveData_iff.1 violated
      exact ⟨_, _, (if_neg h1).trans (if_pos h2)⟩
  | conflictCoefficient =>
      have h1 := earlier .forbiddenMode (by simp)
      have h2 := mt violates_sensitiveData_iff.2 (earlier .sensitiveData (by simp))
      have h3 := exceeds_iff.2 violated
      exact ⟨_, _, (if_neg h1).trans ((if_neg h2).trans (if_pos h3))⟩
  | consecutiveFailures =>
      have h1 := earlier .forbiddenMode (by simp)
      have h2 := mt violates_sensitiveData_iff.2 (earlier .sensitiveData (by simp))
      have h3 := mt exceeds_iff.1 (earlier .conflictCoefficient (by simp))
      exact ⟨_, _, (if_neg h1).trans ((if_neg h2).trans ((if_neg h3).trans (if_pos violated)))⟩
  | uncertaintyCeiling =>
      have h1 := earlier .forbiddenMode (by simp)
      have h2 := mt violates_sensitiveData_iff.2 (earlier .sensitiveData (by simp))
      have h3 := mt exceeds_iff.1 (earlier .conflictCoefficient (by simp))
      have h4 := earlier .consecutiveFailures (by simp)
      have h5 := exceeds_iff.2 violated
      exact ⟨_, _, (if_neg h1).trans ((if_neg h2).trans ((if_neg h3).trans
        ((if_neg h4).trans (if_pos h5))))⟩

theorem verdict_of_clear (h : ∀ c, ¬ s.Violates x c) : s.verdict x = .pass := by
  have h1 := h .forbiddenMode
  have h2 := mt violates_sensitiveData_iff.2 (h .sensitiveData)
  have h3 := mt exceeds_iff.1 (h .conflictCoefficient)
  have h4 := h .consecutiveFailures
  have h5 := mt exceeds_iff.1 (h .uncertaintyCeiling)
  exact (if_neg h1).trans ((if_neg h2).trans ((if_neg h3).trans
    ((if_neg h4).trans (if_neg h5))))

theorem passed_of_violates (h : s.Violates x c) : (s.verdict x).passed = false := by
  rcases Constraint.exists_isFirst_or_forall_not (s.Violates x) with ⟨d, first⟩ | clear
  · obtain ⟨message, hits, hverdict⟩ := verdict_of_isFirst first
    rw [hverdict, FloorVerdict.violated]
  · exact absurd h (clear c)

end FloorSettings
end Mandate
