import Mandate.Proofs.Validation.Validity
import Mathlib.Data.List.Nodup

/-!
# Execution in the forbidden mode

The rule on the forbidden mode looks at every mode of a frame and at its action, which is the first
action symbol: any later one is set aside with a warning and not executed. The main statement,
`violates_forbiddenMode_iff`, says that the rule is violated exactly when the forbidden mode stands
anywhere in a frame whose action is to execute.
-/

namespace Mandate

variable {F : Type}

theorem Frame.mem_namesOf_iff {f : Frame F} {category : Category} {name : String} :
    name ∈ f.namesOf category ↔ ∃ s ∈ f.symbols, s.category = category ∧ s.name = name := by
  simp [namesOf, allOf, and_assoc]

namespace Validator

/-! ## One finding of each rule -/

theorem nodup_ruleIds (v : Validator F) (raw : String) (parent : Option String) :
    (v.ruleIds raw parent).Nodup := by
  unfold ruleIds
  split
  · exact List.nodup_singleton _
  · cases parent with
    | none =>
        rw [List.append_nil]
        decide
    | some p =>
        dsimp only
        split <;> decide

variable [Scalar F] {v : Validator F} {raw : String} {parent : Option String}

theorem eq_of_ruleId_eq {f g : Finding} (hf : f ∈ v.findings raw parent)
    (hg : g ∈ v.findings raw parent) (h : f.ruleId = g.ruleId) : f = g := by
  obtain ⟨hids, -⟩ := Rule.of_forall₂_reports (v.reports_findings raw parent)
  have hnodup := v.nodup_ruleIds raw parent
  rw [← hids] at hnodup
  exact List.inj_on_of_nodup_map hnodup hf hg h

theorem checkForbiddenMode_mem_findings {r : Resolution F} (h : v.resolve? raw = some r) :
    Rule.checkForbiddenMode r.frame ∈ v.findings raw parent := by
  rw [findings, h]
  exact List.mem_append_left _ (by simp [Resolution.localFindings])

theorem not_mem_findings_of_unreadable (h : v.resolve? raw = none) {f : Finding}
    (hf : f ∈ v.findings raw parent) : f.ruleId ≠ "SM-002" := by
  rw [findings, h, List.mem_singleton] at hf
  subst hf
  exact fun hid => absurd (show Rule.readable.id = "SM-002" from hid) (by decide)

/-! ## The rule -/

/-- A mode of the raw frame is the forbidden one, and its first action is to execute. -/
def ExecutesForbidden (v : Validator F) (raw : String) : Prop :=
  (∃ s ∈ v.ontology.matched raw, s.category = .mode ∧ s.name = "forbidden") ∧
    ∃ action, Frame.firstOf (v.ontology.matched raw) .action = some action ∧
      action.name = "execute"

theorem passed_checkForbiddenMode_iff {r : Resolution F} (h : v.resolve? raw = some r) :
    (Rule.checkForbiddenMode r.frame).passed = false ↔ v.ExecutesForbidden raw := by
  rw [ExecutesForbidden, ← Resolution.hasAction_iff h, ← Resolution.symbols_of_resolve? h,
    ← Frame.mem_namesOf_iff]
  simp [Rule.checkForbiddenMode, Rule.finding]

/-- With or without a parent, the report has an error of the rule on the forbidden mode exactly if
that mode stands anywhere in a frame whose first action is to execute. No such frame is valid. -/
theorem violates_forbiddenMode_iff (v : Validator F) (now : Instant) (raw : String)
    (parent : Option String) :
    let report := v.validate now raw parent
    ((∃ f ∈ report.findings, f.ruleId = "SM-002" ∧ f.passed = false ∧ f.severity = .error) ↔
        v.ExecutesForbidden raw) ∧
      (v.ExecutesForbidden raw → report.valid = false) := by
  intro report
  have hiff : (∃ f ∈ report.findings, f.ruleId = "SM-002" ∧ f.passed = false ∧
      f.severity = .error) ↔ v.ExecutesForbidden raw := by
    constructor
    · rintro ⟨f, hf, hid, hfailed, -⟩
      cases hr : v.resolve? raw with
      | none => exact absurd hid (not_mem_findings_of_unreadable hr hf)
      | some r =>
          obtain rfl := eq_of_ruleId_eq hf (checkForbiddenMode_mem_findings hr) hid
          exact (passed_checkForbiddenMode_iff hr).1 hfailed
    · intro h
      obtain ⟨s, hs, -⟩ := h.1
      obtain ⟨r, hr⟩ := exists_resolve?_iff.2 (List.ne_nil_of_mem hs)
      have hfailed := (passed_checkForbiddenMode_iff hr).2 h
      refine ⟨_, checkForbiddenMode_mem_findings hr, rfl, hfailed, ?_⟩
      exact (Rule.severity_finding_eq_error_iff _ _ _ _).2 ⟨hfailed, rfl⟩
  refine ⟨hiff, fun h => ?_⟩
  obtain ⟨f, hf, -, -, herror⟩ := hiff.2 h
  rw [← Bool.not_eq_true]
  exact fun hvalid => valid_validate_iff.1 hvalid f hf herror

/-- The forbidden mode is the second of two, and another action follows the execution. -/
theorem executesForbidden_second_mode :
    let v : Validator Float := ⟨.standard, none, 0⟩
    v.ExecutesForbidden "⊙▶?⊗▷" ∧ (v.validate .epoch "⊙▶?⊗▷" (some "⊕◊▷")).valid = false := by
  intro v
  have executes : v.ExecutesForbidden "⊙▶?⊗▷" :=
    ⟨⟨⟨"⊗", "forbidden", "exploratory only, execution forbidden", .mode 4⟩, by decide +kernel⟩,
      ⟨"▶", "execute", "perform the operation", .action⟩, by decide +kernel⟩
  exact ⟨executes, (violates_forbiddenMode_iff v .epoch "⊙▶?⊗▷" (some "⊕◊▷")).2 executes⟩

/-- An execution behind another action is not the frame's action, so the forbidden mode lets it
pass. -/
theorem not_forall_forbidden_execute_rejected :
    ¬ ∀ (v : Validator Float), v.ontology.IsAccepted → ∀ (now : Instant) (raw : String)
      (parent : Option String),
      (∃ s ∈ v.ontology.matched raw, s.category = .mode ∧ s.name = "forbidden") →
      (∃ s ∈ v.ontology.matched raw, s.category = .action ∧ s.name = "execute") →
      (∃ f ∈ (v.validate now raw parent).findings,
        f.ruleId = "SM-002" ∧ f.passed = false ∧ f.severity = .error) ∧
      (v.validate now raw parent).valid = false := by
  intro h
  let v : Validator Float := ⟨.standard, none, 2⟩
  have hrejected := (h v Ontology.isAccepted_standard .epoch "⊗◊▷▶" none
    ⟨⟨"⊗", "forbidden", "exploratory only, execution forbidden", .mode 4⟩, by decide +kernel⟩
    ⟨⟨"▶", "execute", "perform the operation", .action⟩, by decide +kernel⟩).2
  have hvalid : (v.validate .epoch "⊗◊▷▶" none).valid = true := by decide +kernel
  rw [hvalid] at hrejected
  cases hrejected

end Validator
end Mandate
