import Mandate.Validation

/-!
# Frames without errors

A report is valid when no finding is an error. These lemmas say what that leaves of the findings on
a frame alone and of the findings on a frame beside its parent.
-/

namespace Mandate

variable {F : Type}

/-- No finding is an error. -/
def NoErrors (fs : List Finding) : Prop :=
  ∀ f ∈ fs, f.severity ≠ .error

@[simp] theorem noErrors_nil : NoErrors [] := by
  intro f hf
  cases hf

@[simp] theorem noErrors_append {fs gs : List Finding} :
    NoErrors (fs ++ gs) ↔ NoErrors fs ∧ NoErrors gs := by
  simp [NoErrors, or_imp, forall_and]

theorem noErrors_finding_cons {r : Rule} {holds : Bool} {pass fail : String} {fs : List Finding} :
    NoErrors (r.finding holds pass fail :: fs) ↔
      (r.severity = .error → holds = true) ∧ NoErrors fs := by
  simp only [NoErrors, List.forall_mem_cons, ne_eq, Rule.severity_finding_eq_error_iff, not_and']
  simp

namespace Resolution

theorem noErrors_chainFindings_iff {parent child : Resolution F} :
    NoErrors (parent.chainFindings child) ↔
      Rule.isWeakened parent child = false ∧
        (parent.isForbidden = true → child.isForbidden = true) := by
  unfold chainFindings Rule.checkModeKept Rule.checkForbiddenKept Rule.checkDomainKept
    Rule.checkConstraintsKept
  simp only [noErrors_finding_cons, Rule.severity, noErrors_nil]
  cases parent.isForbidden <;> simp

theorem head_of_noErrors {r : Resolution F} {minimum : Nat}
    (h : NoErrors (r.localFindings minimum)) :
    ∃ s, r.frame.symbols.head? = some s ∧ s.category = .mode := by
  have hmem : Rule.checkModeFirst r.frame ∈ r.localFindings minimum := by simp [localFindings]
  have hhead := h _ hmem
  simp only [Rule.checkModeFirst, ne_eq, Rule.severity_finding_eq_error_iff, Rule.severity,
    and_true, Bool.not_eq_false, Option.any_eq_true, decide_eq_true_eq] at hhead
  exact hhead

end Resolution

namespace Validator

variable [Scalar F] {v : Validator F} {raw parent : String}

/-- The frame reads, and no rule on it alone finds an error. -/
def IsSound (v : Validator F) (raw : String) : Prop :=
  ∃ r, v.resolve? raw = some r ∧ NoErrors (r.localFindings v.minimum)

theorem noErrors_findings_none_iff : NoErrors (v.findings raw none) ↔ v.IsSound raw := by
  unfold findings IsSound
  cases h : v.resolve? raw with
  | none => simp [noErrors_finding_cons, Rule.severity]
  | some r => simp

theorem noErrors_findings_some_iff :
    NoErrors (v.findings raw (some parent)) ↔
      v.IsSound raw ∧ ∃ p r, v.resolve? parent = some p ∧ v.resolve? raw = some r ∧
        Rule.isWeakened p r = false ∧ (p.isForbidden = true → r.isForbidden = true) := by
  unfold findings IsSound
  cases h : v.resolve? raw with
  | none => simp [noErrors_finding_cons, Rule.severity]
  | some r =>
      cases hp : v.resolve? parent with
      | none => simp [parentFindings, hp, noErrors_finding_cons, Rule.severity]
      | some p => simp [parentFindings, hp, Resolution.noErrors_chainFindings_iff]

theorem valid_validate_iff {now : Instant} {parent : Option String} :
    (v.validate now raw parent).valid = true ↔ NoErrors (v.findings raw parent) :=
  Report.valid_ofFindings_iff

theorem IsSound.exists_modeStrength (h : v.IsSound raw) :
    ∃ r n, v.resolve? raw = some r ∧ r.modeStrength? = some n := by
  obtain ⟨r, hr, herrors⟩ := h
  obtain ⟨s, hs, hmode⟩ := Resolution.head_of_noErrors herrors
  obtain ⟨f, hf, rfl⟩ := resolve?_eq_some_iff.1 hr
  obtain ⟨n, hn⟩ := s.exists_strength_of_mode hmode
  -- The mode is the frame's own and not a default, for it is the first symbol.
  have hslot : f.mode = some s := by
    rw [Frame.mode_of_parse? hf]
    exact Frame.firstOf_of_head hs hmode
  exact ⟨_, n, hr, by rw [Resolution.modeStrength?_resolve, hslot, Option.getD_some, hn]⟩

end Validator
end Mandate
