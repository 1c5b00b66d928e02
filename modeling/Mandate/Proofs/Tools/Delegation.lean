import Mandate.Proofs.Frame.Matched
import Mandate.Proofs.Tools.Pattern
import Mandate.Proofs.Validation.Delegation

/-!
# Tools under the forbidden constraint

The forbidden constraint takes the tools with side effects from a frame, whatever an overlay allows,
and a valid chain hands the constraint down. The main statement, `allowsTool_of_forbids`, joins the
two: no frame below a forbidding one may use such a tool.
-/

namespace Mandate

variable {F : Type}

/-- The words of tools that execute, write or delete. -/
def sideEffects : List String :=
  ["exec", "write", "delete"]

/-- The name of the tool contains a word of a side effect. -/
def HasSideEffect (tool : String) : Prop :=
  ∃ word ∈ sideEffects, word.toList <:+: tool.toList

/-! ## One frame -/

theorem forbiddenTools_eq : forbiddenTools = sideEffects.map fun word => "*" ++ word ++ "*" := by
  decide

theorem star_not_mem_of_mem_sideEffects : ∀ word ∈ sideEffects, '*' ∉ word.toList := by
  decide

theorem hasSideEffect_iff {tool : String} :
    HasSideEffect tool ↔ ∃ pattern ∈ forbiddenTools, Glob.isMatch pattern tool = true := by
  simp only [forbiddenTools_eq, List.mem_map, exists_exists_and_eq_and]
  refine exists_congr fun word => and_congr_right fun hword => ?_
  exact (Glob.isMatch_around_iff (star_not_mem_of_mem_sideEffects word hword)).symm

namespace Resolution

variable {r : Resolution F}

-- A blocked pattern settles the matter before any allowed one is looked at.
theorem allowsTool_eq_false_of_mem {pattern tool : String} (hp : pattern ∈ r.blockedTools)
    (hm : Glob.isMatch pattern tool = true) : r.allowsTool tool = false := by
  have hany : r.blockedTools.any (Glob.isMatch · tool) = true := List.any_eq_true.2 ⟨_, hp, hm⟩
  rw [allowsTool, hany]
  rfl

theorem forbiddenTools_subset [Scalar F] {o : Ontology} {overlay : Option (Overlay F)}
    {raw : String} (h : resolve? o overlay raw = some r) (hf : r.isForbidden = true) :
    forbiddenTools ⊆ r.blockedTools := by
  obtain ⟨f, _, rfl⟩ := resolve?_eq_some_iff.1 h
  have hconstraint : f.hasConstraint "forbidden" = true := hf
  intro pattern hp
  simp [Frame.resolve, hconstraint, hp]

theorem allowsTool_of_isForbidden [Scalar F] {o : Ontology} {overlay : Option (Overlay F)}
    {raw tool : String} (h : resolve? o overlay raw = some r) (hf : r.isForbidden = true)
    (ht : HasSideEffect tool) : r.allowsTool tool = false := by
  obtain ⟨pattern, hp, hm⟩ := hasSideEffect_iff.1 ht
  exact allowsTool_eq_false_of_mem (forbiddenTools_subset h hf hp) hm

end Resolution

/-! ## A chain of frames -/

namespace Validator

variable [Scalar F] {v : Validator F}

theorem Upholds.forbids {parent child : String} (h : v.Upholds parent child)
    (hf : v.ontology.Forbids parent) : v.ontology.Forbids child := by
  obtain ⟨p, c, hp, hc, _, hforbidden⟩ := h
  exact (Resolution.isForbidden_iff hc).1 (hforbidden ((Resolution.isForbidden_iff hp).2 hf))

/-- In a valid chain, no frame from a forbidding one on may use a tool that executes, writes or
deletes, whatever the overlay allows. -/
theorem allowsTool_of_forbids (v : Validator F) (now : Instant) (raws : List String)
    (h : ∀ r ∈ v.validateChain now raws, r.valid = true) (i j : Nat) (hij : i ≤ j)
    (hj : j < raws.length) (hf : v.ontology.Forbids raws[i]) (tool : String)
    (ht : HasSideEffect tool) :
    ∃ r, v.resolve? raws[j] = some r ∧ r.allowsTool tool = false := by
  obtain ⟨hsound, hchain⟩ := (validateChain_valid_iff now).1 h
  have hpairs : raws.Pairwise v.Upholds := List.isChain_iff_pairwise.1 hchain
  have hforbids : v.ontology.Forbids raws[j] := by
    rcases Nat.eq_or_lt_of_le hij with rfl | hlt
    · exact hf
    · exact (List.pairwise_iff_getElem.1 hpairs i j (by omega) hj hlt).forbids hf
  obtain ⟨r, hr, _⟩ := hsound raws[j] (List.getElem_mem hj)
  exact ⟨r, hr, Resolution.allowsTool_of_isForbidden hr
    ((Resolution.isForbidden_iff hr).2 hforbids) ht⟩

/-- A delegate two hops below a forbidding frame may not delete, though its overlay allows every
tool. -/
theorem allowsTool_second_delegate :
    let v : Validator Float := ⟨.standard, some ((Overlay.named "all").allowTools "⛔" ["*"]), 2⟩
    (∀ r ∈ v.validateChain .epoch ["⊖◊⛔▼α", "⊙◊⛔▼β", "⊕◊⛔▷"], r.valid = true) ∧
      ∃ r, v.resolve? "⊕◊⛔▷" = some r ∧ r.allowsTool "db_delete_row" = false := by
  intro v
  have hops : ∀ r ∈ v.validateChain .epoch ["⊖◊⛔▼α", "⊙◊⛔▼β", "⊕◊⛔▷"], r.valid = true := by
    decide +kernel
  have forbids : v.ontology.Forbids "⊖◊⛔▼α" := by
    refine ⟨⟨"⛔", "forbidden", "the guarded operation must not happen", .constraint 4⟩, ?_, rfl, rfl⟩
    decide +kernel
  have deletes : HasSideEffect "db_delete_row" :=
    ⟨"delete", by decide, "db_".toList, "_row".toList, by decide⟩
  exact ⟨hops, allowsTool_of_forbids v .epoch _ hops 0 2 (by decide) (by decide) forbids _ deletes⟩

end Validator
end Mandate
