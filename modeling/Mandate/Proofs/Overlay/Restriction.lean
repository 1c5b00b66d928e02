import Mandate.Binary64
import Mandate.Engine
import Mandate.Ontology.Standard
import Mandate.Proofs.Validation.Errors
import Mathlib.Data.List.Forall2

/-!
# An overlay only restricts

The same frame is read once under an overlay and once without one. The readings have the same
effective symbols, and the first allows no tool and passes no rule that the second does not. The
main statement, `overlay_restricts`, says this of everything that an engine tells of a frame.
-/

namespace Mandate

variable {F : Type}

/-! ## Resolving -/

/-- The same symbol fills the slot, whatever is said of it. -/
structure EffectiveSymbol.SameSymbol (a b : EffectiveSymbol F) : Prop where
  symbol : a.symbol = b.symbol
  defaulted : a.defaulted = b.defaulted

theorem sameSymbol_effectiveSlot (o : Ontology) (overlay overlay' : Option (Overlay F))
    (category : Category) (fallback : String) (slot : Option Symbol) :
    (effectiveSlot o overlay category fallback slot).SameSymbol
      (effectiveSlot o overlay' category fallback slot) := by
  cases slot <;> exact ⟨rfl, rfl⟩

namespace Resolution

/-- The two are readings of one frame with the same effective symbols. The second blocks no symbol,
and it allows every tool that the first allows. -/
structure Restricts (r plain : Resolution F) : Prop where
  frame : r.frame = plain.frame
  mode : r.mode.SameSymbol plain.mode
  domain : r.domain.SameSymbol plain.domain
  action : r.action.SameSymbol plain.action
  unblocked : plain.blockedPresent = []
  tools : ∀ tool, r.allowsTool tool = true → plain.allowsTool tool = true

theorem blockedTools_subset (f : Frame F) (o : Ontology) (overlay : Option (Overlay F)) :
    (f.resolve o none).blockedTools ⊆ (f.resolve o overlay).blockedTools := by
  intro pattern hp
  have hvetoed : pattern ∈ if f.hasConstraint "forbidden" then forbiddenTools else [] := by
    simpa [Frame.resolve, bindings] using hp
  simp only [Frame.resolve, Identity.mem_distinct, List.mem_append]
  exact Or.inr hvetoed

theorem restricts_resolve (f : Frame F) (o : Ontology) (overlay : Option (Overlay F)) :
    (f.resolve o overlay).Restricts (f.resolve o none) where
  frame := rfl
  mode := sameSymbol_effectiveSlot o overlay none _ _ f.mode
  domain := sameSymbol_effectiveSlot o overlay none _ _ f.domain
  action := sameSymbol_effectiveSlot o overlay none _ _ f.action
  unblocked := by simp [blockedPresent, Frame.resolve]
  tools tool h := by
    -- Without an overlay nothing has to be allowed, and only the veto of the frame's own
    -- constraint blocks.
    obtain ⟨hblocked, _⟩ := allowsTool_iff.1 h
    exact allowsTool_iff.2 ⟨fun p hp => hblocked p (blockedTools_subset f o overlay hp), Or.inl rfl⟩

end Resolution

theorem rel_resolve? [Scalar F] (o : Ontology) (overlay : Option (Overlay F)) (raw : String) :
    Option.Rel Resolution.Restricts (resolve? o overlay raw) (resolve? o none raw) := by
  unfold resolve?
  cases Frame.parse? (F := F) o raw with
  | none => exact .none
  | some f => exact .some (Resolution.restricts_resolve f o overlay)

/-! ## Findings -/

/-- The findings are the same, or both are of the rule on blocked symbols and the second is that it
is passed. -/
def Finding.SameUnlessBlocked (f g : Finding) : Prop :=
  f = g ∨ f.ruleId = "SM-005" ∧ g.ruleId = "SM-005" ∧ g.passed = true ∧ g.severity = .info

theorem forall₂_sameUnlessBlocked_refl (fs : List Finding) :
    List.Forall₂ Finding.SameUnlessBlocked fs fs :=
  List.forall₂_same.2 fun _ _ => Or.inl rfl

theorem NoErrors.of_forall₂ {fs gs : List Finding}
    (h : List.Forall₂ Finding.SameUnlessBlocked fs gs) (hfs : NoErrors fs) : NoErrors gs := by
  induction h with
  | nil => exact hfs
  | cons h _ ih =>
      obtain ⟨hfirst, hrest⟩ := List.forall_mem_cons.1 hfs
      refine List.forall_mem_cons.2 ⟨?_, ih hrest⟩
      rcases h with rfl | ⟨_, _, _, hinfo⟩
      · exact hfirst
      · rw [hinfo]
        exact Severity.noConfusion

namespace Resolution

variable {r plain p p' c c' : Resolution F}

theorem Restricts.localFindings (h : r.Restricts plain) (minimum : Nat) :
    List.Forall₂ Finding.SameUnlessBlocked (r.localFindings minimum)
      (plain.localFindings minimum) := by
  have hlast : Finding.SameUnlessBlocked (Rule.checkNotBlocked r) (Rule.checkNotBlocked plain) := by
    refine Or.inr ⟨rfl, rfl, ?_, ?_⟩ <;> simp [Rule.checkNotBlocked, Rule.finding, h.unblocked]
  unfold Resolution.localFindings
  rw [h.frame]
  iterate 9 refine .cons (Or.inl rfl) ?_
  exact .cons hlast .nil

/-- What the rules on a frame beside its parent look at is the same with and without an overlay. -/
theorem Restricts.chainFindings (hp : p.Restricts p') (hc : c.Restricts c') :
    p.chainFindings c = p'.chainFindings c' := by
  simp only [Resolution.chainFindings, Rule.checkModeKept, Rule.isWeakened, modeStrength?,
    Rule.checkForbiddenKept, isForbidden, Rule.checkDomainKept, Rule.checkConstraintsKept, hp.frame,
    hp.mode.symbol, hp.domain.symbol, hc.frame, hc.mode.symbol, hc.domain.symbol]

end Resolution

namespace Validator

/-- The validator with no overlay in force. -/
def withoutOverlay (v : Validator F) : Validator F :=
  { v with overlay := none }

variable [Scalar F]

theorem rel_resolve? (v : Validator F) (raw : String) :
    Option.Rel Resolution.Restricts (v.resolve? raw) (v.withoutOverlay.resolve? raw) :=
  Mandate.rel_resolve? v.ontology v.overlay raw

theorem parentFindings_withoutOverlay (v : Validator F) {c c' : Resolution F}
    (hc : c.Restricts c') (parent : String) :
    v.parentFindings c parent = v.withoutOverlay.parentFindings c' parent := by
  have hrel := v.rel_resolve? parent
  unfold parentFindings
  generalize v.resolve? parent = p at hrel ⊢
  generalize v.withoutOverlay.resolve? parent = p' at hrel ⊢
  cases hrel with
  | none => rfl
  | some hp => exact hp.chainFindings hc

theorem forall₂_findings (v : Validator F) (raw : String) (parent : Option String) :
    List.Forall₂ Finding.SameUnlessBlocked (v.findings raw parent)
      (v.withoutOverlay.findings raw parent) := by
  have hrel := v.rel_resolve? raw
  unfold findings
  generalize v.resolve? raw = r at hrel ⊢
  generalize v.withoutOverlay.resolve? raw = r' at hrel ⊢
  cases hrel with
  | none => exact forall₂_sameUnlessBlocked_refl _
  | @some r r' h =>
      refine List.rel_append (h.localFindings v.minimum) ?_
      have hparent : v.parentFindings r = v.withoutOverlay.parentFindings r' :=
        funext (v.parentFindings_withoutOverlay h)
      rw [hparent]
      exact forall₂_sameUnlessBlocked_refl _

end Validator

/-! ## The engine -/

namespace Engine

/-- The engine with no overlay in force. -/
def withoutOverlay (e : Engine F) : Engine F :=
  { e with overlay := none }

variable [Scalar F]

theorem governanceMode?_withoutOverlay (e : Engine F) (raw : String) :
    e.governanceMode? raw = e.withoutOverlay.governanceMode? raw := by
  have hrel := e.validator.rel_resolve? raw
  unfold governanceMode?
  change (e.validator.resolve? raw).map _ = (e.validator.withoutOverlay.resolve? raw).map _
  generalize e.validator.resolve? raw = r at hrel ⊢
  generalize e.validator.withoutOverlay.resolve? raw = r' at hrel ⊢
  cases hrel with
  | none => rfl
  | some h => rw [Option.map_some, Option.map_some, h.mode.symbol]

/-- Whatever an overlay says, the findings on a frame are those without it, but for the one on
blocked symbols, so no frame is valid because of an overlay. The effective symbols and the mode of
governance are the same, and no tool is allowed because of an overlay. -/
theorem overlay_restricts (e : Engine F) (now : Instant) (raw : String) (parent : Option String) :
    let report := e.validate now raw parent
    let plain := e.withoutOverlay.validate now raw parent
    List.Forall₂ Finding.SameUnlessBlocked report.findings plain.findings ∧
      (report.valid = true → plain.valid = true) ∧
      Option.Rel Resolution.Restricts (e.resolve? raw) (e.withoutOverlay.resolve? raw) ∧
      e.governanceMode? raw = e.withoutOverlay.governanceMode? raw := by
  intro report plain
  have hfindings := e.validator.forall₂_findings raw parent
  refine ⟨hfindings, fun h => ?_, e.validator.rel_resolve? raw,
    e.governanceMode?_withoutOverlay raw⟩
  exact Validator.valid_validate_iff.2 ((Validator.valid_validate_iff.1 h).of_forall₂ hfindings)

/-- A frame that is valid under an overlay which blocks a symbol and binds tools is valid without
it, and a tool that it allows is allowed without it. -/
theorem overlay_restricts_ledger :
    let overlay : Overlay Float :=
      (((Overlay.named "ledger").allowTools "◊" ["ledger_*"]).blockTools "▶"
        ["*_purge"]).blockSymbol "✗"
    let e : Engine Float := ⟨.default, .standard, some overlay⟩
    let isAllowed (r : Option (Resolution Float)) := r.any fun r => r.allowsTool "ledger_read"
    ((e.validate .epoch "⊕◊▶β" none).valid = true ∧
        (e.withoutOverlay.validate .epoch "⊕◊▶β" none).valid = true) ∧
      isAllowed (e.resolve? "⊕◊▶β") = true ∧
        isAllowed (e.withoutOverlay.resolve? "⊕◊▶β") = true := by
  intro overlay e isAllowed
  have valid : (e.validate .epoch "⊕◊▶β" none).valid = true := by decide +kernel
  have allowed : isAllowed (e.resolve? "⊕◊▶β") = true := by decide +kernel
  obtain ⟨-, hvalid, hresolve, -⟩ := overlay_restricts e .epoch "⊕◊▶β" none
  refine ⟨⟨valid, hvalid valid⟩, allowed, ?_⟩
  generalize e.resolve? "⊕◊▶β" = r at hresolve allowed
  generalize e.withoutOverlay.resolve? "⊕◊▶β" = plain at hresolve ⊢
  cases hresolve with
  | none => cases allowed
  | some h => exact h.tools _ allowed

end Engine
end Mandate
