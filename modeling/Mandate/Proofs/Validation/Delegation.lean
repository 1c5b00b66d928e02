import Mandate.Binary64
import Mandate.Ontology.Standard
import Mandate.Proofs.Validation.Errors
import Mathlib.Data.List.Chain

/-!
# Chains of delegation

The rules compare a frame with the frame before it only. The main statement,
`validateChain_composes`, says that this is enough: along a valid chain no frame is weaker than any
frame above it, and a valid chain stays valid when some of its frames are left out.
-/

namespace Mandate

variable {F : Type}

/-- The child keeps what the parent imposes: its effective mode is at least as strict, and it
carries the forbidden constraint if the parent does. -/
def Resolution.Upholds (child parent : Resolution F) : Prop :=
  (∃ c p, child.modeStrength? = some c ∧ parent.modeStrength? = some p ∧ c ≤ p) ∧
    (parent.isForbidden = true → child.isForbidden = true)

theorem Resolution.Upholds.trans {a b c : Resolution F} (h : c.Upholds b) (g : b.Upholds a) :
    c.Upholds a := by
  obtain ⟨⟨m, n, hm, hn, hle⟩, hforbidden⟩ := h
  obtain ⟨⟨n', k, hn', hk, hle'⟩, hforbidden'⟩ := g
  obtain rfl : n = n' := Option.some.inj (hn.symm.trans hn')
  exact ⟨⟨m, k, hm, hk, UInt8.le_trans hle hle'⟩, fun hf => hforbidden (hforbidden' hf)⟩

namespace Validator

variable [Scalar F] {v : Validator F} {raw parent : String}

/-- Both frames read, and the child keeps what the parent imposes. -/
def Upholds (v : Validator F) (parent child : String) : Prop :=
  ∃ p c, v.resolve? parent = some p ∧ v.resolve? child = some c ∧ c.Upholds p

theorem Upholds.trans {a b c : String} (h : v.Upholds a b) (g : v.Upholds b c) :
    v.Upholds a c := by
  obtain ⟨ra, rb, ha, hb, hab⟩ := h
  obtain ⟨rb', rc, hb', hc, hbc⟩ := g
  obtain rfl : rb = rb' := Option.some.inj (hb.symm.trans hb')
  exact ⟨ra, rc, ha, hc, hbc.trans hab⟩

instance : Trans v.Upholds v.Upholds v.Upholds := ⟨Upholds.trans⟩

theorem noErrors_findings_of_isSound (hp : v.IsSound parent) :
    NoErrors (v.findings raw (some parent)) ↔ v.IsSound raw ∧ v.Upholds parent raw := by
  rw [noErrors_findings_some_iff]
  refine and_congr_right fun hraw => ?_
  -- Both frames have a mode of their own, so the comparison of strengths never falls through.
  obtain ⟨p, n, hp, hn⟩ := hp.exists_modeStrength
  obtain ⟨r, m, hr, hm⟩ := hraw.exists_modeStrength
  simp [Upholds, Resolution.Upholds, Rule.isWeakened, hp, hr, hm, hn]

theorem validateAfter_valid_iff (now : Instant) {raws : List String} (hp : v.IsSound parent) :
    (∀ r ∈ v.validateAfter now (some parent) raws, r.valid = true) ↔
      (∀ raw ∈ raws, v.IsSound raw) ∧ (parent :: raws).IsChain v.Upholds := by
  induction raws generalizing parent with
  | nil => simp [validateAfter]
  | cons raw raws ih =>
      simp only [validateAfter, List.forall_mem_cons, valid_validate_iff,
        noErrors_findings_of_isSound hp, List.isChain_cons_cons]
      constructor
      · rintro ⟨⟨hraw, hup⟩, hrest⟩
        obtain ⟨hsound, hchain⟩ := (ih hraw).1 hrest
        exact ⟨⟨hraw, hsound⟩, hup, hchain⟩
      · rintro ⟨⟨hraw, hsound⟩, hup, hchain⟩
        exact ⟨⟨hraw, hup⟩, (ih hraw).2 ⟨hsound, hchain⟩⟩

theorem validateChain_valid_iff (now : Instant) {raws : List String} :
    (∀ r ∈ v.validateChain now raws, r.valid = true) ↔
      (∀ raw ∈ raws, v.IsSound raw) ∧ raws.IsChain v.Upholds := by
  cases raws with
  | nil => simp [validateChain, validateAfter]
  | cons raw raws =>
      simp only [validateChain, validateAfter, List.forall_mem_cons, valid_validate_iff,
        noErrors_findings_none_iff]
      constructor
      · rintro ⟨hraw, hrest⟩
        obtain ⟨hsound, hchain⟩ := (validateAfter_valid_iff now hraw).1 hrest
        exact ⟨⟨hraw, hsound⟩, hchain⟩
      · rintro ⟨⟨hraw, hsound⟩, hchain⟩
        exact ⟨hraw, (validateAfter_valid_iff now hraw).2 ⟨hsound, hchain⟩⟩

/-- Along a valid chain every frame keeps what each frame above it imposes, and whichever frames
are left out, the chain of the others is valid. -/
theorem validateChain_composes (v : Validator F) (now : Instant) (raws : List String)
    (h : ∀ r ∈ v.validateChain now raws, r.valid = true) :
    raws.Pairwise v.Upholds ∧
      ∀ (kept : List String) (later : Instant), kept.Sublist raws →
        ∀ r ∈ v.validateChain later kept, r.valid = true := by
  obtain ⟨hsound, hchain⟩ := (validateChain_valid_iff now).1 h
  -- What a frame keeps goes from neighbour to neighbour, so it holds of any two frames.
  have hpairs : raws.Pairwise v.Upholds := List.isChain_iff_pairwise.1 hchain
  refine ⟨hpairs, fun kept later hkept => ?_⟩
  rw [validateChain_valid_iff, List.isChain_iff_pairwise]
  exact ⟨fun raw hraw => hsound raw (hkept.subset hraw), hpairs.sublist hkept⟩

/-- Two valid hops, from a flexible frame to a neutral and a strict one, make a valid hop. -/
theorem validateChain_root_leaf :
    let v : Validator Float := ⟨.standard, none, 2⟩
    (∀ r ∈ v.validateChain .epoch ["⊖◊▶β", "⊙◊▶β", "⊕◊▶β"], r.valid = true) ∧
      ∀ r ∈ v.validateChain .epoch ["⊖◊▶β", "⊕◊▶β"], r.valid = true := by
  intro v
  have hops : ∀ r ∈ v.validateChain .epoch ["⊖◊▶β", "⊙◊▶β", "⊕◊▶β"], r.valid = true := by
    decide +kernel
  refine ⟨hops, ?_⟩
  exact (validateChain_composes v .epoch _ hops).2 ["⊖◊▶β", "⊕◊▶β"] .epoch (by decide)

end Validator
end Mandate
