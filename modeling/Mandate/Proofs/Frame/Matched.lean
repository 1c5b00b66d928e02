import Mandate.Proofs.Ontology.Accepted
import Mandate.Resolution

/-!
# Matched symbols

What the rules ask of a raw frame is settled by its known symbols: whether it reads, how strict its
mode is, and whether it carries the forbidden constraint or a blocked symbol.
-/

namespace Mandate

variable {F : Type}

namespace Ontology

/-- The known symbols of a raw frame, in frame order. -/
def matched (o : Ontology) (raw : String) : List Symbol :=
  (o.tokenize raw).filterMap Token.symbol?

/-- A known symbol of the raw frame is the forbidden constraint. -/
def Forbids (o : Ontology) (raw : String) : Prop :=
  ∃ s ∈ o.matched raw, s.category = .constraint ∧ s.name = "forbidden"

/-- The strength of the mode that a raw frame is under: its first mode, or the neutral mode if it
has none. -/
def strengthIn? (o : Ontology) (raw : String) : Option UInt8 :=
  match Frame.firstOf (o.matched raw) .mode with
  | some s => s.strength?
  | none => o.modeStrength? "neutral"

end Ontology

/-- The overlay blocks the token outright. -/
def Overlay.Blocks (overlay : Overlay F) (token : String) : Prop :=
  ∃ v, overlay.get? token = some v ∧ v.blocked = true

theorem Overlay.mem_blockedTokens {overlay : Overlay F} {token : String} :
    token ∈ overlay.blockedTokens ↔ overlay.Blocks token := by
  simp [blockedTokens, Blocks, get?, Keyed.get?_eq_some_iff]

theorem name_defaultSymbol (o : Ontology) (category : Category) (name : String) :
    (defaultSymbol o category name).name = name := by
  unfold defaultSymbol
  cases h : o.find? category name with
  | none => rfl
  | some s => exact (Ontology.named_of_find? h).2

/-! ## Reading -/

variable [Scalar F] {o : Ontology} {overlay : Option (Overlay F)} {raw : String} {f : Frame F}
  {r : Resolution F}

theorem Frame.parse?_eq_none_iff : parse? (F := F) o raw = none ↔ o.matched raw = [] := by
  simp [parse?, Ontology.matched]

theorem Frame.exists_parse?_eq_some (h : o.matched raw ≠ []) : ∃ f : Frame F, parse? o raw = some f :=
  Option.ne_none_iff_exists'.1 (mt parse?_eq_none_iff.1 h)

theorem Frame.symbols_of_parse? (h : parse? o raw = some f) : f.symbols = o.matched raw := by
  obtain ⟨_, rfl⟩ := parse?_eq_some_iff.1 h
  rfl

theorem Frame.raw_of_parse? (h : parse? o raw = some f) : f.raw = raw := by
  obtain ⟨_, rfl⟩ := parse?_eq_some_iff.1 h
  rfl

theorem Frame.unrecognized_of_parse? (h : parse? o raw = some f) :
    f.unrecognized =
      ((o.tokenize raw).filterMap Token.unknown?).map fun c => String.ofList [c] := by
  obtain ⟨_, rfl⟩ := parse?_eq_some_iff.1 h
  rfl

theorem Frame.action_of_parse? (h : parse? o raw = some f) :
    f.action = firstOf (o.matched raw) .action := by
  obtain ⟨_, rfl⟩ := parse?_eq_some_iff.1 h
  rfl

theorem Frame.constraints_of_parse? (h : parse? o raw = some f) :
    f.constraints = allOf (o.matched raw) .constraint := by
  obtain ⟨_, rfl⟩ := parse?_eq_some_iff.1 h
  rfl

/-- The two frames have the same matched symbols, the same ones in each slot, and one identity. -/
structure Frame.SameReading (f g : Frame F) : Prop where
  symbols : f.symbols = g.symbols
  mode : f.mode = g.mode
  domain : f.domain = g.domain
  constraints : f.constraints = g.constraints
  action : f.action = g.action
  modifiers : f.modifiers = g.modifiers
  source : f.source = g.source
  entity : f.entity = g.entity
  identity : f.identity = g.identity

theorem Frame.sameReading_of_symbols_eq {raw' : String} {g : Frame F} (h : parse? o raw = some f)
    (h' : parse? o raw' = some g) (heq : f.symbols = g.symbols) : f.SameReading g := by
  obtain ⟨_, rfl⟩ := parse?_eq_some_iff.1 h
  obtain ⟨_, rfl⟩ := parse?_eq_some_iff.1 h'
  simp only [ofParts] at heq
  constructor <;> simp only [ofParts, heq]

theorem Frame.exists_sameReading {raw' : String} (h : parse? o raw = some f)
    (heq : o.matched raw' = o.matched raw) : ∃ g, parse? o raw' = some g ∧ g.SameReading f := by
  have hne : o.matched raw' ≠ [] := heq ▸ (parse?_eq_some_iff.1 h).1
  obtain ⟨g, hg⟩ := exists_parse?_eq_some (F := F) hne
  have hsymbols : g.symbols = f.symbols := by
    rw [symbols_of_parse? hg, symbols_of_parse? h, heq]
  exact ⟨g, hg, sameReading_of_symbols_eq hg h hsymbols⟩

theorem resolve?_eq_none_iff : resolve? o overlay raw = none ↔ o.matched raw = [] := by
  rw [resolve?, Option.map_eq_none_iff, Frame.parse?_eq_none_iff]

theorem exists_resolve?_iff : (∃ r, resolve? o overlay raw = some r) ↔ o.matched raw ≠ [] := by
  rw [← Option.ne_none_iff_exists', ne_eq, resolve?_eq_none_iff]

namespace Resolution

theorem symbols_of_resolve? (h : resolve? o overlay raw = some r) :
    r.frame.symbols = o.matched raw := by
  obtain ⟨f, hf, rfl⟩ := resolve?_eq_some_iff.1 h
  exact Frame.symbols_of_parse? hf

theorem hasAction_iff (h : resolve? o overlay raw = some r) {name : String} :
    r.frame.hasAction name = true ↔
      ∃ action, Frame.firstOf (o.matched raw) .action = some action ∧ action.name = name := by
  obtain ⟨f, hf, rfl⟩ := resolve?_eq_some_iff.1 h
  simp [Frame.resolve, Frame.hasAction, Frame.action_of_parse? hf, Option.any_eq_true]

theorem isForbidden_iff (h : resolve? o overlay raw = some r) :
    r.isForbidden = true ↔ o.Forbids raw := by
  obtain ⟨f, hf, rfl⟩ := resolve?_eq_some_iff.1 h
  simp [isForbidden, Frame.resolve, Frame.hasConstraint, Frame.constraints_of_parse? hf,
    Frame.allOf, Ontology.Forbids]

theorem blockedPresent_eq_nil_iff (h : resolve? o overlay raw = some r) :
    r.blockedPresent = [] ↔ ∀ v ∈ overlay, ∀ s ∈ o.matched raw, ¬ v.Blocks s.token := by
  obtain ⟨f, hf, rfl⟩ := resolve?_eq_some_iff.1 h
  cases overlay with
  | none => simp [blockedPresent, Frame.resolve]
  | some v =>
      simp [blockedPresent, Frame.resolve, Frame.tokens, Frame.symbols_of_parse? hf,
        Overlay.mem_blockedTokens]

/-! ## The mode in force -/

theorem modeStrength?_of_resolve? (ho : o.IsAccepted) (h : resolve? o overlay raw = some r) :
    r.modeStrength? = o.strengthIn? raw := by
  obtain ⟨f, hf, rfl⟩ := resolve?_eq_some_iff.1 h
  rw [modeStrength?_resolve, Frame.mode_of_parse? hf, Frame.symbols_of_parse? hf,
    Ontology.strengthIn?]
  cases Frame.firstOf (o.matched raw) .mode with
  | some s => rfl
  | none =>
      -- An accepted table has a neutral mode, so nothing has to be made up in its place.
      obtain ⟨s, hs⟩ := ho.exists_required (r := (.mode, "neutral")) (by decide)
      rw [Option.getD_none, defaultSymbol, Ontology.modeStrength?, hs]
      rfl

end Resolution

theorem Ontology.exists_strengthIn? (ho : o.IsAccepted) (raw : String) :
    ∃ n, o.strengthIn? raw = some n := by
  unfold strengthIn?
  cases hmode : Frame.firstOf (o.matched raw) .mode with
  | some s =>
      have hs : s.category = .mode := by simpa using List.find?_some hmode
      exact s.exists_strength_of_mode hs
  | none =>
      obtain ⟨s, hs⟩ := ho.exists_required (r := (.mode, "neutral")) (by decide)
      obtain ⟨n, hn⟩ := s.exists_strength_of_mode (named_of_find? hs).1
      exact ⟨n, by rw [modeStrength?, hs]; exact hn⟩

end Mandate
