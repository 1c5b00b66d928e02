import Mandate.Frame
import Mandate.Glob
import Mandate.Overlay

/-!
# Resolved frames

Resolving a frame fills its empty slots with defaults, applies the overlay in force, and gathers the
tool policy that follows. The forbidden constraint adds blocked patterns last, so it can only
restrict.
-/

namespace Mandate

/-- A symbol with what the overlay makes of it. -/
structure EffectiveSymbol (F : Type) where
  symbol : Symbol
  description : String
  metadata : Keyed (Datum F)
  /-- An override was applied. -/
  overridden : Bool
  /-- The slot was empty and the default stands in it. -/
  defaulted : Bool

/-- A frame with its effective symbols and its tool policy. -/
structure Resolution (F : Type) where
  frame : Frame F
  mode : EffectiveSymbol F
  domain : EffectiveSymbol F
  constraints : List (EffectiveSymbol F)
  action : EffectiveSymbol F
  /-- The tokens that the overlay blocks. -/
  blockedSymbols : List String
  allowedTools : List String
  blockedTools : List String
  /-- The name of the overlay in force. -/
  overlay : Option String

variable {F : Type}

/-- The patterns that the forbidden constraint blocks. -/
def forbiddenTools : List String :=
  ["*exec*", "*write*", "*delete*"]

def EffectiveSymbol.of (overlay : Option (Overlay F)) (defaulted : Bool) (s : Symbol) :
    EffectiveSymbol F :=
  let override := overlay.bind (·.get? s.token)
  { symbol := s
    description := (override.bind (·.description)).getD s.description
    metadata := (override.map (·.metadata)).getD ∅
    overridden := override.isSome
    defaulted }

/-- The symbol that stands in an empty slot: the ontology's own of this name, else a bare one. -/
def defaultSymbol (o : Ontology) (category : Category) (name : String) : Symbol :=
  (o.find? category name).getD
    { token := ""
      name
      description := ""
      kind := match category with
        | .mode => .mode ((o.modeStrength? "neutral").getD 2)
        | .domain => .domain
        | _ => .action }

def effectiveSlot (o : Ontology) (overlay : Option (Overlay F)) (category : Category)
    (fallback : String) : Option Symbol → EffectiveSymbol F
  | some s => .of overlay false s
  | none => .of overlay true (defaultSymbol o category fallback)

@[simp] theorem symbol_effectiveSlot (o : Ontology) (overlay : Option (Overlay F))
    (category : Category) (fallback : String) (slot : Option Symbol) :
    (effectiveSlot o overlay category fallback slot).symbol =
      slot.getD (defaultSymbol o category fallback) := by
  cases slot <;> rfl

/-- The bindings that the overlay makes for the symbols of a frame. -/
def bindings (overlay : Option (Overlay F)) (symbols : List Symbol) : List ToolBinding :=
  symbols.filterMap fun s => (overlay.bind (·.get? s.token)).map (·.tools)

/-- Resolves a frame. -/
def Frame.resolve (f : Frame F) (o : Ontology) (overlay : Option (Overlay F)) : Resolution F :=
  let bound := bindings overlay f.symbols
  let vetoed := if f.hasConstraint "forbidden" then forbiddenTools else []
  { frame := f
    mode := effectiveSlot o overlay .mode "neutral" f.mode
    domain := effectiveSlot o overlay .domain "operational" f.domain
    constraints := f.constraints.map (.of overlay false)
    action := effectiveSlot o overlay .action "propose" f.action
    blockedSymbols := (overlay.map (·.blockedTokens)).getD []
    allowedTools := Identity.distinct (bound.flatMap (·.allow))
    blockedTools := Identity.distinct (bound.flatMap (·.block) ++ vetoed)
    overlay := overlay.map (·.name) }

namespace Resolution

def modeStrength? (r : Resolution F) : Option UInt8 :=
  r.mode.symbol.strength?

theorem modeStrength?_resolve (f : Frame F) (o : Ontology) (overlay : Option (Overlay F)) :
    (f.resolve o overlay).modeStrength? =
      (f.mode.getD (defaultSymbol o .mode "neutral")).strength? := by
  simp [modeStrength?, Frame.resolve]

/-- The frame's tokens that the overlay blocks. -/
def blockedPresent (r : Resolution F) : List String :=
  r.frame.tokens.filter r.blockedSymbols.contains

/-- Whether the frame carries the forbidden constraint. -/
def isForbidden (r : Resolution F) : Bool :=
  r.frame.hasConstraint "forbidden"

/-- Whether a tool may be used under the frame. A blocked tool may not; under an overlay a tool has
to be allowed as well. -/
def allowsTool (r : Resolution F) (tool : String) : Bool :=
  !r.blockedTools.any (Glob.isMatch · tool)
    && (r.overlay.isNone || r.allowedTools.any (Glob.isMatch · tool))

theorem allowsTool_iff {r : Resolution F} {tool : String} :
    r.allowsTool tool = true ↔
      (∀ p ∈ r.blockedTools, Glob.isMatch p tool = false) ∧
        (r.overlay = none ∨ ∃ p ∈ r.allowedTools, Glob.isMatch p tool = true) := by
  simp [allowsTool]

end Resolution

def resolve? [Scalar F] (o : Ontology) (overlay : Option (Overlay F)) (raw : String) :
    Option (Resolution F) :=
  (Frame.parse? o raw).map (·.resolve o overlay)

theorem resolve?_eq_some_iff [Scalar F] {o : Ontology} {overlay : Option (Overlay F)}
    {raw : String} {r : Resolution F} :
    resolve? o overlay raw = some r ↔
      ∃ f, Frame.parse? o raw = some f ∧ f.resolve o overlay = r :=
  Option.map_eq_some_iff

end Mandate
