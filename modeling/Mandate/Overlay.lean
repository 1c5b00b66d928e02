import Mandate.Datum
import Mandate.Ontology

/-!
# Policy overlays

An overlay adapts an ontology to one deployment: it may redescribe a symbol, attach metadata to it,
block it outright, and bind tool name patterns to it.
-/

namespace Mandate

/-- Tool name patterns that a symbol allows or blocks. -/
structure ToolBinding where
  allow : List String
  block : List String
deriving DecidableEq

/-- What an overlay says of one symbol. -/
structure Override (F : Type) where
  /-- Stands in place of the ontology's description. -/
  description : Option String
  metadata : Keyed (Datum F)
  tools : ToolBinding
  /-- Frames with the symbol are refused. -/
  blocked : Bool

/-- A named set of overrides by token. -/
structure Overlay (F : Type) where
  name : String
  symbols : Keyed (Override F)

variable {F : Type}

/-- The override that says nothing. -/
def Override.plain : Override F :=
  ⟨none, ∅, ⟨[], []⟩, false⟩

namespace Overlay

/-! ## Building -/

def named (name : String) : Overlay F :=
  ⟨name, ∅⟩

def get? (o : Overlay F) (token : String) : Option (Override F) :=
  o.symbols.get? token

/-- Puts an override in place of what was said of the token. -/
def withOverride (o : Overlay F) (token : String) (override : Override F) : Overlay F :=
  { o with symbols := o.symbols.insert token override }

/-- Changes the override of a token, from the plain one if there is none. -/
def update (o : Overlay F) (token : String) (f : Override F → Override F) : Overlay F :=
  o.withOverride token (f ((o.get? token).getD .plain))

/-- Adds allow patterns under a token. -/
def allowTools (o : Overlay F) (token : String) (patterns : List String) : Overlay F :=
  o.update token fun v => { v with tools := { v.tools with allow := v.tools.allow ++ patterns } }

/-- Adds block patterns under a token. -/
def blockTools (o : Overlay F) (token : String) (patterns : List String) : Overlay F :=
  o.update token fun v => { v with tools := { v.tools with block := v.tools.block ++ patterns } }

/-- Blocks a token outright. -/
def blockSymbol (o : Overlay F) (token : String) : Overlay F :=
  o.update token fun v => { v with blocked := true }

/-- The blocked tokens in increasing order. -/
def blockedTokens (o : Overlay F) : List String :=
  (o.symbols.entries.filter fun e => e.2.blocked).map (·.1)

/-! ## Fitting an ontology -/

/-- Why an overlay does not fit an ontology. -/
inductive Error where
  | unknownSymbol (overlay token : String)
  | emptyPattern (overlay token : String)
deriving DecidableEq

def Error.message : Error → String
  | .unknownSymbol overlay token =>
    "Overlay " ++ overlay ++ " overrides unknown symbol " ++ token
  | .emptyPattern overlay token =>
    "Overlay " ++ overlay ++ " has an empty tool pattern for symbol " ++ token

/-- What is wrong with an override: its token is unknown, or one of its patterns is blank. -/
def fault? (overlay : String) (o : Ontology) (e : String × Override F) : Option Error :=
  if (o.lookup? e.1).isNone then some (.unknownSymbol overlay e.1)
  else if (e.2.tools.allow ++ e.2.tools.block).any Text.isAllBlank then
    some (.emptyPattern overlay e.1)
  else none

/-- The first fault, by tokens in increasing order. -/
def check (overlay : Overlay F) (o : Ontology) : Option Error :=
  overlay.symbols.entries.findSome? (fault? overlay.name o)

end Overlay
end Mandate
