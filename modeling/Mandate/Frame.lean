import Mandate.Scalar
import Mandate.Ontology.Tokens
import Mandate.Frame.Identity

/-!
# Frames

A frame is the structured reading of a raw frame: its matched symbols, which of them fill the slots,
what was not recognized, and how far the reading is to be trusted.
-/

namespace Mandate

/-- The reading of a raw frame with at least one matched symbol. -/
structure Frame (F : Type) where
  raw : String
  /-- Matched symbols in frame order. -/
  symbols : List Symbol
  mode : Option Symbol
  domain : Option Symbol
  constraints : List Symbol
  action : Option Symbol
  modifiers : List Symbol
  source : Option Symbol
  entity : Option Symbol
  unrecognized : List String
  /-- Matched and unrecognized tokens together. -/
  totalTokens : Nat
  confidence : F
  identity : Identity
deriving DecidableEq

namespace Frame

variable {F : Type}

def firstOf (symbols : List Symbol) (category : Category) : Option Symbol :=
  symbols.find? fun s => s.category = category

theorem firstOf_of_head {symbols : List Symbol} {s : Symbol} {category : Category}
    (h : symbols.head? = some s) (hs : s.category = category) :
    firstOf symbols category = some s := by
  obtain ⟨rest, rfl⟩ := List.head?_eq_some_iff.1 h
  simp [firstOf, hs]

/-- The symbols of a category in frame order. -/
def allOf (symbols : List Symbol) (category : Category) : List Symbol :=
  symbols.filter fun s => s.category = category

/-- What each of mode, domain and action adds to the confidence. -/
def slotBonus [Scalar F] : F :=
  0.1

/-- Adds the bonus when a slot is filled. -/
def addBonus [Scalar F] (confidence : F) (filled : Bool) : F :=
  if filled then confidence + slotBonus else confidence

/-- The share of matched tokens with the bonus of each filled slot, capped so that a frame with
unrecognized tokens is never read with full confidence. -/
def confidenceOf [Scalar F] (matched unrecognized : Nat) (filled : List Bool) : F :=
  let total := matched + unrecognized
  let raised := filled.foldl addBonus (Scalar.share matched total)
  Scalar.least raised (1.0 - slotBonus * Scalar.share unrecognized total)

/-- The frame of the given matched symbols and unrecognized characters. -/
def ofParts [Scalar F] (raw : String) (symbols : List Symbol) (unknown : List Char) : Frame F :=
  let mode := firstOf symbols .mode
  let domain := firstOf symbols .domain
  let action := firstOf symbols .action
  { raw
    symbols
    mode
    domain
    constraints := allOf symbols .constraint
    action
    modifiers := allOf symbols .modifier
    source := firstOf symbols .source
    entity := firstOf symbols .entity
    unrecognized := unknown.map fun c => String.ofList [c]
    totalTokens := symbols.length + unknown.length
    confidence :=
      confidenceOf symbols.length unknown.length [mode.isSome, domain.isSome, action.isSome]
    identity := Identity.ofTokens (symbols.map (·.token)) }

/-- Reads a raw frame; none when no token of it is known. -/
def parse? [Scalar F] (o : Ontology) (raw : String) : Option (Frame F) :=
  let tokens := o.tokenize raw
  let symbols := tokens.filterMap Token.symbol?
  if symbols.isEmpty then none
  else some (ofParts raw symbols (tokens.filterMap Token.unknown?))

/-- A raw frame reads exactly when some token of it is known. -/
theorem parse?_eq_some_iff [Scalar F] {o : Ontology} {raw : String} {f : Frame F} :
    parse? o raw = some f ↔
      (o.tokenize raw).filterMap Token.symbol? ≠ [] ∧
        f = ofParts raw ((o.tokenize raw).filterMap Token.symbol?)
          ((o.tokenize raw).filterMap Token.unknown?) := by
  simp only [parse?, List.isEmpty_iff]
  split
  next h => simp [h]
  next h => simp [h, eq_comm]

theorem mode_of_parse? [Scalar F] {o : Ontology} {raw : String} {f : Frame F}
    (h : parse? o raw = some f) : f.mode = firstOf f.symbols .mode := by
  obtain ⟨_, rfl⟩ := parse?_eq_some_iff.1 h
  rfl

def tokens (f : Frame F) : List String :=
  f.symbols.map (·.token)

def hasConstraint (f : Frame F) (name : String) : Bool :=
  f.constraints.any fun c => c.name = name

def hasAction (f : Frame F) (name : String) : Bool :=
  f.action.any fun a => a.name = name

/-- The names of the frame's symbols of a category, in frame order. -/
def namesOf (f : Frame F) (category : Category) : List String :=
  (allOf f.symbols category).map (·.name)

/-- A part of the description of a frame, when the slot is filled. -/
def describeSlot (label : String) (slot : Option Symbol) : List String :=
  (slot.map fun s => label ++ "=" ++ s.name).toList

/-- One line that says what a frame asks for. A frame without a mode is neutral. -/
def describe (f : Frame F) : String :=
  let constraints := (f.constraints.map (·.name)).mergeSort fun a b => a ≤ b
  " ".intercalate <|
    ["mode=" ++ ((f.mode.map (·.name)).getD "neutral")]
      ++ describeSlot "domain" f.domain
      ++ (if constraints.isEmpty then [] else ["constraints=" ++ ",".intercalate constraints])
      ++ describeSlot "action" f.action
      ++ describeSlot "entity" f.entity

end Frame
end Mandate
