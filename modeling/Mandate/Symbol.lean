/-!
# Symbols

A symbol is a token that may occur in a frame, with its name and its category. Modes and constraints
also have a strength; for modes a low strength is a strict one.
-/

namespace Mandate

/-- What a symbol speaks of. -/
inductive Category where
  | mode
  | domain
  | constraint
  | action
  | modifier
  | source
  | entity
deriving DecidableEq, Repr

/-- A category with what only its symbols have. -/
inductive Kind where
  | mode (strength : UInt8)
  | domain
  | constraint (strength : UInt8)
  | action
  | modifier
  | source
  | entity
deriving DecidableEq

/-- One entry of an ontology. -/
structure Symbol where
  token : String
  name : String
  description : String
  kind : Kind
deriving DecidableEq

def Category.all : List Category :=
  [.mode, .domain, .constraint, .action, .modifier, .source, .entity]

def Category.name : Category → String
  | .mode => "mode"
  | .domain => "domain"
  | .constraint => "constraint"
  | .action => "action"
  | .modifier => "modifier"
  | .source => "source"
  | .entity => "entity"

def Category.named? (name : String) : Option Category :=
  Category.all.find? fun c => c.name = name

def Kind.category : Kind → Category
  | .mode _ => .mode
  | .domain => .domain
  | .constraint _ => .constraint
  | .action => .action
  | .modifier => .modifier
  | .source => .source
  | .entity => .entity

def Kind.strength? : Kind → Option UInt8
  | .mode s => some s
  | .constraint s => some s
  | _ => none

namespace Symbol

def category (s : Symbol) : Category :=
  s.kind.category

def strength? (s : Symbol) : Option UInt8 :=
  s.kind.strength?

def isNamed (s : Symbol) (category : Category) (name : String) : Bool :=
  s.category = category && s.name = name

theorem exists_strength_of_mode (s : Symbol) (h : s.category = .mode) :
    ∃ n, s.strength? = some n := by
  obtain ⟨_, _, _, kind⟩ := s
  cases kind with
  | mode n => exact ⟨n, rfl⟩
  | _ => cases h

end Symbol

theorem Category.named?_name (c : Category) : Category.named? c.name = some c := by
  cases c <;> decide

end Mandate
