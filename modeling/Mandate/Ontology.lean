import Mandate.Keyed
import Mandate.Symbol
import Mandate.Text.Blank

/-!
# Ontologies

An ontology is the table of the symbols that frames are written in, with an index from the tokens
to their places in the table. A table is accepted when its tokens, its names within a category and
its mode strengths are each distinct, and when it has the symbols that the rules of the library
speak of.
-/

namespace Mandate

/-! ## Characters that form no token -/

/-- Blanks, variation selectors and the zero-width joiner: characters that no token holds. -/
def isIgnorable (c : Char) : Bool :=
  Text.isBlank c || c == '\ufe0e' || c == '\ufe0f' || c == '\u200d'

/-- The characters of a text that can form tokens. -/
def significant (s : String) : List Char :=
  s.toList.filter fun c => !isIgnorable c

/-- The symbol with its token freed of ignorable characters. -/
def Symbol.stripped (s : Symbol) : Symbol :=
  { s with token := String.ofList (significant s.token) }

/-! ## The table and its index -/

/-- The place of each token in a table; where symbols share a token, the last counts. -/
def placesOf (symbols : List Symbol) : Keyed Nat :=
  .ofList (symbols.zipIdx.map fun s => (s.1.token, s.2))

/-- The length of the longest token in a table. -/
def widthOf (symbols : List Symbol) : Nat :=
  (symbols.map fun s => s.token.toList.length).max?.getD 1

structure Ontology where
  symbols : List Symbol
  /-- The place of the symbol that a token stands for. -/
  places : Keyed Nat
  /-- No token is longer. -/
  width : Nat
  places_eq : places = placesOf symbols
  width_eq : width = widthOf symbols

namespace Ontology

/-- A table with its index. -/
def index (symbols : List Symbol) : Ontology :=
  ⟨symbols, placesOf symbols, widthOf symbols, rfl, rfl⟩

@[simp] theorem symbols_index (symbols : List Symbol) : (index symbols).symbols = symbols := rfl

@[simp] theorem index_symbols (o : Ontology) : index o.symbols = o := by
  obtain ⟨symbols, _, _, rfl, rfl⟩ := o
  rfl

/-- Tables are equal when their symbols are: the index follows from them. -/
theorem symbols_inj {o o' : Ontology} : o.symbols = o'.symbols ↔ o = o' :=
  ⟨fun h => by rw [← index_symbols o, h, index_symbols], fun h => congrArg symbols h⟩

instance : DecidableEq Ontology := fun _ _ => decidable_of_iff _ symbols_inj

/-! ## Accepting a table -/

/-- Why a table is refused. -/
inductive Error where
  | empty
  | emptyToken (name : String)
  | duplicateToken (token : String)
  | duplicateName (category : Category) (name : String)
  | sharedStrength (first second : String) (strength : UInt8)
  | missing (category : Category) (name : String)
deriving DecidableEq

def Error.message : Error → String
  | .empty => "Ontology contains no symbols"
  | .emptyToken name => "Symbol token must not be empty (canonical name: " ++ name ++ ")"
  | .duplicateToken token => "Duplicate symbol token: " ++ token
  | .duplicateName category name =>
    "Duplicate canonical name " ++ name ++ " in category " ++ category.name
  | .sharedStrength first second strength =>
    "Mode strengths must be distinct: " ++ first ++ " and " ++ second ++ " share strength "
      ++ toString strength.toNat
  | .missing category name => "Required " ++ category.name ++ " symbol missing: " ++ name

/-- The symbols that every table has. -/
def required : List (Category × String) :=
  [(.mode, "strict"), (.mode, "neutral"), (.mode, "forbidden"), (.constraint, "forbidden"),
    (.domain, "operational"), (.action, "execute"), (.action, "propose")]

/-- The earlier mode that has the strength of this one. -/
def rival? (earlier : List Symbol) (s : Symbol) : Option (Symbol × UInt8) :=
  match s.kind with
  | .mode strength => (earlier.find? fun t => t.kind = .mode strength).map (·, strength)
  | _ => none

/-- What is wrong with a symbol that follows others. -/
def fault? (earlier : List Symbol) (s : Symbol) : Option Error :=
  if s.token = "" then some (.emptyToken s.name)
  else if earlier.any fun t => t.token = s.token then some (.duplicateToken s.token)
  else if earlier.any fun t => t.isNamed s.category s.name then
    some (.duplicateName s.category s.name)
  else (rival? earlier s).map fun r => .sharedStrength r.1.name s.name r.2

/-- The fault of the first faulty symbol. -/
def firstFault? : List Symbol → List Symbol → Option Error
  | _, [] => none
  | earlier, s :: later => fault? earlier s <|> firstFault? (earlier ++ [s]) later

/-- The first required symbol that is missing. -/
def missing? (symbols : List Symbol) : Option Error :=
  (required.find? fun r => !symbols.any fun s => s.isNamed r.1 r.2).map fun r => .missing r.1 r.2

/-- The table of some symbols, whose tokens are stripped first, or why there is none. -/
def ofSymbols (symbols : List Symbol) : Except Error Ontology :=
  if symbols.isEmpty then .error .empty
  else
    let stripped := symbols.map Symbol.stripped
    match firstFault? [] stripped <|> missing? stripped with
    | some e => .error e
    | none => .ok (index stripped)

/-! ## Looking up -/

/-- The symbol that a token stands for. -/
def lookup? (o : Ontology) (token : String) : Option Symbol :=
  (o.places.get? token).bind fun place => o.symbols[place]?

def find? (o : Ontology) (category : Category) (name : String) : Option Symbol :=
  o.symbols.find? fun s => s.isNamed category name

def modeStrength? (o : Ontology) (name : String) : Option UInt8 :=
  (o.find? .mode name).bind Symbol.strength?

/-- The symbols of a category in table order. -/
def ofCategory (o : Ontology) (category : Category) : List Symbol :=
  o.symbols.filter fun s => s.category = category

def size (o : Ontology) : Nat :=
  o.symbols.length

end Ontology
end Mandate
