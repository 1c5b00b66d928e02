import Mandate.Datum.Fields
import Mandate.Symbol

/-!
# Symbols as documents

The written form of a symbol is one record: what is particular to its category stands beside the
other fields, behind the name of the category.
-/

namespace Mandate

variable {F : Type}

namespace Kind

/-- The fields of a kind: the category, and for modes and constraints the strength. -/
def toFields (k : Kind) : List (String × Datum F) :=
  ("category", .text k.category.name)
    :: Datum.fieldIf "strength" (fun s => .ofNat s.toNat) k.strength?

def toDatum (k : Kind) : Datum F :=
  .record k.toFields

def strengthOf? (d : Datum F) : Option UInt8 :=
  (d.count? 256).map UInt8.ofNat

/-- Reads the strength from what stands beside the category. -/
def strengthIn? (dialect : Dialect) (rest : Datum F) : Option UInt8 :=
  rest.fields? dialect ["strength"] >>= fun f => f.required "strength" strengthOf?

/-- The kind of a category that has no strength. Fields beside the category do not matter, but spare
items of a list do. -/
def plain? (kind : Kind) : Datum F → Option Kind
  | .record _ => some kind
  | .list [] => some kind
  | _ => none

/-- The kind of a category with what stands beside it. -/
def ofCategory? (dialect : Dialect) (rest : Datum F) : Category → Option Kind
  | .mode => (strengthIn? dialect rest).map .mode
  | .domain => plain? .domain rest
  | .constraint => (strengthIn? dialect rest).map .constraint
  | .action => plain? .action rest
  | .modifier => plain? .modifier rest
  | .source => plain? .source rest
  | .entity => plain? .entity rest

/-- The category that a text names. -/
def categoryOf? (d : Datum F) : Option Category :=
  d.text? >>= Category.named?

/-- Reads a kind from a record, in which the category must stand once. -/
def ofFields? (dialect : Dialect) (category? : Datum F → Option Category)
    (fs : List (String × Datum F)) : Option Kind :=
  match fs.filter fun f => f.1 = "category" with
  | [(_, d)] => category? d >>= ofCategory? dialect (.record fs)
  | _ => none

/-- Reads a kind that stands alone; as a list its category comes first. -/
def ofDatum? : Datum F → Option Kind
  | .record fs => ofFields? .json categoryOf? fs
  | .list (d :: rest) => categoryOf? d >>= ofCategory? .json (.list rest)
  | _ => none

end Kind

namespace Symbol

def toDatum (s : Symbol) : Datum F :=
  .record <|
    [("token", .text s.token),
      ("canonical_name", .text s.name),
      ("description", .text s.description)]
      ++ s.kind.toFields

/-- The category of a symbol, by name; in JSON its place in the order of categories will do. -/
def categoryOf? (dialect : Dialect) : Datum F → Option Category
  | .int n => if dialect = .json ∧ 0 ≤ n then Category.all[n.toNat]? else none
  | d => Kind.categoryOf? d

def ofDatum? (dialect : Dialect) : Datum F → Option Symbol
  | .record fs => do
    let f ← (Datum.record fs).fields? dialect ["token", "canonical_name", "description"]
    let token ← f.required "token" Datum.text?
    let name ← f.required "canonical_name" Datum.text?
    let description ← f.withDefault "description" "" Datum.text?
    let kind ← Kind.ofFields? dialect (categoryOf? dialect) fs
    return { token, name, description, kind }
  | _ => none

end Symbol
end Mandate
