import Mandate.Datum

/-!
# Reading records

A record type is read from a tree by the names of its fields, or from a list by their order. A field
may be required, it may be optional, where `null` and a missing name both mean that there is no
value, or it may have a default.
-/

namespace Mandate

/-- The values at hand for the fields of a record type. -/
structure Fields (F : Type) where
  /-- They were given by order and not by name. -/
  positional : Bool
  entries : List (String × Datum F)

namespace Datum

variable {F : Type}

def repeats (names : List String) : Bool :=
  names.eraseDups.length ≠ names.length

/-- The values for the fields of the given names, in the order of their declaration. Names that the
type lacks are passed over. A name given twice is refused, and so are spare items of a list, except
in TOML. -/
def fields? (dialect : Dialect) (names : List String) : Datum F → Option (Fields F)
  | record fs =>
    let known := fs.filter fun f => names.contains f.1
    if repeats (known.map (·.1)) then none else some ⟨false, known⟩
  | list items =>
    if items.length ≤ names.length ∨ dialect = .toml then some ⟨true, names.zip items⟩ else none
  | _ => none

end Datum

namespace Fields

variable {F α : Type}

/-- A field that must be given. -/
def required (f : Fields F) (name : String) (decode : Datum F → Option α) : Option α :=
  f.entries.lookup name >>= decode

/-- A field that may be missing by name, but not by order. -/
def optional (f : Fields F) (name : String) (decode : Datum F → Option α) : Option (Option α) :=
  match f.entries.lookup name with
  | some d => d.option? decode
  | none => if f.positional then none else some none

def withDefault (f : Fields F) (name : String) (default : α) (decode : Datum F → Option α) :
    Option α :=
  match f.entries.lookup name with
  | some d => decode d
  | none => some default

end Fields
end Mandate
