import Mandate.Scalar
import Mandate.Keyed

/-!
# Value trees

A `Datum` is what a document says once its notation is left aside: the common form of the JSON and
TOML documents that the library reads and writes. Records keep their fields in the order of the
document, a repeated field included.
-/

namespace Mandate

/-- A tree of plain values. -/
inductive Datum (F : Type) where
  | null
  | bool (b : Bool)
  | int (n : Int)
  | num (x : F)
  | text (s : String)
  | list (items : List (Datum F))
  | record (fields : List (String × Datum F))

/-- The notation a tree was read from. The two differ in what they let pass. -/
inductive Dialect where
  | json
  | toml
deriving DecidableEq

namespace Datum

variable {F : Type} {α : Type}

instance : Inhabited (Datum F) := ⟨null⟩

/-! ## Building trees -/

/-- A number; infinite and undefined ones have no written form and leave `null`. -/
def ofScalar [Scalar F] (x : F) : Datum F :=
  if Scalar.isFinite x then num x else null

/-- A count. -/
def ofNat (n : Nat) : Datum F :=
  int n

/-- A value that may be missing. -/
def ofOption (encode : α → Datum F) : Option α → Datum F
  | none => null
  | some a => encode a

def ofList (encode : α → Datum F) (xs : List α) : Datum F :=
  list (xs.map encode)

/-- A map from names as a record. -/
def ofKeyed (encode : α → Datum F) (m : Keyed α) : Datum F :=
  record (m.entries.map fun e => (e.1, encode e.2))

/-- A field that is left out when there is no value. -/
def fieldIf (name : String) (encode : α → Datum F) : Option α → List (String × Datum F)
  | none => []
  | some a => [(name, encode a)]

/-! ## Reading plain values -/

/-- A truth value. -/
def bool? : Datum F → Option Bool
  | bool b => some b
  | _ => none

/-- A text. -/
def text? : Datum F → Option String
  | text s => some s
  | _ => none

/-- A whole number from zero up to, and without, the limit. -/
def count? (limit : Nat) : Datum F → Option Nat
  | int n => if 0 ≤ n ∧ n < limit then some n.toNat else none
  | _ => none

/-- A number, written as a whole one or not. -/
def scalar? [Scalar F] : Datum F → Option F
  | int n => some (Scalar.ofInt n)
  | num x => some x
  | _ => none

/-- `null`, or a value. -/
def option? (decode : Datum F → Option α) : Datum F → Option (Option α)
  | null => some none
  | d => (decode d).map some

/-- A list, each item of which is read. -/
def list? (decode : Datum F → Option α) : Datum F → Option (List α)
  | list items => items.mapM decode
  | _ => none

/-- A record with any names, each value of which is read; of a repeated name the last counts. -/
def keyed? (decode : Datum F → Option α) : Datum F → Option (Keyed α)
  | record fields => do
    let entries ← fields.mapM fun f => return (f.1, ← decode f.2)
    return Keyed.ofList entries
  | _ => none

/-- The first value of a list that has the name. -/
def firstNamed? (all : List α) (name : α → String) (s : String) : Option α :=
  all.find? fun a => name a = s

/-- One of finitely many named values, given by its name or by a record of its name alone. -/
def named? (all : List α) (name : α → String) : Datum F → Option α
  | text s => firstNamed? all name s
  | record [(s, null)] => firstNamed? all name s
  | _ => none

/-! ## The settled form -/

mutual

/-- The tree with the fields of its records in increasing order, of a repeated one the last, and
`null` for numbers that are not finite. -/
def settle [Scalar F] : Datum F → Datum F
  | num x => ofScalar x
  | list items => list (settleItems items)
  | record fields => record (Keyed.ofList (settleFields fields)).entries
  | d => d

def settleItems [Scalar F] : List (Datum F) → List (Datum F)
  | [] => []
  | d :: ds => settle d :: settleItems ds

def settleFields [Scalar F] : List (String × Datum F) → List (String × Datum F)
  | [] => []
  | (name, d) :: fs => (name, settle d) :: settleFields fs

end

mutual

/-- How many lists and records stand inside each other at most. -/
def depth : Datum F → Nat
  | list items => depthItems items + 1
  | record fields => depthFields fields + 1
  | _ => 0

/-- The greatest depth among the items of a list. -/
def depthItems : List (Datum F) → Nat
  | [] => 0
  | d :: ds => max (depth d) (depthItems ds)

/-- The greatest depth among the values of the fields. -/
def depthFields : List (String × Datum F) → Nat
  | [] => 0
  | (_, d) :: fs => max (depth d) (depthFields fs)

end

end Datum
end Mandate
