import Mandate.Datum

/-!
# Tables in TOML

A document grows by headers and by keys with values. A table may be named by a header once, it may
come about because something below it is named, or because a dotted key leads through it; what may
still be added to it depends on that.
-/

namespace Mandate.Toml

/-- How a table came about. -/
inductive Origin where
  /-- A header names it. -/
  | header
  /-- A header names something below it. -/
  | implied
  /-- A dotted key leads through it. -/
  | dotted
deriving DecidableEq

/-- What stands under a key. -/
inductive Node (F : Type) where
  | value (d : Datum F)
  | table (origin : Origin) (entries : List (String × Node F))
  /-- Tables under one header that is repeated. -/
  | tables (items : List (List (String × Node F)))

/-- The keys of a table with what stands under them. -/
abbrev Entries (F : Type) := List (String × Node F)

variable {F : Type}

mutual

def Node.toDatum : Node F → Datum F
  | .value d => d
  | .table _ es => .record (entriesToData es)
  | .tables items => .list (itemsToData items)

def entriesToData : List (String × Node F) → List (String × Datum F)
  | [] => []
  | (k, n) :: es => (k, n.toDatum) :: entriesToData es

def itemsToData : List (List (String × Node F)) → List (Datum F)
  | [] => []
  | es :: items => .record (entriesToData es) :: itemsToData items

end

namespace Entries

/-- Puts a node under a key, in place of what stood there. -/
def put (key : String) (n : Node F) : Entries F → Entries F
  | [] => [(key, n)]
  | e :: es => if e.1 = key then (key, n) :: es else e :: put key n es

/-- Changes the table at the end of a path. Tables that are missing on the way are made; a dotted
key does not lead through a table that a header names. -/
def change (isDotted : Bool) (f : Origin → Entries F → Option (Entries F)) :
    Origin → List String → Entries F → Option (Entries F)
  | origin, [], es => f origin es
  | _, k :: ks, es =>
    match es.lookup k with
    | none => do
      let origin := if isDotted then Origin.dotted else .implied
      return es ++ [(k, .table origin (← change isDotted f origin ks []))]
    | some (.value _) => none
    | some (.table origin below) =>
      if isDotted ∧ origin = .header then none
      else do return es.put k (.table origin (← change isDotted f origin ks below))
    | some (.tables items) =>
      match items.getLast? with
      | none => none
      | some last => do
        return es.put k (.tables (items.dropLast ++ [← change isDotted f .header ks last]))

/-- Puts a value under a dotted key. The table it goes to must be one that dotted keys alone have
made, or, for a key that is not dotted, the table at hand. -/
def insert (path : List String) (key : String) (d : Datum F) (es : Entries F) :
    Option (Entries F) :=
  es.change true
    (fun origin es =>
      let isFitting : Bool := decide (origin = .dotted) != path.isEmpty
      if isFitting ∧ (es.lookup key).isNone then some (es ++ [(key, .value d)]) else none)
    .header path

/-- The entries at the end of a path of headers, none of them if nothing is there yet. -/
def reach? : List String → Entries F → Option (Entries F)
  | [], es => some es
  | k :: ks, es =>
    match es.lookup k with
    | none => some []
    | some (.value _) => none
    | some (.table _ below) => reach? ks below
    | some (.tables items) => items.getLast? >>= reach? ks

end Entries

/-! ## Documents -/

/-- A document while it is read: what is settled, and the table at hand with its header. -/
structure Draft (F : Type) where
  settled : Entries F
  /-- The header of the table at hand; the document itself has none. -/
  path : List String
  /-- The header may be repeated. -/
  isItem : Bool
  current : Entries F

namespace Draft

/-- Nothing is read yet. -/
def blank : Draft F :=
  ⟨[], [], false, []⟩

/-- Puts the table at hand under the last key of its header. -/
def place (isItem : Bool) (current : Entries F) (key : String) (es : Entries F) :
    Option (Entries F) :=
  if isItem then
    match es.lookup key with
    | none => some (es ++ [(key, .tables [current])])
    | some (.tables items) => some (es.put key (.tables (items ++ [current])))
    | some _ => none
  else some (es.put key (.table .header current))

/-- What is settled once the table at hand is complete. -/
def settle (d : Draft F) : Option (Entries F) :=
  match d.path.getLast? with
  | none => some d.current
  | some key =>
    d.settled.change false (fun _ es => place d.isItem d.current key es) .header d.path.dropLast

/-- What the table under a header holds already; none when the header must not stand there. -/
def opened? (isItem : Bool) : Option (Node F) → Option (Entries F)
  | none => some []
  | some (.table .implied es) => if isItem then none else some es
  | some (.tables _) => if isItem then some [] else none
  | some _ => none

def start (d : Draft F) (isItem : Bool) (path : List String) (key : String) :
    Option (Draft F) := do
  let settled ← d.settle
  let parent ← settled.reach? path
  let current ← opened? isItem (parent.lookup key)
  return { settled, path := path ++ [key], isItem, current }

/-- Puts a value under a dotted key of the table at hand. -/
def insert (d : Draft F) (path : List String) (key : String) (x : Datum F) : Option (Draft F) := do
  return { d with current := ← d.current.insert path key x }

end Draft
end Mandate.Toml
