import Mandate.Toml.Number
import Mandate.Toml.Table

/-!
# Reading TOML

Reads the text of a TOML document as a value tree.
-/

namespace Mandate.Toml

variable {F : Type} [Scalar F]

/-! ## Keys -/

/-- A character of a key that needs no quotes. -/
def isBare (c : Char) : Bool :=
  c.isAlphanum || c = '_' || c = '-'

/-- A key without dots. -/
def simpleKey? (cs : List Char) : Option (String × List Char) :=
  match cs with
  | '"' :: _ => lineText? cs
  | '\'' :: _ => lineText? cs
  | _ =>
    let name := cs.takeWhile isBare
    if name.isEmpty then none else some (String.ofList name, cs.dropWhile isBare)

/-- The parts of a dotted key, with blanks around them. -/
def keyParts : Nat → List Char → Option (List String × List Char)
  | 0, _ => none
  | fuel + 1, cs => do
    let (name, cs) ← simpleKey? (skipBlank cs)
    match skipBlank cs with
    | '.' :: cs =>
      let (names, cs) ← keyParts fuel cs
      return (name :: names, cs)
    | cs => return ([name], cs)

/-- How deep keys and values may nest, and one more. -/
def nestingBound : Nat :=
  80

/-- A dotted key: the path that leads to it, and its last part. -/
def key? (cs : List Char) : Option ((List String × String) × List Char) := do
  let (names, cs) ← keyParts (cs.length + 1) cs
  let last ← names.getLast?
  if names.length < nestingBound then return ((names.dropLast, last), cs) else none

/-! ## Values -/

/-- The tree of an inline table with the given keys and values. -/
def inlineTable? (pairs : List ((List String × String) × Datum F)) : Option (Datum F) := do
  let es ← pairs.foldlM (fun (es : Entries F) p => es.insert p.1.1 p.1.2 p.2) []
  return .record (entriesToData es)

mutual

/-- A value that lies so deep. -/
def value : Nat → Nat → List Char → Option (Datum F × List Char)
  | 0, _, _ => none
  | fuel + 1, depth, cs =>
    match cs with
    | '"' :: _ => (text? cs).map fun r => (.text r.1, r.2)
    | '\'' :: _ => (text? cs).map fun r => (.text r.1, r.2)
    | '[' :: cs =>
      if depth + 1 < nestingBound then do
        let (ds, cs) ← items fuel (depth + 1) cs
        return (.list ds, cs)
      else none
    | '\x7b' :: cs =>
      if depth + 1 < nestingBound then
        match skipBlank cs with
        | '\x7d' :: cs => some (.record [], cs)
        | cs => do
          let (ps, cs) ← pairs fuel (depth + 1) cs
          return (← inlineTable? ps, cs)
      else none
    | 't' :: 'r' :: 'u' :: 'e' :: cs => some (.bool true, cs)
    | 'f' :: 'a' :: 'l' :: 's' :: 'e' :: cs => some (.bool false, cs)
    | cs => number? cs

/-- The items of an array up to its closing bracket; the last may have a comma behind it. -/
def items : Nat → Nat → List Char → Option (List (Datum F) × List Char)
  | 0, _, _ => none
  | fuel + 1, depth, cs =>
    match skipLines false cs with
    | ']' :: cs => some ([], cs)
    | cs => do
      let (d, cs) ← value fuel depth cs
      match skipLines false cs with
      | ']' :: cs => return ([d], cs)
      | ',' :: cs =>
        let (ds, cs) ← items fuel depth cs
        return (d :: ds, cs)
      | _ => none

/-- The keys and values of an inline table up to its closing brace. -/
def pairs : Nat → Nat → List Char →
    Option (List ((List String × String) × Datum F) × List Char)
  | 0, _, _ => none
  | fuel + 1, depth, cs => do
    let (key, cs) ← key? cs
    let cs ← mark? '=' cs
    let (d, cs) ← value fuel depth (skipBlank cs)
    match skipBlank cs with
    | '\x7d' :: cs => return ([(key, d)], cs)
    | ',' :: cs =>
      let (ps, cs) ← pairs fuel depth cs
      return ((key, d) :: ps, cs)
    | _ => none

end

/-! ## Documents -/

/-- A header after its opening brackets. -/
def header? (isItem : Bool) (draft : Draft F) (cs : List Char) :
    Option (Draft F × List Char) := do
  let (key, cs) ← key? cs
  let cs ← mark? ']' cs
  let cs ← if isItem then mark? ']' cs else some cs
  return (← draft.start isItem key.1 key.2, ← trailing? cs)

def pair? (draft : Draft F) (cs : List Char) : Option (Draft F × List Char) := do
  let (key, cs) ← key? cs
  let cs ← mark? '=' cs
  let (d, cs) ← value (2 * cs.length + 2) 0 (skipBlank cs)
  return (← draft.insert key.1 key.2 d, ← trailing? cs)

def lines : Nat → Draft F → List Char → Option (Draft F)
  | 0, _, _ => none
  | fuel + 1, draft, cs =>
    match skipLines false cs with
    | [] => some draft
    | '[' :: '[' :: cs => header? true draft cs >>= fun r => lines fuel r.1 r.2
    | '[' :: cs => header? false draft cs >>= fun r => lines fuel r.1 r.2
    | cs => pair? draft cs >>= fun r => lines fuel r.1 r.2

/-- A document may begin with a byte order mark. -/
def withoutMark : List Char → List Char
  | '\ufeff' :: cs => cs
  | cs => cs

def read? (text : String) : Option (Datum F) := do
  let cs := withoutMark text.toList
  let draft ← lines (cs.length + 1) .blank cs
  return .record (entriesToData (← draft.settle))

end Mandate.Toml
