import Mandate.Datum

/-!
# Reading JSON

Reads the text of a JSON document as a value tree. Whole numbers that fit in 64 bits stay whole; any
other number is a scalar, made from at most 64 bits of digits and one power of ten.
-/

namespace Mandate.Json

variable {F : Type} [Scalar F]

/-! ## Blanks and texts -/

def skipBlank (cs : List Char) : List Char :=
  cs.dropWhile fun c => c = ' ' ∨ c = '\t' ∨ c = '\n' ∨ c = '\r'

def hexValue? (c : Char) : Option Nat :=
  if '0' ≤ c ∧ c ≤ '9' then some (c.toNat - '0'.toNat)
  else if 'a' ≤ c ∧ c ≤ 'f' then some (c.toNat - 'a'.toNat + 10)
  else if 'A' ≤ c ∧ c ≤ 'F' then some (c.toNat - 'A'.toNat + 10)
  else none

/-- A unit of four hexadecimal digits. -/
def hexUnit? : List Char → Option (Nat × List Char)
  | a :: b :: c :: d :: cs => do
    let a ← hexValue? a
    let b ← hexValue? b
    let c ← hexValue? c
    let d ← hexValue? d
    return (((a * 16 + b) * 16 + c) * 16 + d, cs)
  | _ => none

/-- The character of a numbered escape. Characters beyond the first 65536 take two units, the halves
of a pair; a half on its own is refused. -/
def numbered? (cs : List Char) : Option (Char × List Char) := do
  let (high, cs) ← hexUnit? cs
  if 0xD800 ≤ high ∧ high < 0xDC00 then
    match cs with
    | '\\' :: 'u' :: cs =>
      let (low, cs) ← hexUnit? cs
      if 0xDC00 ≤ low ∧ low < 0xE000 then
        return (Char.ofNat (0x10000 + (high - 0xD800) * 0x400 + (low - 0xDC00)), cs)
      else none
    | _ => none
  else if 0xDC00 ≤ high ∧ high < 0xE000 then none
  else return (Char.ofNat high, cs)

/-- The character that a letter stands for after a backslash. -/
def escaped? : Char → Option Char
  | '"' => some '"'
  | '\\' => some '\\'
  | '/' => some '/'
  | 'b' => some '\x08'
  | 'f' => some '\x0c'
  | 'n' => some '\n'
  | 'r' => some '\r'
  | 't' => some '\t'
  | _ => none

/-- The rest of a text after its opening quote. -/
def textBody : Nat → List Char → Option (List Char × List Char)
  | 0, _ => none
  | fuel + 1, cs =>
    match cs with
    | [] => none
    | '"' :: cs => some ([], cs)
    | '\\' :: 'u' :: cs => do
      let (c, cs) ← numbered? cs
      let (body, cs) ← textBody fuel cs
      return (c :: body, cs)
    | '\\' :: e :: cs => do
      let c ← escaped? e
      let (body, cs) ← textBody fuel cs
      return (c :: body, cs)
    | c :: cs =>
      if c = '\\' ∨ c.toNat < 0x20 then none
      else do
        let (body, cs) ← textBody fuel cs
        return (c :: body, cs)

/-- A text after its opening quote. -/
def text? (cs : List Char) : Option (String × List Char) := do
  let (body, cs) ← textBody (cs.length + 1) cs
  return (String.ofList body, cs)

/-! ## Numbers -/

/-- Digits read into a 64-bit significand, with the count of those that no longer fitted. -/
structure Significand where
  value : Nat
  spare : Nat

/-- Reads digits until the first that no longer fits. -/
def Significand.read (start : Nat) (ds : List Char) : Significand :=
  ds.foldl
    (fun s d =>
      let next := 10 * s.value + (d.toNat - '0'.toNat)
      if s.spare = 0 ∧ next < UInt64.size then ⟨next, 0⟩ else ⟨s.value, s.spare + 1⟩)
    ⟨start, 0⟩

/-- Divides by powers of ten, the first four of them no greater than `10 ^ 308`. -/
def scaleDown : Nat → F → Nat → F
  | 0, x, e => x / Scalar.ofDecimal false 1 (e : Int)
  | steps + 1, x, e =>
    if e ≤ 308 then x / Scalar.ofDecimal false 1 (e : Int)
    else scaleDown steps (x / Scalar.ofDecimal false 1 308) (e - 308)

/-- A significand times a power of ten; none when that is out of range. -/
def scale (value : Nat) (exponent : Int) : Option F :=
  let x : F := Scalar.ofNat value
  if exponent < 0 then
    some (scaleDown 4 x exponent.natAbs)
  else if exponent ≤ 308 then
    let y := x * Scalar.ofDecimal false 1 exponent
    if Scalar.isFinite y then some y else none
  else if value = 0 then some x
  else none

def negated (x : F) : F :=
  x * (0.0 - 1.0)

/-- The exponent part of a number, with the characters after it. -/
def exponent? : List Char → Option (Int × List Char)
  | e :: cs =>
    if e = 'e' ∨ e = 'E' then
      let (negative, cs) := match cs with
        | '-' :: cs => (true, cs)
        | '+' :: cs => (false, cs)
        | _ => (false, cs)
      let ds := cs.takeWhile Char.isDigit
      if ds = [] then none
      else
        let n : Int := ds.foldl (fun n d => 10 * n + (d.toNat - '0'.toNat)) 0
        some (if negative then -n else n, cs.dropWhile Char.isDigit)
    else some (0, e :: cs)
  | [] => some (0, [])

/-- A number after its sign. -/
def number? (negative : Bool) (cs : List Char) : Option (Datum F × List Char) := do
  let whole := cs.takeWhile Char.isDigit
  let rest := cs.dropWhile Char.isDigit
  if whole = [] ∨ (whole.length > 1 ∧ whole.head? = some '0') then none
  let significand := Significand.read 0 whole
  let (significand, places, rest, plain) ← match rest with
    | '.' :: more =>
      let part := more.takeWhile Char.isDigit
      if part = [] then none
      else
        let s := Significand.read significand.value part
        some (⟨s.value, significand.spare⟩, part.length - s.spare, more.dropWhile Char.isDigit,
          false)
    | _ => some (significand, 0, rest, true)
  let (e, after) ← exponent? rest
  let isWhole : Bool := plain && significand.spare = 0 && after.length = rest.length
  if isWhole ∧ !negative then return (.int significand.value, after)
  else if isWhole ∧ 0 < significand.value ∧ Int64.minValue.toInt ≤ -(significand.value : Int) then
    return (.int (-(significand.value : Int)), after)
  else
    let x ← scale significand.value (e + significand.spare - places)
    return (.num (if negative then negated x else x), after)

/-! ## Documents -/

mutual

/-- A value, with the characters after it. -/
def value : Nat → List Char → Option (Datum F × List Char)
  | 0, _ => none
  | fuel + 1, cs =>
    match skipBlank cs with
    | 'n' :: 'u' :: 'l' :: 'l' :: cs => some (.null, cs)
    | 't' :: 'r' :: 'u' :: 'e' :: cs => some (.bool true, cs)
    | 'f' :: 'a' :: 'l' :: 's' :: 'e' :: cs => some (.bool false, cs)
    | '"' :: cs => do
      let (s, cs) ← text? cs
      return (.text s, cs)
    | '[' :: cs =>
      match skipBlank cs with
      | ']' :: cs => some (.list [], cs)
      | cs => do
        let (ds, cs) ← items fuel cs
        return (.list ds, cs)
    | '\x7b' :: cs =>
      match skipBlank cs with
      | '\x7d' :: cs => some (.record [], cs)
      | cs => do
        let (fs, cs) ← fields fuel cs
        return (.record fs, cs)
    | '-' :: cs => number? true cs
    | cs => number? false cs

/-- The items of a list up to its closing bracket. -/
def items : Nat → List Char → Option (List (Datum F) × List Char)
  | 0, _ => none
  | fuel + 1, cs => do
    let (d, cs) ← value fuel cs
    match skipBlank cs with
    | ']' :: cs => return ([d], cs)
    | ',' :: cs =>
      let (ds, cs) ← items fuel cs
      return (d :: ds, cs)
    | _ => none

/-- The fields of a record up to its closing brace. -/
def fields : Nat → List Char → Option (List (String × Datum F) × List Char)
  | 0, _ => none
  | fuel + 1, cs =>
    match skipBlank cs with
    | '"' :: cs => do
      let (name, cs) ← text? cs
      match skipBlank cs with
      | ':' :: cs =>
        let (d, cs) ← value fuel cs
        match skipBlank cs with
        | '\x7d' :: cs => return ([(name, d)], cs)
        | ',' :: cs =>
          let (fs, cs) ← fields fuel cs
          return ((name, d) :: fs, cs)
        | _ => none
      | _ => none
    | _ => none

end

/-- Reads a whole document. Every step of the reader takes a character within two calls, so the fuel
never runs out. -/
def read? (text : String) : Option (Datum F) :=
  let cs := text.toList
  match value (2 * cs.length + 2) cs with
  | some (d, rest) => if skipBlank rest = [] then some d else none
  | none => none

end Mandate.Json
