import Mandate.Datum
import Mandate.Decimal.Numeral
import Mandate.Toml.Text

/-!
# Numbers and dates in TOML

Whole numbers have 64 bits and may be written to base 2, 8, 10 or 16. Any other number has a point
or an exponent, or is one of the words for an infinite or undefined value. Dates and times are kept
as texts.
-/

namespace Mandate.Toml

variable {F : Type} [Scalar F]

/-! ## Digits -/

/-- A digit to base ten. -/
def isDigit (c : Char) : Bool :=
  c.isDigit

/-- Further digits; between two digits one underscore may stand. -/
def moreDigits (isDigit : Char → Bool) : List Char → List Char × List Char
  | '_' :: d :: cs =>
    if isDigit d then let (ds, rest) := moreDigits isDigit cs; (d :: ds, rest)
    else ([], '_' :: d :: cs)
  | c :: cs =>
    if isDigit c then let (ds, rest) := moreDigits isDigit cs; (c :: ds, rest) else ([], c :: cs)
  | [] => ([], [])

def digits? (isDigit : Char → Bool) : List Char → Option (List Char × List Char)
  | c :: cs =>
    if isDigit c then let (ds, rest) := moreDigits isDigit cs; some (c :: ds, rest) else none
  | [] => none

/-- The digits of a whole number to base ten, which do not begin with a spare zero. -/
def wholeDigits? : List Char → Option (List Char × List Char)
  | '0' :: cs => some (['0'], cs)
  | cs => digits? isDigit cs

/-! ## Numbers -/

/-- A whole number of 64 bits. -/
def wide? (n : Int) : Option (Datum F) :=
  if Int64.minValue.toInt ≤ n ∧ n ≤ Int64.maxValue.toInt then some (.int n) else none

def valueOf (base : Nat) (ds : List Char) : Int :=
  ds.foldl (fun n d => base * n + ((hexDigit? d).getD 0)) 0

/-- Digits to another base than ten, after the letter that names it. -/
def based? (base : Nat) (cs : List Char) : Option (Datum F × List Char) := do
  let (ds, rest) ← digits? (fun c => (hexDigit? c).any (· < base)) cs
  return (← wide? (valueOf base ds), rest)

def integer? : List Char → Option (Datum F × List Char)
  | '0' :: 'x' :: cs => based? 16 cs
  | '0' :: 'o' :: cs => based? 8 cs
  | '0' :: 'b' :: cs => based? 2 cs
  | cs => do
    let (negative, cs) := Decimal.splitSign cs
    let (ds, rest) ← wholeDigits? cs
    let n := valueOf 10 ds
    return (← wide? (if negative then -n else n), rest)

/-- The digits after a point. -/
def fraction? : List Char → Option (List Char × List Char)
  | '.' :: cs => digits? isDigit cs
  | _ => none

def exponent? : List Char → Option (Int × List Char)
  | e :: cs => do
    let (negative, cs) := Decimal.splitSign cs
    let (ds, rest) ← if e = 'e' ∨ e = 'E' then digits? isDigit cs else none
    let n := valueOf 10 ds
    return (if negative then -n else n, rest)
  | [] => none

/-- A number with a point or an exponent. A positive one must not be too great to be finite. -/
def decimal? (cs : List Char) : Option (Datum F × List Char) := do
  let (negative, cs) := Decimal.splitSign cs
  let (whole, rest) ← wholeDigits? cs
  let (part, exponent, rest) ← match fraction? rest with
    | some (part, rest) =>
      match exponent? rest with
      | some (e, rest) => some (part, e, rest)
      | none => some (part, 0, rest)
    | none => (exponent? rest).map fun r => ([], r.1, r.2)
  let x : F :=
    Scalar.ofDecimal negative (Decimal.digitsValue (whole ++ part)) (exponent - part.length)
  if Scalar.isFinite x ∨ negative then return (.num x, rest) else none

/-- The word for an infinite or undefined number. -/
def special? (cs : List Char) : Option (Datum F × List Char) :=
  let (negative, cs) := Decimal.splitSign cs
  match cs with
  | 'i' :: 'n' :: 'f' :: rest => some (.num (Scalar.infinity negative), rest)
  | 'n' :: 'a' :: 'n' :: rest => some (.num Scalar.undefined, rest)
  | _ => none

/-! ## Dates and times -/

/-- So many digits whose value is in the range, both ends included. -/
def field? (width lo hi : Nat) (cs : List Char) : Option (Nat × List Char) :=
  let ds := cs.take width
  let n := Decimal.digitsValue ds
  if ds.length = width ∧ ds.all isDigit ∧ lo ≤ n ∧ n ≤ hi then some (n, cs.drop width) else none

/-- What follows the given character. -/
def mark? (c : Char) : List Char → Option (List Char)
  | d :: cs => if c = d then some cs else none
  | [] => none

def monthLength (year month : Nat) : Nat :=
  if month = 2 then
    if year % 4 = 0 ∧ (year % 100 ≠ 0 ∨ year % 400 = 0) then 29 else 28
  else if month = 4 ∨ month = 6 ∨ month = 9 ∨ month = 11 then 30
  else 31

/-- A number with zeros before it. -/
def padded (width n : Nat) : String :=
  let ds := Nat.toDigits 10 n
  String.ofList (List.replicate (width - ds.length) '0' ++ ds)

def date? (cs : List Char) : Option (String × List Char) := do
  let (year, cs) ← field? 4 0 9999 cs
  let cs ← mark? '-' cs
  let (month, cs) ← field? 2 1 12 cs
  let cs ← mark? '-' cs
  let (day, cs) ← field? 2 1 31 cs
  if day ≤ monthLength year month then
    return (padded 4 year ++ "-" ++ padded 2 month ++ "-" ++ padded 2 day, cs)
  else none

/-- A fraction of a second, of which nine digits count, without the zeros at its end. -/
def subsecond (cs : List Char) : String × List Char :=
  match cs with
  | '.' :: rest =>
    let ds := rest.takeWhile isDigit
    if ds.isEmpty then ("", cs)
    else
      let kept := ((ds.take 9).reverse.dropWhile (· = '0')).reverse
      (if kept.isEmpty then "" else String.ofList ('.' :: kept), rest.dropWhile isDigit)
  | _ => ("", cs)

def time? (cs : List Char) : Option (String × List Char) := do
  let (hour, cs) ← field? 2 0 23 cs
  let cs ← mark? ':' cs
  let (minute, cs) ← field? 2 0 59 cs
  let cs ← mark? ':' cs
  let (second, cs) ← field? 2 0 60 cs
  let (part, cs) := subsecond cs
  return (padded 2 hour ++ ":" ++ padded 2 minute ++ ":" ++ padded 2 second ++ part, cs)

/-- An offset from universal time. -/
def offset? : List Char → Option (String × List Char)
  | c :: cs =>
    if c = 'Z' ∨ c = 'z' then some ("Z", cs)
    else if c = '+' ∨ c = '-' then do
      let (hour, cs) ← field? 2 0 23 cs
      let cs ← mark? ':' cs
      let (minute, cs) ← field? 2 0 59 cs
      let sign := if c = '-' ∧ 0 < hour + minute then "-" else "+"
      return (sign ++ padded 2 hour ++ ":" ++ padded 2 minute, cs)
    else none
  | [] => none

/-- The time of day that follows a date, with its offset if it has one. -/
def timeAfterDate? : List Char → Option (String × List Char)
  | c :: cs =>
    if c = 'T' ∨ c = 't' ∨ c = ' ' then do
      let (time, cs) ← time? cs
      let (offset, cs) := (offset? cs).getD ("", cs)
      return ("T" ++ time ++ offset, cs)
    else none
  | [] => none

/-- A date, a time of day, or both. -/
def moment? (cs : List Char) : Option (String × List Char) :=
  match date? cs with
  | some (date, cs) =>
    let (time, cs) := (timeAfterDate? cs).getD ("", cs)
    some (date ++ time, cs)
  | none => time? cs

/-- The field under which the text of a date stands in a tree. -/
def momentField : String :=
  "$__toml_private_datetime"

/-- A date, a number, or the word for a number. -/
def number? (cs : List Char) : Option (Datum F × List Char) :=
  ((moment? cs).map fun r => (.record [(momentField, .text r.1)], r.2))
    <|> decimal? cs <|> special? cs <|> integer? cs

end Mandate.Toml
