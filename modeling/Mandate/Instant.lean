import Mandate.Text.Blank

/-!
# Instants

An instant is kept as the text that names it: a date, a time of day and an offset from universal
time, with blanks allowed between the parts. Nothing in the library computes with instants; they are
stamped, kept and shown.
-/

namespace Mandate

namespace Instant

def skipBlank (cs : List Char) : List Char :=
  cs.dropWhile Text.isBlank

/-- A number of at least one and at most `width` digits, with blanks before it. -/
def number? (width : Nat) (cs : List Char) : Option (Nat × List Char) :=
  let cs := skipBlank cs
  let ds := (cs.take width).takeWhile Char.isDigit
  if ds.isEmpty then none
  else some (ds.foldl (fun n d => 10 * n + (d.toNat - '0'.toNat)) 0, cs.drop ds.length)

/-- A number of one or two digits in the range, both ends included. -/
def within? (lo hi : Nat) (cs : List Char) : Option (Nat × List Char) := do
  let (n, cs) ← number? 2 cs
  if lo ≤ n ∧ n ≤ hi then return (n, cs) else none

/-- The given character, with blanks before it. -/
def separator? (c : Char) (cs : List Char) : Option (List Char) :=
  match skipBlank cs with
  | d :: ds => if d = c then some ds else none
  | [] => none

/-- A year: four digits at most, or a sign and any number of digits. -/
def year? (cs : List Char) : Option (Int × List Char) := do
  let (year, cs) ← match skipBlank cs with
    | '-' :: cs => (number? cs.length cs).map fun n => (-(n.1 : Int), n.2)
    | '+' :: cs => (number? cs.length cs).map fun n => ((n.1 : Int), n.2)
    | cs => (number? 4 cs).map fun n => ((n.1 : Int), n.2)
  if -262143 ≤ year ∧ year ≤ 262142 then return (year, cs) else none

def monthLength (year : Int) (month : Nat) : Nat :=
  if month = 2 then
    if year % 4 = 0 ∧ (year % 100 ≠ 0 ∨ year % 400 = 0) then 29 else 28
  else if month = 4 ∨ month = 6 ∨ month = 9 ∨ month = 11 then 30
  else 31

/-- A date that names a day of the calendar. -/
def date? (cs : List Char) : Option (List Char) := do
  let (year, cs) ← year? cs
  let cs ← separator? '-' cs
  let (month, cs) ← within? 1 12 cs
  let cs ← separator? '-' cs
  let (day, cs) ← within? 1 31 cs
  if day ≤ monthLength year month then return cs else none

def fraction? : List Char → Option (List Char)
  | '.' :: cs => if cs.head?.any Char.isDigit then some (cs.dropWhile Char.isDigit) else none
  | cs => some cs

/-- A time of day; the second may be a leap second. -/
def time? (cs : List Char) : Option (List Char) := do
  let (_, cs) ← within? 0 23 cs
  let cs ← separator? ':' cs
  let (_, cs) ← within? 0 59 cs
  let cs ← separator? ':' cs
  let (_, cs) ← within? 0 60 cs
  fraction? cs

/-- Hours and minutes of an offset of less than a day, with blanks and colons between them. -/
def hoursMinutes? : List Char → Option (List Char)
  | a :: b :: cs =>
    match cs.dropWhile fun c => c = ':' ∨ Text.isBlank c with
    | c :: d :: rest =>
      let digits := [a, b, c, d].all Char.isDigit
      if digits ∧ (a < '2' ∨ (a = '2' ∧ b < '4')) ∧ c < '6' then some rest else none
    | _ => none
  | _ => none

/-- An offset from universal time. -/
def offset? : List Char → Option (List Char)
  | [] => none
  | c :: cs =>
    if c = 'Z' ∨ c = 'z' then some cs
    else if ((c :: cs).take 3).map Char.toUpper = "UTC".toList then some (cs.drop 2)
    else if c = '+' ∨ c = '-' ∨ c = '−' then hoursMinutes? cs
    else none

/-- The mark between date and time. -/
def dateEnd? : List Char → Option (List Char)
  | c :: cs => if c = 'T' ∨ c = 't' ∨ c = ' ' then some cs else none
  | [] => none

/-- What follows the instant at the beginning of a text. -/
def rest? (cs : List Char) : Option (List Char) := do
  let cs ← date? cs
  let cs ← dateEnd? cs
  let cs ← time? cs
  offset? (skipBlank cs)

/-- Whether the text names an instant. -/
def names (s : String) : Bool :=
  (rest? s.toList).map skipBlank = some []

end Instant

/-- A point in time. -/
structure Instant where
  text : String
  named : Instant.names text = true
deriving DecidableEq

def Instant.ofText? (s : String) : Option Instant :=
  if h : Instant.names s = true then some ⟨s, h⟩ else none

/-- The beginning of the year 1970. -/
def Instant.epoch : Instant :=
  ⟨"1970-01-01T00:00:00Z", by decide⟩

theorem Instant.ofText?_text (i : Instant) : Instant.ofText? i.text = some i := by
  rw [Instant.ofText?, dif_pos i.named]

end Mandate
