import Mandate.Datum
import Mandate.Toml.Reader

/-!
# Writing TOML

Writes a record as a TOML document. The plain values of a table come before the tables below it, and
a table that only holds tables has no header of its own.
-/

namespace Mandate.Toml

variable {F : Type}

/-! ## Texts -/

/-- The length of the longest run of a character. -/
def longestRun (c : Char) : Nat → List Char → Nat
  | run, [] => run
  | run, d :: cs => if d = c then longestRun c (run + 1) cs else max run (longestRun c 0 cs)

/-- Whether a character is a control character other than tab and line feed. -/
def isControl (c : Char) : Bool :=
  (c.toNat < 0x20 && c ≠ '\t' && c ≠ '\n') || c.toNat = 0x7f

/-- A capital hexadecimal digit. -/
def hexDigit (n : Nat) : Char :=
  (Nat.digitChar n).toUpper

/-- How a character other than a quote is written in a text with escapes. -/
def escape (isBlock : Bool) (c : Char) : List Char :=
  if c = '\x08' then ['\\', 'b']
  else if c = '\t' then ['\\', 't']
  else if c = '\n' then (if isBlock then ['\n'] else ['\\', 'n'])
  else if c = '\x0c' then ['\\', 'f']
  else if c = '\r' then ['\\', 'r']
  else if c = '\\' then ['\\', '\\']
  else if isControl c then
    ['\\', 'u', '0', '0', hexDigit (c.toNat / 16), hexDigit (c.toNat % 16)]
  else [c]

/-- The characters of a text with escapes, after a run of quotes. Over several lines two quotes in a
row stand as they are. -/
def escapedBody (isBlock : Bool) : Nat → List Char → List Char
  | _, [] => []
  | run, c :: cs =>
    if c = '"' then
      if isBlock ∧ run < 2 then '"' :: escapedBody isBlock (run + 1) cs
      else '\\' :: '"' :: escapedBody isBlock 0 cs
    else escape isBlock c ++ escapedBody isBlock 0 cs

/-- A text between marks; one over several lines begins on a line of its own. -/
def between (mark : String) (isBlock : Bool) (body : List Char) : String :=
  mark ++ (if isBlock then "\n" else "") ++ String.ofList body ++ mark

/-- A text in the first form that fits it: on one line before several lines, and without escapes
wherever that will do. -/
def quoted (s : String) : String :=
  let cs := s.toList
  let hasControl := cs.any isControl
  let hasLines := cs.contains '\n'
  let hasBackslash := cs.contains '\\'
  let doubles := longestRun '"' 0 cs
  let singles := longestRun '\'' 0 cs
  let basic (isBlock : Bool) := escapedBody isBlock 0 cs
  if !hasControl && !hasBackslash && doubles = 0 && !hasLines then
    between "\"" false (basic false)
  else if !hasControl && singles = 0 && !hasLines then between "'" false cs
  else if !hasControl && !hasBackslash && doubles ≤ 2 then
    between "\"\"\"" hasLines (basic true)
  else if !hasControl && singles ≤ 2 then between "'''" hasLines cs
  else if hasLines then between "\"\"\"" true (basic true)
  else between "\"" false (basic false)

/-- A key, in quotes where it needs them. -/
def key (s : String) : String :=
  if s ≠ "" ∧ s.toList.all isBare then s else quoted s

/-! ## Values -/

variable [Scalar F]

mutual

/-- A value behind its key. -/
def inline : Datum F → String
  | .null => ""
  | .bool b => if b then "true" else "false"
  | .int n => toString n
  | .num x =>
    if Scalar.isFinite x then Scalar.pointed x
    else if Scalar.isNaN x then "nan"
    else Scalar.plain x
  | .text s => quoted s
  | .list ds => "[" ++ ", ".intercalate (inlineItems ds) ++ "]"
  | .record fs => "\x7b " ++ ", ".intercalate (inlineFields fs) ++ " \x7d"

def inlineItems : List (Datum F) → List String
  | [] => []
  | d :: ds => inline d :: inlineItems ds

def inlineFields : List (String × Datum F) → List String
  | [] => []
  | (k, d) :: fs => (key k ++ " = " ++ inline d) :: inlineFields fs

end

mutual

/-- Whether every whole number has 64 bits and no value is missing. -/
def isWritable : Datum F → Bool
  | .null => false
  | .int n => decide (Int64.minValue.toInt ≤ n) && decide (n ≤ Int64.maxValue.toInt)
  | .list ds => areWritable ds
  | .record fs => fieldsWritable fs
  | _ => true

/-- Whether every item can be written. -/
def areWritable : List (Datum F) → Bool
  | [] => true
  | d :: ds => isWritable d && areWritable ds

def fieldsWritable : List (String × Datum F) → Bool
  | [] => true
  | (_, d) :: fs => isWritable d && fieldsWritable fs

end

/-! ## Tables -/

def isRecord : Datum F → Bool
  | .record _ => true
  | _ => false

/-- Whether a tree is written under headers: a record, or a list of records. -/
def isTable : Datum F → Bool
  | .record _ => true
  | .list (d :: ds) => (d :: ds).all isRecord
  | _ => false

def header (path : List String) (isItem : Bool) : String :=
  let name := ".".intercalate (path.map key)
  if isItem then "[[" ++ name ++ "]]\n" else "[" ++ name ++ "]\n"

/-- The header of a table and its plain values. -/
def ownBlock (path : List String) (isItem : Bool) (fs : List (String × Datum F)) : List String :=
  let own := fs.filter fun f => !isTable f.2
  let rows := own.map fun f => key f.1 ++ " = " ++ inline f.2 ++ "\n"
  if path.isEmpty then (if own.isEmpty then [] else [String.join rows])
  else if own.isEmpty ∧ !fs.isEmpty ∧ !isItem then []
  else [header path isItem ++ String.join rows]

mutual

/-- The blocks of lines of a table and the tables below it. -/
def blocks (path : List String) (isItem : Bool) : Datum F → List String
  | .record fs => ownBlock path isItem fs ++ fieldBlocks path fs
  | .list ds => itemBlocks path ds
  | _ => []

/-- The blocks of lines of the tables among some fields. -/
def fieldBlocks (path : List String) : List (String × Datum F) → List String
  | [] => []
  | (k, d) :: fs => (if isTable d then blocks (path ++ [k]) false d else []) ++ fieldBlocks path fs

/-- The blocks of lines of the tables under a repeated header. -/
def itemBlocks (path : List String) : List (Datum F) → List String
  | [] => []
  | d :: ds => blocks path true d ++ itemBlocks path ds

end

/-- The document of a record, with an empty line between tables; none when a value has no
written form. -/
def write? (d : Datum F) : Option String :=
  if isWritable d then some ("\n".intercalate (blocks [] false d)) else none

end Mandate.Toml
