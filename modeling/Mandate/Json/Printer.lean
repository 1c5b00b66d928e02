import Mandate.Datum

/-!
# Writing JSON

Writes a value tree as JSON text, on one line or indented. Numbers are written with the fewest
digits that read back, and always as numbers with a point.
-/

namespace Mandate.Json

variable {F : Type} [Scalar F]

def hexDigit (n : Nat) : Char :=
  Nat.digitChar n

/-- A numbered escape of four digits. -/
def unitEscape (n : Nat) : List Char :=
  ['\\', 'u', hexDigit (n / 4096 % 16), hexDigit (n / 256 % 16), hexDigit (n / 16 % 16),
    hexDigit (n % 16)]

/-- How a character is written inside a text. Line separators are escaped as the controls are, so
that a document stays on its line. -/
def escape (c : Char) : List Char :=
  if c = '"' then ['\\', '"']
  else if c = '\\' then ['\\', '\\']
  else if c = '\n' then ['\\', 'n']
  else if c = '\r' then ['\\', 'r']
  else if c = '\t' then ['\\', 't']
  else if c = '\x08' then ['\\', 'b']
  else if c = '\x0c' then ['\\', 'f']
  else if c.toNat < 0x20 ∨ c.toNat = 0x85 ∨ c.toNat = 0x2028 ∨ c.toNat = 0x2029 then
    unitEscape c.toNat
  else [c]

def quoted (s : String) : String :=
  String.ofList ('"' :: s.toList.flatMap escape ++ ['"'])

/-- The text of a tree without children. -/
def leaf : Datum F → String
  | .null => "null"
  | .bool b => if b then "true" else "false"
  | .int n => toString n
  | .num x => if Scalar.isFinite x then Scalar.pointed x else "null"
  | .text s => quoted s
  | .list _ => "[]"
  | .record _ => "\x7b\x7d"

/-! ## On one line -/

mutual

/-- The tree on one line. -/
def compact : Datum F → String
  | .list ds => "[" ++ ",".intercalate (compactItems ds) ++ "]"
  | .record fs => "\x7b" ++ ",".intercalate (compactFields fs) ++ "\x7d"
  | d => leaf d

/-- Each item on one line. -/
def compactItems : List (Datum F) → List String
  | [] => []
  | d :: ds => compact d :: compactItems ds

/-- Each field on one line. -/
def compactFields : List (String × Datum F) → List String
  | [] => []
  | (name, d) :: fs => (quoted name ++ ":" ++ compact d) :: compactFields fs

end

/-! ## Indented -/

/-- A line break and two blanks for each level. -/
def newline (level : Nat) : String :=
  String.ofList ('\n' :: List.replicate (2 * level) ' ')

/-- Parts between brackets, each on lines of its own. -/
def block (opening closing : String) (level : Nat) (parts : List String) : String :=
  if parts.isEmpty then opening ++ closing
  else opening ++ newline (level + 1) ++ ("," ++ newline (level + 1)).intercalate parts
    ++ newline level ++ closing

mutual

/-- The tree with every item and field on lines of its own. -/
def pretty (level : Nat) : Datum F → String
  | .list ds => block "[" "]" level (prettyItems (level + 1) ds)
  | .record fs => block "\x7b" "\x7d" level (prettyFields (level + 1) fs)
  | d => leaf d

def prettyItems (level : Nat) : List (Datum F) → List String
  | [] => []
  | d :: ds => pretty level d :: prettyItems level ds

def prettyFields (level : Nat) : List (String × Datum F) → List String
  | [] => []
  | (name, d) :: fs => (quoted name ++ ": " ++ pretty level d) :: prettyFields level fs

end

end Mandate.Json
