/-!
# Texts in TOML

Reading the four forms of a text: on one line or over several, with escapes or without.
-/

namespace Mandate.Toml

/-! ## Blanks and line ends -/

/-- Whether a character may stand in a comment or text as it is: no control but the tab. -/
def isPlain (c : Char) : Bool :=
  c = '\t' || (0x20 ≤ c.toNat && c.toNat ≠ 0x7f)

/-- A blank within a line. -/
def isBlank (c : Char) : Bool :=
  c = ' ' || c = '\t'

def skipBlank (cs : List Char) : List Char :=
  cs.dropWhile isBlank

def lineEnd? : List Char → Option (List Char)
  | '\n' :: cs => some cs
  | '\r' :: '\n' :: cs => some cs
  | _ => none

/-- Drops blanks, line ends and comments; the flag says that a comment is open. -/
def skipLines : Bool → List Char → List Char
  | _, [] => []
  | _, '\n' :: cs => skipLines false cs
  | _, '\r' :: '\n' :: cs => skipLines false cs
  | true, c :: cs => if isPlain c then skipLines true cs else c :: cs
  | false, c :: cs =>
    if isBlank c then skipLines false cs else if c = '#' then skipLines true cs else c :: cs

/-- What follows the end of a line that may still hold a comment; the document may end there. -/
def trailing? (cs : List Char) : Option (List Char) :=
  let rest := match skipBlank cs with
    | '#' :: cs => cs.dropWhile isPlain
    | cs => cs
  if rest = [] then some [] else lineEnd? rest

/-! ## Escapes -/

def hexDigit? (c : Char) : Option Nat :=
  if '0' ≤ c ∧ c ≤ '9' then some (c.toNat - '0'.toNat)
  else if 'a' ≤ c ∧ c ≤ 'f' then some (c.toNat - 'a'.toNat + 10)
  else if 'A' ≤ c ∧ c ≤ 'F' then some (c.toNat - 'A'.toNat + 10)
  else none

/-- The character whose number is written with so many hexadecimal digits. -/
def numbered? (width : Nat) (cs : List Char) : Option (Char × List Char) := do
  let ds ← (cs.take width).mapM hexDigit?
  let n := ds.foldl (fun n d => 16 * n + d) 0
  if ds.length = width ∧ n.isValidChar then return (Char.ofNat n, cs.drop width) else none

/-- The character that an escape stands for, after its backslash. -/
def escaped? : List Char → Option (Char × List Char)
  | 'b' :: cs => some ('\x08', cs)
  | 't' :: cs => some ('\t', cs)
  | 'n' :: cs => some ('\n', cs)
  | 'f' :: cs => some ('\x0c', cs)
  | 'r' :: cs => some ('\r', cs)
  | '"' :: cs => some ('"', cs)
  | '\\' :: cs => some ('\\', cs)
  | 'u' :: cs => numbered? 4 cs
  | 'U' :: cs => numbered? 8 cs
  | _ => none

/-! ## Texts on one line -/

/-- A text with escapes, after its opening quote. -/
def basicBody : Nat → List Char → Option (List Char × List Char)
  | 0, _ => none
  | fuel + 1, cs =>
    match cs with
    | [] => none
    | '"' :: cs => some ([], cs)
    | '\\' :: cs => do
      let (c, cs) ← escaped? cs
      let (body, cs) ← basicBody fuel cs
      return (c :: body, cs)
    | c :: cs =>
      if isPlain c then do
        let (body, cs) ← basicBody fuel cs
        return (c :: body, cs)
      else none

/-- A text without escapes, after its opening quote. -/
def literalBody (cs : List Char) : Option (List Char × List Char) :=
  let isInside (c : Char) : Bool := isPlain c && c != '\''
  match cs.dropWhile isInside with
  | '\'' :: rest => some (cs.takeWhile isInside, rest)
  | _ => none

/-! ## Texts over several lines -/

/-- What follows a backslash at the end of a line: the line end and all blanks after it count for
nothing. -/
def continued? (cs : List Char) : Option (List Char) :=
  (lineEnd? (skipBlank cs)).map fun cs => go false cs
where
  /-- Drops blanks and line ends; the flag says that a carriage return is pending. -/
  go : Bool → List Char → List Char
    | true, '\n' :: cs => go false cs
    | true, cs => '\r' :: cs
    | false, c :: cs =>
      if isBlank c || c = '\n' then go false cs else if c = '\r' then go true cs else c :: cs
    | false, [] => []

/-- A text over several lines, after its opening quotes. Up to two quotes may stand right before the
three that close it. -/
def blockBody (quote : Char) (hasEscapes : Bool) : Nat → List Char → Option (List Char × List Char)
  | 0, _ => none
  | fuel + 1, cs =>
    let quotes := (cs.takeWhile (· = quote)).length
    if 3 ≤ quotes then
      if quotes ≤ 5 then some (List.replicate (quotes - 3) quote, cs.drop quotes) else none
    else
      match cs with
      | [] => none
      | c :: rest =>
        if c = '\\' ∧ hasEscapes then
          match continued? rest with
          | some rest => blockBody quote hasEscapes fuel rest
          | none => do
            let (e, rest) ← escaped? rest
            let (body, rest) ← blockBody quote hasEscapes fuel rest
            return (e :: body, rest)
        else
          match lineEnd? cs with
          | some rest => do
            let (body, rest) ← blockBody quote hasEscapes fuel rest
            return ('\n' :: body, rest)
          | none =>
            if isPlain c then do
              let (body, rest) ← blockBody quote hasEscapes fuel rest
              return (c :: body, rest)
            else none

/-- A line end right after the opening quotes does not count. -/
def block? (quote : Char) (hasEscapes : Bool) (cs : List Char) :
    Option (List Char × List Char) :=
  blockBody quote hasEscapes (cs.length + 1) ((lineEnd? cs).getD cs)

def lineText? : List Char → Option (String × List Char)
  | '"' :: cs => (basicBody (cs.length + 1) cs).map fun r => (String.ofList r.1, r.2)
  | '\'' :: cs => (literalBody cs).map fun r => (String.ofList r.1, r.2)
  | _ => none

def text? : List Char → Option (String × List Char)
  | '"' :: '"' :: '"' :: cs => (block? '"' true cs).map fun r => (String.ofList r.1, r.2)
  | '\'' :: '\'' :: '\'' :: cs => (block? '\'' false cs).map fun r => (String.ofList r.1, r.2)
  | cs => lineText? cs

end Mandate.Toml
