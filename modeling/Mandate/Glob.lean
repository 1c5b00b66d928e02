/-!
# Tool name patterns

A pattern is a text in which each star stands for any run of characters, none included; every other
character stands for itself. A pattern is cut at its stars: the segment before the first star has to
begin the name, and the one after the last star has to end what is left of it. Between the two the
other segments are looked for in order, each at the first place at which it stands.
-/

namespace Mandate.Glob

/-- The first place at which a segment stands in a text. -/
def position? (segment : List Char) : List Char → Option Nat
  | [] => if segment.isEmpty then some 0 else none
  | c :: cs =>
    if segment.isPrefixOf (c :: cs) then some 0 else (position? segment cs).map (· + 1)

/-- Whether the segments are found in the text, each behind the first place of the one before it. -/
def findsInOrder : List (List Char) → List Char → Bool
  | [], _ => true
  | segment :: segments, text =>
    match position? segment text with
    | some place => findsInOrder segments (text.drop (place + segment.length))
    | none => false

/-- Whether the name has its outer segments at its ends, without overlap, and the others between
them. -/
def hasSegments (first : List Char) (middle : List (List Char)) (last name : List Char) : Bool :=
  if !first.isPrefixOf name then false
  else
    let behind := name.drop first.length
    if behind.length < last.length || !last.isSuffixOf behind then false
    else findsInOrder middle (behind.take (behind.length - last.length))

/-- Whether the characters of a name match those of a pattern. -/
def accepts (pattern name : List Char) : Bool :=
  if pattern = ['*'] then true
  else if !pattern.contains '*' then pattern = name
  else
    match pattern.splitOn '*' with
    | [] => false
    | first :: others =>
      match others.getLast? with
      | none => false
      | some last => hasSegments first others.dropLast last name

/-- Whether the name matches the pattern as a whole. -/
def isMatch (pattern name : String) : Bool :=
  accepts pattern.toList name.toList

end Mandate.Glob
