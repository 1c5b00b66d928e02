import Mandate.Ontology

/-!
# Tokens of a frame

A raw frame is cut into the longest tokens that the ontology knows; a character at which no known
token begins is a token of its own, an unknown one. The longest token is looked for by its length:
from the longest one that the table has, or what is left of the frame if that is shorter, downwards.
-/

namespace Mandate

/-- A piece of a raw frame. -/
inductive Token where
  | known (symbol : Symbol)
  | unknown (char : Char)
deriving DecidableEq

def Token.text : Token → List Char
  | .known s => s.token.toList
  | .unknown c => [c]

def Token.symbol? : Token → Option Symbol
  | .known s => some s
  | .unknown _ => none

def Token.unknown? : Token → Option Char
  | .known _ => none
  | .unknown c => some c

namespace Ontology

/-- The longest token among the beginnings of the text up to a length, with its own length. -/
def hitUpTo? (o : Ontology) (cs : List Char) : Nat → Option (Symbol × Nat)
  | 0 => none
  | length + 1 =>
    match o.lookup? (String.ofList (cs.take (length + 1))) with
    | some s => some (s, length + 1)
    | none => o.hitUpTo? cs length

/-- The longest token that begins the text, with its length. -/
def hit? (o : Ontology) (cs : List Char) : Option (Symbol × Nat) :=
  o.hitUpTo? cs (min o.width cs.length)

/-- The tokens of a text without ignorable characters, once `skip` more characters of the token
before are past. -/
def tokensAfter (o : Ontology) : Nat → List Char → List Token
  | _, [] => []
  | skip + 1, _ :: cs => tokensAfter o skip cs
  | 0, c :: cs =>
    match o.hit? (c :: cs) with
    | some (s, length) => .known s :: tokensAfter o (length - 1) cs
    | none => .unknown c :: tokensAfter o 0 cs

def tokenize (o : Ontology) (raw : String) : List Token :=
  o.tokensAfter 0 (significant raw)

end Ontology
end Mandate
