/-!
# Text patterns

A pattern describes stretches of a text, seen in the text around them. The ways in which a pattern
can match from a place are listed in order of preference: of alternatives the first, of repetitions
the longest. `Pattern.Matches` says which stretches are in the language of a pattern, whatever the
preference.
-/

namespace Mandate

/-- A place in a text. -/
structure Cursor where
  /-- What stands before the place, nearest first. -/
  before : List Char
  after : List Char
deriving DecidableEq

/-- The place before the first character. -/
def Cursor.start (cs : List Char) : Cursor :=
  ⟨[], cs⟩

/-- The place one character further on. -/
def Cursor.next? (c : Cursor) : Option (Char × Cursor) :=
  match c.after with
  | [] => none
  | d :: ds => some (d, ⟨d :: c.before, ds⟩)

/-- A description of stretches of a text. -/
inductive Pattern where
  /-- One character of a class. -/
  | one (isIn : Char → Bool)
  /-- A place with a character of the class on exactly one side. -/
  | border (isIn : Char → Bool)
  | seq (first second : Pattern)
  | alt (first second : Pattern)
  /-- At least `least` times in a row, and at most `extra` times more if that is bounded. -/
  | times (least : Nat) (extra : Option Nat) (body : Pattern)
  /-- The empty stretch. -/
  | nothing

namespace Pattern

/-! ## The language of a pattern -/

/-- Whether the place is a border of the class. -/
def isBorder (isIn : Char → Bool) (c : Cursor) : Bool :=
  c.before.head?.any isIn != c.after.head?.any isIn

/-- A run of `n` steps, each from one place to the next. -/
inductive Run (step : Cursor → Cursor → Prop) : Nat → Cursor → Cursor → Prop where
  | done (c : Cursor) : Run step 0 c c
  | more {n : Nat} {c d e : Cursor} : step c d → Run step n d e → Run step (n + 1) c e

/-- The stretch between two places is in the language of the pattern. -/
def Matches : Pattern → Cursor → Cursor → Prop
  | one isIn, c, d => ∃ x, c.next? = some (x, d) ∧ isIn x = true
  | border isIn, c, d => d = c ∧ isBorder isIn c = true
  | seq p q, c, e => ∃ d, p.Matches c d ∧ q.Matches d e
  | alt p q, c, d => p.Matches c d ∨ q.Matches c d
  | times least extra p, c, d =>
    ∃ n, Run p.Matches n c d ∧ least ≤ n ∧ ∀ m ∈ extra, n ≤ least + m
  | nothing, c, d => d = c

/-! ## Matching in order of preference -/

/-- The ends of exactly `n` steps. -/
def exactly (step : Cursor → List Cursor) : Nat → Cursor → List Cursor
  | 0, c => [c]
  | n + 1, c => (step c).flatMap (exactly step n)

/-- The ends of at most `n` steps, those of more steps first. -/
def upTo (step : Cursor → List Cursor) : Nat → Cursor → List Cursor
  | 0, c => [c]
  | n + 1, c => (step c).flatMap (upTo step n) ++ [c]

/-- Where the pattern can end when it begins at a place, in order of preference. An unbounded
repetition ends after at most as many steps as characters are left, since each step takes one. -/
def ends : Pattern → Cursor → List Cursor
  | one isIn, c =>
    match c.next? with
    | some (x, d) => if isIn x then [d] else []
    | none => []
  | border isIn, c => if isBorder isIn c then [c] else []
  | seq p q, c => (p.ends c).flatMap q.ends
  | alt p q, c => p.ends c ++ q.ends c
  | times least extra p, c =>
    (exactly p.ends least c).flatMap fun d => upTo p.ends (extra.getD d.after.length) d
  | nothing, c => [c]

/-! ## All matches of a text -/

/-- The first place, from a place on, at which the pattern matches, with the preferred end. At most
`fuel` places are tried. -/
def firstFrom (p : Pattern) : Nat → Cursor → Option (Cursor × Cursor)
  | 0, _ => none
  | fuel + 1, c =>
    match p.ends c with
    | d :: _ => some (c, d)
    | [] => match c.next? with
      | some (_, d) => firstFrom p fuel d
      | none => none

/-- The matches from a place on, from left to right, each beginning where the one before has ended
or later. -/
def allFrom (p : Pattern) : Nat → Cursor → List (Cursor × Cursor)
  | 0, _ => []
  | fuel + 1, c =>
    match p.firstFrom (c.after.length + 1) c with
    | none => []
    | some (b, e) => (b, e) :: allFrom p fuel e

/-- The matches of a text. No two share a character and none is empty, so there are no more of them
than characters. -/
def findAll (p : Pattern) (cs : List Char) : List (Cursor × Cursor) :=
  p.allFrom (cs.length + 1) (.start cs)

/-! ## Building patterns -/

def all : List Pattern → Pattern
  | [] => nothing
  | [p] => p
  | p :: ps => seq p (all ps)

/-- One of several patterns, the first preferred. -/
def any : Pattern → List Pattern → Pattern
  | p, [] => p
  | p, q :: qs => alt p (any q qs)

def char (c : Char) : Pattern :=
  one (· == c)

def literal (s : String) : Pattern :=
  all (s.toList.map char)

/-- Once or not at all. -/
def optional (p : Pattern) : Pattern :=
  times 0 (some 1) p

end Pattern
end Mandate
