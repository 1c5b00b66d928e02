import Mandate.Report
import Mandate.Resolution
import Mandate.Text.Quoted

/-!
# Validation

The rules of the three tiers, each as a function from resolved frames to its finding, and the
reports on single frames, on a frame beside its parent, and on chains of delegation.
-/

namespace Mandate

variable {F : Type}

namespace Rule

/-! ## Structural rules -/

/-- The frame has enough symbols. -/
def checkLength (minimum : Nat) (f : Frame F) : Finding :=
  let n := f.symbols.length
  length.finding (minimum ≤ n)
    ("frame has " ++ toString n ++ " symbols")
    ("frame has " ++ toString n ++ " symbols, minimum is " ++ toString minimum)

/-- The first symbol is a mode. -/
def checkModeFirst (f : Frame F) : Finding :=
  modeFirst.finding (f.symbols.head?.any fun s => s.category = .mode)
    "mode leads the frame"
    (if (f.namesOf .mode).isEmpty then "frame has no mode symbol"
      else "mode symbol must be the first token")

/-- At most one symbol is a mode. -/
def checkSingleMode (f : Frame F) : Finding :=
  let n := (f.namesOf .mode).length
  singleMode.finding (n ≤ 1)
    "single mode symbol"
    ("frame has " ++ toString n ++ " mode symbols, at most one is allowed")

/-- Every token is known. -/
def checkRecognized (f : Frame F) : Finding :=
  recognized.finding f.unrecognized.isEmpty
    "all tokens recognized"
    (toString f.unrecognized.length ++ " unrecognized token(s) discarded: "
      ++ " ".intercalate f.unrecognized)

/-- The categories of which only the first symbol counts, the mode apart. -/
def singleSlotCategories : List Category :=
  [.domain, .action, .source, .entity]

/-- No slot has a second symbol. -/
def checkSingleSlots (f : Frame F) : Finding :=
  let crowded := singleSlotCategories.filter fun c => 1 < (f.namesOf c).length
  singleSlots.finding crowded.isEmpty
    "single-slot categories appear at most once"
    ("multiple symbols for " ++ ", ".intercalate (crowded.map Category.name)
      ++ "; only the first is used")

/-! ## Semantic rules -/

/-- The pairs of modes that contradict each other. -/
def contradictions : List (String × String) :=
  [("strict", "flexible"), ("strict", "forbidden")]

/-- No two modes contradict each other. -/
def checkOpposingModes (f : Frame F) : Finding :=
  let modes := f.namesOf .mode
  match contradictions.find? fun p => modes.contains p.1 && modes.contains p.2 with
  | none => opposingModes.finding true "no opposing modes" ""
  | some (a, b) =>
    opposingModes.finding false "" ("modes " ++ a ++ " and " ++ b ++ " are of opposite strictness")

/-- Nothing is executed in the forbidden mode. -/
def checkForbiddenMode (f : Frame F) : Finding :=
  forbiddenMode.finding (!((f.namesOf .mode).contains "forbidden" && f.hasAction "execute"))
    "no execution under forbidden mode"
    "execute action under the forbidden (exploratory) mode"

/-- Nothing is executed beside the forbidden constraint. -/
def checkForbiddenConstraint (f : Frame F) : Finding :=
  forbiddenConstraint.finding (!(f.hasConstraint "forbidden" && f.hasAction "execute"))
    "no execution alongside forbidden constraint"
    "execute action alongside the forbidden constraint; execution may be vetoed downstream"

/-- A frame that delegates names whom it delegates to. -/
def checkDelegateNamed (f : Frame F) : Finding :=
  delegateNamed.finding (!f.hasAction "delegate" || f.entity.isSome)
    "delegation target named"
    "delegate action without a target entity"

/-- No symbol is blocked by the overlay. -/
def checkNotBlocked (r : Resolution F) : Finding :=
  notBlocked.finding r.blockedPresent.isEmpty
    "no overlay-blocked symbols"
    ("symbol(s) " ++ " ".intercalate r.blockedPresent ++ " blocked by overlay "
      ++ r.overlay.getD "-")

/-! ## Chain rules -/

/-- Whether the child's effective mode is weaker than its parent's. -/
def isWeakened (parent child : Resolution F) : Bool :=
  match parent.modeStrength?, child.modeStrength? with
  | some p, some c => p < c
  | _, _ => false

/-- The child's mode is at least as strict as its parent's. -/
def checkModeKept (parent child : Resolution F) : Finding :=
  let strength (r : Resolution F) : String := toString (r.modeStrength?.getD 0).toNat
  let parentMode := parent.mode.symbol.name
  let childMode := child.mode.symbol.name
  modeKept.finding (!isWeakened parent child)
    ("child mode " ++ childMode ++ " preserves parent mode " ++ parentMode)
    ("child mode " ++ childMode ++ " (strength " ++ strength child
      ++ ") is weaker than parent mode " ++ parentMode ++ " (strength " ++ strength parent ++ ")")

/-- The child carries the forbidden constraint if its parent does. -/
def checkForbiddenKept (parent child : Resolution F) : Finding :=
  forbiddenKept.finding (!parent.isForbidden || child.isForbidden)
    "forbidden constraint propagated"
    "parent carries the forbidden constraint but the child does not"

/-- Whether both frames name a domain, and not the same one. -/
def isDomainChanged (parent child : Frame F) : Bool :=
  match parent.domain, child.domain with
  | some p, some c => p.name ≠ c.name
  | _, _ => false

/-- The child stays in its parent's domain. -/
def checkDomainKept (parent child : Resolution F) : Finding :=
  domainKept.finding (!isDomainChanged parent.frame child.frame)
    "domain continuous"
    ("domain changed from " ++ parent.domain.symbol.name ++ " to " ++ child.domain.symbol.name)

/-- The child keeps its parent's other constraints. -/
def checkConstraintsKept (parent child : Resolution F) : Finding :=
  let dropped := (parent.frame.constraints.map (·.name)).filter fun name =>
    name ≠ "forbidden" && !child.frame.hasConstraint name
  constraintsKept.finding dropped.isEmpty
    "inherited constraints kept"
    ("inherited constraint(s) dropped: " ++ ", ".intercalate dropped)

end Rule

/-! ## Reports -/

/-- What the rules on a single frame find. -/
def Resolution.localFindings (r : Resolution F) (minimum : Nat) : List Finding :=
  [Rule.checkLength minimum r.frame, Rule.checkModeFirst r.frame, Rule.checkSingleMode r.frame,
    Rule.checkRecognized r.frame, Rule.checkSingleSlots r.frame, Rule.checkOpposingModes r.frame,
    Rule.checkForbiddenMode r.frame, Rule.checkForbiddenConstraint r.frame,
    Rule.checkDelegateNamed r.frame, Rule.checkNotBlocked r]

/-- What the rules on a frame and its parent find. -/
def Resolution.chainFindings (parent child : Resolution F) : List Finding :=
  [Rule.checkModeKept parent child, Rule.checkForbiddenKept parent child,
    Rule.checkDomainKept parent child, Rule.checkConstraintsKept parent child]

/-- What a frame is checked against: the ontology, the overlay in force, and the least number of
symbols. -/
structure Validator (F : Type) where
  ontology : Ontology
  overlay : Option (Overlay F)
  minimum : Nat

namespace Validator

variable [Scalar F]

def resolve? (v : Validator F) (raw : String) : Option (Resolution F) :=
  Mandate.resolve? v.ontology v.overlay raw

/-- The findings on a parent, which may be unreadable, and its readable child. -/
def parentFindings (v : Validator F) (child : Resolution F) (parent : String) : List Finding :=
  match v.resolve? parent with
  | some p => p.chainFindings child
  | none =>
    [Rule.parentReadable.finding false ""
      ("parent frame " ++ Text.quoted parent ++ " has no recognized symbols")]

def findings (v : Validator F) (raw : String) (parent : Option String) : List Finding :=
  match v.resolve? raw with
  | none => [Rule.readable.finding false "" ("no recognized symbols in " ++ Text.quoted raw)]
  | some r => r.localFindings v.minimum ++ ((parent.map (v.parentFindings r)).getD [])

def validate (v : Validator F) (now : Instant) (raw : String) (parent : Option String) : Report :=
  .ofFindings raw parent (v.findings raw parent) now

/-- The reports on frames that each follow a parent. -/
def validateAfter (v : Validator F) (now : Instant) (parent : Option String) :
    List String → List Report
  | [] => []
  | raw :: raws => v.validate now raw parent :: validateAfter v now (some raw) raws

/-- The reports on a chain of delegation, its root first: one on each frame, beside the frame before
it. -/
def validateChain (v : Validator F) (now : Instant) (raws : List String) : List Report :=
  v.validateAfter now none raws

end Validator
end Mandate
