import Mandate.Gate
import Mandate.Sensitive
import Mandate.Settings

/-!
# The immutable floor

Five constraints that are checked before any threshold and that nothing can loosen. Each can only
hold an operation for review or block it; the first that is violated decides.
-/

namespace Mandate

/-- The constraints of the floor, in order of priority. -/
inductive Constraint where
  | forbiddenMode
  | sensitiveData
  | conflictCoefficient
  | consecutiveFailures
  | uncertaintyCeiling
deriving DecidableEq

/-- What the floor does when a constraint is violated. -/
inductive FloorAction where
  /-- A human has to review. -/
  | hold
  | block
deriving DecidableEq

def FloorAction.all : List FloorAction :=
  [.hold, .block]

def FloorAction.name : FloorAction → String
  | .hold => "hold"
  | .block => "block"

namespace Constraint

def all : List Constraint :=
  [.forbiddenMode, .sensitiveData, .conflictCoefficient, .consecutiveFailures, .uncertaintyCeiling]

def name : Constraint → String
  | .forbiddenMode => "forbidden_mode"
  | .sensitiveData => "sensitive_data"
  | .conflictCoefficient => "conflict_coefficient"
  | .consecutiveFailures => "consecutive_failures"
  | .uncertaintyCeiling => "uncertainty_ceiling"

def id : Constraint → String
  | .forbiddenMode => "IMM-001"
  | .sensitiveData => "IMM-002"
  | .conflictCoefficient => "IMM-003"
  | .consecutiveFailures => "IMM-004"
  | .uncertaintyCeiling => "IMM-005"

/-- What the floor does when the constraint is violated. -/
def action : Constraint → FloorAction
  | .sensitiveData | .conflictCoefficient => .hold
  | .forbiddenMode | .consecutiveFailures | .uncertaintyCeiling => .block

end Constraint

structure Violation where
  constraint : Constraint
  action : FloorAction
  message : String
  hits : List SensitiveMatch
deriving DecidableEq

structure FloorVerdict where
  passed : Bool
  violation : Option Violation
deriving DecidableEq

structure Signals (F : Type) where
  mode : GovernanceMode
  content : Option String
  conflict : F
  failures : Nat
  uncertainty : F

namespace FloorVerdict

/-- The floor holds. -/
def pass : FloorVerdict :=
  ⟨true, none⟩

def violated (constraint : Constraint) (message : String) (hits : List SensitiveMatch) :
    FloorVerdict :=
  ⟨false, some ⟨constraint, constraint.action, message, hits⟩⟩

end FloorVerdict

/-- The kinds of some hits, each once, by their names. -/
def kindsFound (hits : List SensitiveMatch) : String :=
  ", ".intercalate <|
    (SensitiveKind.all.filter fun k => hits.any fun h => h.kind = k).map SensitiveKind.label

/-- The first violated constraint, if any. -/
def FloorSettings.verdict {F : Type} [Scalar F] (s : FloorSettings F) (signals : Signals F) :
    FloorVerdict :=
  let hits := (signals.content.map Sensitive.scan).getD []
  if signals.mode = .forbidden then
    .violated .forbiddenMode "forbidden mode is always blocked" []
  else if !hits.isEmpty then
    .violated .sensitiveData ("sensitive data detected: " ++ kindsFound hits) hits
  else if Scalar.exceeds signals.conflict s.conflictThreshold then
    .violated .conflictCoefficient
      ("conflict coefficient " ++ Scalar.plain signals.conflict ++ " exceeds "
        ++ Scalar.plain s.conflictThreshold) []
  else if s.failureFloor ≤ signals.failures then
    .violated .consecutiveFailures
      (toString signals.failures ++ " consecutive failures reached the floor of "
        ++ toString s.failureFloor) []
  else if Scalar.exceeds signals.uncertainty s.uncertaintyCeiling then
    .violated .uncertaintyCeiling
      ("total uncertainty " ++ Scalar.plain signals.uncertainty ++ " exceeds ceiling "
        ++ Scalar.plain s.uncertaintyCeiling) []
  else .pass

end Mandate
