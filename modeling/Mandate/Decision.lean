import Mandate.AuditId
import Mandate.Floor
import Mandate.Modulation

/-!
# Gate decisions

A gate lets an operation pass, holds it for review, or blocks it. A violated floor decides first,
then the threshold.
-/

namespace Mandate

inductive GateAction where
  | allow
  | hold
  | block
deriving DecidableEq

def GateAction.all : List GateAction :=
  [.allow, .hold, .block]

def GateAction.name : GateAction → String
  | .allow => "allow"
  | .hold => "hold"
  | .block => "block"

/-- The action of a gate whose floor is violated. -/
def GateAction.ofFloor : FloorAction → GateAction
  | .hold => .hold
  | .block => .block

/-- A point in time and an id that no other decision has. -/
structure Stamp where
  now : Instant
  id : AuditId

/-- The outcome at a gate. -/
structure Decision (F : Type) where
  gate : Gate
  action : GateAction
  reason : String
  floorTriggered : Bool
  constraint : Option Constraint
  threshold : F
  observed : F
  auditId : AuditId
  decidedAt : Instant
deriving DecidableEq

namespace Decision

variable {F : Type}

/-- Whether the operation may pass. -/
def isAllowed (d : Decision F) : Bool :=
  d.action = .allow

/-- The decision for a reason other than the threshold. -/
def stop (m : Modulation F) (stamp : Stamp) (observed : F) (action : GateAction) (reason : String)
    (floorTriggered : Bool) (constraint : Option Constraint) : Decision F :=
  { gate := m.gate
    action
    reason
    floorTriggered
    constraint
    threshold := m.threshold
    observed
    auditId := stamp.id
    decidedAt := stamp.now }

variable [Scalar F]

def byThreshold (m : Modulation F) (stamp : Stamp) (observed : F) : Decision F :=
  if m.isViolatedBy observed then
    stop m stamp observed .hold
      ("observed " ++ Scalar.plain observed ++ " violates effective threshold "
        ++ Scalar.places 4 m.threshold ++ " (" ++ m.direction.label ++ ")")
      false none
  else
    stop m stamp observed .allow
      ("observed " ++ Scalar.plain observed ++ " within effective threshold "
        ++ Scalar.places 4 m.threshold)
      false none

/-- The decision when it is only known whether the floor holds; a violated floor blocks. -/
def byFloor (m : Modulation F) (stamp : Stamp) (observed : F) (passed : Bool) : Decision F :=
  if passed then byThreshold m stamp observed
  else stop m stamp observed .block "immutable constraint violated" true none

/-- The decision from what the floor says; a violated constraint decides by its own action. -/
def decide (m : Modulation F) (stamp : Stamp) (observed : F) (v : FloorVerdict) : Decision F :=
  match v.violation with
  | some w =>
    stop m stamp observed (.ofFloor w.action) (w.constraint.id ++ ": " ++ w.message) true
      (some w.constraint)
  | none => byFloor m stamp observed v.passed

end Decision
end Mandate
