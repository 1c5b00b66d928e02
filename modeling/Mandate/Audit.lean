import Mandate.Datum
import Mandate.History
import Mandate.Instant

/-!
# Audit trail

What the engine decides and what changes an agent's standing is recorded. The log keeps the newest
records up to its capacity.
-/

namespace Mandate

/-- What a record is about. -/
inductive AuditEvent where
  | gateDecision
  | immutableViolation
  | circuitOpened
  | circuitClosed
  | agentHalted
  | agentRecalibrated
  | baselineRecorded
  | driftDetected
  | tripwireRun
deriving DecidableEq

/-- A record of the audit trail. -/
structure AuditRecord (F : Type) where
  timestamp : Instant
  event : AuditEvent
  agent : Option String
  details : Datum F

def AuditEvent.all : List AuditEvent :=
  [.gateDecision, .immutableViolation, .circuitOpened, .circuitClosed, .agentHalted,
    .agentRecalibrated, .baselineRecorded, .driftDetected, .tripwireRun]

def AuditEvent.name : AuditEvent → String
  | .gateDecision => "gate_decision"
  | .immutableViolation => "immutable_violation"
  | .circuitOpened => "circuit_opened"
  | .circuitClosed => "circuit_closed"
  | .agentHalted => "agent_halted"
  | .agentRecalibrated => "agent_recalibrated"
  | .baselineRecorded => "baseline_recorded"
  | .driftDetected => "drift_detected"
  | .tripwireRun => "tripwire_run"

/-- The log of an audit trail, oldest record first. -/
structure AuditLog (F : Type) where
  capacity : Nat
  records : List (AuditRecord F)

namespace AuditLog

variable {F : Type}

/-- A log without records. -/
def blank (capacity : Nat) : AuditLog F :=
  ⟨capacity, []⟩

def add (log : AuditLog F) (r : AuditRecord F) : AuditLog F :=
  { log with records := remember log.capacity log.records r }

/-- The newest records, the newest first. -/
def recent (log : AuditLog F) (count : Nat) : List (AuditRecord F) :=
  log.records.reverse.take count

def ofEvent (log : AuditLog F) (event : AuditEvent) : List (AuditRecord F) :=
  log.records.filter fun r => r.event = event

/-- How many records there are. -/
def size (log : AuditLog F) : Nat :=
  log.records.length

end AuditLog
end Mandate
