import Mandate.Document.Standing
import Mandate.Failure
import Mandate.Validation

/-!
# The engine

The engine joins the parts: it reads and checks frames, keeps the standing of agents, decides at
gates and leaves a record of what it does. An operation takes the standing of the agents and gives
its result, the standing after it and the records that it leaves.
-/

namespace Mandate

variable {F : Type}

/-! ## Parts -/

/-- What an engine works with. -/
structure Engine (F : Type) where
  settings : Settings F
  ontology : Ontology
  overlay : Option (Overlay F)

/-- What is known of the agents. -/
structure Standing (F : Type) where
  breakers : Breakers F
  baselines : Baselines F
  tripwires : Tripwires

/-- What comes of an operation. -/
structure Effect (F α : Type) where
  result : α
  standing : Standing F
  /-- The records that the operation leaves, in order. -/
  records : List (AuditRecord F)

structure GateRequest (F : Type) where
  gate : Gate
  observed : F
  mode : GovernanceMode
  /-- The agent whose circuit and failures count. -/
  agent : Option String
  uncertainty : Uncertainty F
  calibration : Calibration F
  vocabulary : Option Nat
  content : Option String
  conflict : F

/-- What came of one operation of an agent. -/
structure OperationReport (F : Type) where
  agent : String
  success : Bool
  baselineRecorded : Bool
  comparison : Option (Comparison F)
  transition : Option Transition
  /-- The agent may act after the operation. -/
  allowed : Bool

/-- Nothing is known of any agent. -/
def Standing.blank : Standing F :=
  ⟨∅, ∅, ∅⟩

namespace Engine

variable [Scalar F]

/-- The engine of some parts. The settings are checked before the overlay. -/
def build (settings : Settings F) (ontology : Ontology) (overlay : Option (Overlay F)) :
    Except (Failure F) (Engine F) :=
  match settings.check with
  | .error e => .error (.settings e)
  | .ok () =>
    match overlay.bind (·.check ontology) with
    | some e => .error (.overlay e)
    | none => .ok ⟨settings, ontology, overlay⟩

/-! ## Frames -/

def validator (e : Engine F) : Validator F :=
  ⟨e.ontology, e.overlay, e.settings.minSymbols⟩

def parse? (e : Engine F) (raw : String) : Option (Frame F) :=
  Frame.parse? e.ontology raw

def resolve? (e : Engine F) (raw : String) : Option (Resolution F) :=
  Mandate.resolve? e.ontology e.overlay raw

/-- The mode of governance that a raw frame implies. -/
def governanceMode? (e : Engine F) (raw : String) : Option GovernanceMode :=
  (e.resolve? raw).map fun r => .ofFrameMode r.mode.symbol.name

def validate (e : Engine F) (now : Instant) (raw : String) (parent : Option String) : Report :=
  e.validator.validate now raw parent

/-! ## Circuits -/

/-- Whether an agent may act. -/
def isAllowed (s : Standing F) (agent : String) : Bool :=
  s.breakers.isAllowed agent

def transitionRecord (now : Instant) (t : Transition) : AuditRecord F :=
  { timestamp := now
    event := match t.target with
      | .opened => .circuitOpened
      | .closed => .circuitClosed
    agent := some t.agent
    details := .record
      [("from", .text t.source.name), ("to", .text t.target.name), ("reason", .text t.reason)] }

/-- Lets an event happen to the circuit of an agent. -/
def circuitEvent (e : Engine F) (now : Instant) (agent : String) (event : Breakers.Event F)
    (s : Standing F) : Effect F (Option Transition) :=
  let (t, breakers) := s.breakers.handle e.settings.breaker now agent event
  ⟨t, { s with breakers }, t.toList.map (transitionRecord now)⟩

def recordFailure (e : Engine F) (now : Instant) (agent reason : String) (s : Standing F) :
    Effect F (Option Transition) :=
  e.circuitEvent now agent (.failure reason) s

/-- The record of a drift score, which only a score above zero or an undefined one leaves. -/
def driftRecords (now : Instant) (agent : String) (score : F) (reason : String) :
    List (AuditRecord F) :=
  if 0.0 < score ∨ Scalar.isNaN score then
    [⟨now, .driftDetected, some agent,
      .record [("score", .ofScalar score), ("reason", .text reason)]⟩]
  else []

def recordDrift (e : Engine F) (now : Instant) (agent : String) (score : F) (reason : String)
    (s : Standing F) : Effect F (Option Transition) :=
  let r := e.circuitEvent now agent (.drift score reason) s
  { r with records := driftRecords now agent score reason ++ r.records }

/-- Stops an agent at an operator's word. -/
def halt (e : Engine F) (now : Instant) (agent reason : String) (s : Standing F) :
    Effect F (Option Transition) :=
  let r := e.circuitEvent now agent (.halt reason) s
  { r with
    records := ⟨now, .agentHalted, some agent, .record [("reason", .text reason)]⟩ :: r.records }

/-- Lets an agent act again. -/
def resume (e : Engine F) (now : Instant) (agent : String) (s : Standing F) :
    Effect F (Option Transition) :=
  e.circuitEvent now agent (.close "operator resume") s

/-- Takes the agent's present behavior for the norm: forgets its drift and closes its circuit. -/
def recalibrate (e : Engine F) (now : Instant) (agent : String) (s : Standing F) :
    Effect F (Option Transition) :=
  let (_, baselines) := s.baselines.recalibrate now agent
  let r := e.circuitEvent now agent (.close "recalibrated") { s with baselines }
  { r with records := ⟨now, .agentRecalibrated, some agent, .record []⟩ :: r.records }

/-! ## Baselines -/

def baselineRecord (now : Instant) (agent : String) (f : Frame F)
    (more : List (String × Datum F)) : AuditRecord F :=
  ⟨now, .baselineRecorded, some agent,
    .record ([("frame", .text f.raw), ("identity", f.identity.toDatum)] ++ more)⟩

omit [Scalar F] in
@[simp] theorem event_baselineRecord (now : Instant) (agent : String) (f : Frame F)
    (more : List (String × Datum F)) :
    (baselineRecord now agent f more).event = .baselineRecorded := rfl

/-- Makes a baseline for an agent and says how many there are now; nothing happens for a frame that
cannot be read. -/
def recordBaseline (e : Engine F) (now : Instant) (agent raw interpretation : String)
    (behaviors : List String) (s : Standing F) : Effect F (Option Nat) :=
  match e.parse? raw with
  | none => ⟨none, s, []⟩
  | some f =>
    let (n, baselines) :=
      s.baselines.record e.settings.baseline now agent ⟨f, interpretation, behaviors⟩
    ⟨some n, { s with baselines }, [baselineRecord now agent f []]⟩

/-- Compares a run of an agent with its baseline, whatever its circuit is. -/
def compare (e : Engine F) (agent raw interpretation : String) (behaviors : List String)
    (s : Standing F) : Effect F (Option (Comparison F)) :=
  match e.parse? raw with
  | none => ⟨none, s, []⟩
  | some f =>
    let (c, baselines) :=
      s.baselines.compare e.settings.baseline agent ⟨f, interpretation, behaviors⟩
    ⟨some c, { s with baselines }, []⟩

/-! ## Operations -/

/-- The report of an operation of which nothing but its success is known. -/
def plainReport (agent : String) (success : Bool) (s : Standing F) : OperationReport F :=
  ⟨agent, success, false, none, none, isAllowed s agent⟩

/-- What a run on a readable frame brings. If it was compared and drifted, the drift is reported. -/
def observed (e : Engine F) (now : Instant) (agent label : String) (f : Frame F) (s : Standing F) :
    Observation F → Effect F (OperationReport F)
  | .learned n =>
    ⟨{ plainReport agent true s with baselineRecorded := true }, s,
      [baselineRecord now agent f [("records", .ofNat n)]]⟩
  | .compared c =>
    if 0.0 < c.score then
      let r := e.recordDrift now agent c.score ("operation " ++ label ++ " drifted on " ++ f.raw) s
      ⟨{ plainReport agent true r.standing with comparison := some c, transition := r.result },
        r.standing, r.records⟩
    else ⟨{ plainReport agent true s with comparison := some c }, s, []⟩
  | .unknown => ⟨plainReport agent true s, s, []⟩

/-- Takes in one operation of an agent. A failure counts against its circuit. A success ends a row
of failures; then the frame's first baseline is made, if the frame is valid and the agent may act,
or the operation is compared with the baseline. -/
def recordOperation (e : Engine F) (now : Instant) (agent raw label : String) (success : Bool)
    (s : Standing F) : Effect F (OperationReport F) :=
  if !success then
    let r := e.recordFailure now agent ("operation failed: " ++ label) s
    ⟨{ plainReport agent false r.standing with transition := r.result }, r.standing, r.records⟩
  else
    let r := e.circuitEvent now agent .success s
    match e.parse? raw with
    | none => ⟨plainReport agent true r.standing, r.standing, []⟩
    | some f =>
      let mayLearn := (e.validate now raw none).valid && isAllowed r.standing agent
      let (o, baselines) :=
        r.standing.baselines.observe e.settings.baseline now agent ⟨f, f.describe, [label]⟩ mayLearn
      e.observed now agent label f { r.standing with baselines } o

/-! ## Gates -/

def violationRecord (now : Instant) (v : Violation) : AuditRecord F :=
  ⟨now, .immutableViolation, none,
    .record
      [("constraint", .text v.constraint.id), ("action", .text v.action.name),
        ("message", .text v.message)]⟩

omit [Scalar F] in
@[simp] theorem event_violationRecord (now : Instant) (v : Violation) :
    (violationRecord (F := F) now v).event = .immutableViolation := rfl

def checkFloor (e : Engine F) (now : Instant) (signals : Signals F) (s : Standing F) :
    Effect F FloorVerdict :=
  let v := e.settings.floor.verdict signals
  ⟨v, s, v.violation.toList.map (violationRecord now)⟩

/-- What the floor looks at for a request: the failures are those of the agent. -/
def signals (s : Standing F) (r : GateRequest F) : Signals F :=
  { mode := r.mode
    content := r.content
    conflict := r.conflict
    failures := (r.agent.map s.breakers.failures).getD 0
    uncertainty := r.uncertainty.total }

/-- How the threshold for a request comes about. -/
def modulation (e : Engine F) (r : GateRequest F) : Modulation F :=
  e.settings.governance.modulate r.gate r.mode r.uncertainty r.calibration r.vocabulary

/-- The decision on a request once the floor has spoken. Where the floor holds, an open circuit
blocks. -/
def decision (e : Engine F) (stamp : Stamp) (s : Standing F) (r : GateRequest F)
    (v : FloorVerdict) : Decision F :=
  if v.passed && r.agent.any fun a => !isAllowed s a then
    .stop (e.modulation r) stamp r.observed .block "agent circuit is open" false none
  else .decide (e.modulation r) stamp r.observed v

/-- Decides at a gate. -/
def evaluateGate (e : Engine F) (stamp : Stamp) (r : GateRequest F) (s : Standing F) :
    Effect F (Decision F) :=
  let floor := e.checkFloor stamp.now (signals s r) s
  let d := e.decision stamp s r floor.result
  ⟨d, s, floor.records ++ [⟨stamp.now, .gateDecision, r.agent, d.toDatum⟩]⟩

/-! ## Tripwires -/

/-- Gives probes to the interpreter of an agent, as many as the settings say. -/
def runTripwires (e : Engine F) (stamp : Stamp) (agent : String) (interpreter : Interpreter)
    (draws : Nat → Draw) (s : Standing F) : Effect F (ProbeRun F) :=
  let probes := Probe.synthesize e.ontology stamp.id draws e.settings.tripwire.probesPerRun
  let (r, tripwires) := s.tripwires.run e.settings.tripwire stamp.now agent interpreter probes
  ⟨r, { s with tripwires },
    [⟨stamp.now, .tripwireRun, some agent,
      .record
        [("passed", .ofNat r.passed), ("failed", .ofNat r.failed),
          ("failure_rate", .ofScalar r.failureRate)]⟩]⟩

end Engine
end Mandate
