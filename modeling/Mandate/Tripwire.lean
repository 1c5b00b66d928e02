import Mandate.AuditId
import Mandate.Decision
import Mandate.History
import Mandate.Keyed
import Mandate.Resolution

/-!
# Tripwires

Probes are frames with a known reading. An agent's interpreter is asked to read them, and a wrong
reading is a failure; the share of recent failures is kept for each agent, apart from its drift.
-/

namespace Mandate

/-- The reading of a probe. -/
structure Answer where
  mode : String
  domain : String
  action : String
deriving DecidableEq

/-- What reads a frame, or cannot. -/
abbrev Interpreter := String → Option Answer

/-- A frame with its known reading. -/
structure Probe where
  id : AuditId
  frame : String
  expected : Answer
deriving DecidableEq

/-- A probe with the reading it was given. -/
structure Outcome where
  probe : Probe
  observed : Option Answer
  passed : Bool
deriving DecidableEq

/-- Some probes that one agent was given. -/
structure ProbeRun (F : Type) where
  agent : String
  passed : Nat
  failed : Nat
  /-- The share of recent failures after the run. -/
  failureRate : F
  outcomes : List Outcome
  ranAt : Instant

/-- The probes that an agent was given so far. -/
structure ProbeHistory where
  totalProbes : Nat
  totalFailures : Nat
  /-- Recent outcomes, true for a right reading. -/
  recent : List Bool
  lastRun : Option Instant
deriving DecidableEq

variable {F : Type}

/-! ## Reading and making probes -/

/-- The reading that resolving a frame gives. -/
def Resolution.answer (r : Resolution F) : Answer :=
  ⟨r.mode.symbol.name, r.domain.symbol.name, r.action.symbol.name⟩

/-- The interpreter that resolves frames. -/
def referenceInterpreter (F : Type) [Scalar F] (o : Ontology) (overlay : Option (Overlay F)) :
    Interpreter :=
  fun raw => (resolve? o overlay raw).map Resolution.answer

/-- The choice of a mode, a domain and an action for a probe, by places that are taken round. -/
structure Draw where
  mode : Nat
  domain : Nat
  action : Nat

/-- The symbol at a place of a list that is taken round. -/
def pick? (symbols : List Symbol) (place : Nat) : Option Symbol :=
  symbols[place % symbols.length]?

/-- The probe of a choice; none when the ontology has no symbol to choose from. -/
def Probe.ofDraw? (o : Ontology) (id : AuditId) (d : Draw) : Option Probe := do
  let mode ← pick? (o.ofCategory .mode) d.mode
  let domain ← pick? (o.ofCategory .domain) d.domain
  let action ← pick? (o.ofCategory .action) d.action
  return ⟨id, mode.token ++ domain.token ++ action.token, ⟨mode.name, domain.name, action.name⟩⟩

/-- As many probes as asked for, of successive choices. -/
def Probe.synthesize (o : Ontology) (id : AuditId) (draws : Nat → Draw) (count : Nat) :
    List Probe :=
  (List.range count).filterMap fun i => Probe.ofDraw? o id (draws i)

def Probe.pose (p : Probe) (interpreter : Interpreter) : Outcome :=
  let observed := interpreter p.frame
  ⟨p, observed, observed = some p.expected⟩

/-! ## Histories -/

namespace ProbeHistory

/-- No probe was given. -/
def blank : ProbeHistory :=
  ⟨0, 0, [], none⟩

/-- The share of failures among the recent outcomes. -/
def failureRate [Scalar F] (h : ProbeHistory) : F :=
  if h.recent.isEmpty then 0.0 else Scalar.share (h.recent.countP (!·)) h.recent.length

/-- The history after some more outcomes. -/
def add (h : ProbeHistory) (s : TripwireSettings) (now : Instant) (passed : List Bool) :
    ProbeHistory :=
  { totalProbes := h.totalProbes + passed.length
    totalFailures := h.totalFailures + passed.countP (!·)
    recent := passed.foldl (remember s.windowSize) h.recent
    lastRun := some now }

end ProbeHistory

/-- The histories of the agents that were given probes. -/
abbrev Tripwires := Keyed ProbeHistory

namespace Tripwires

def history (ts : Tripwires) (agent : String) : ProbeHistory :=
  (ts.get? agent).getD .blank

/-- The share of recent failures of an agent. -/
def failureRate [Scalar F] (ts : Tripwires) (agent : String) : F :=
  (ts.history agent).failureRate

/-- Gives probes to the interpreter of an agent. -/
def run [Scalar F] (ts : Tripwires) (s : TripwireSettings) (now : Instant) (agent : String)
    (interpreter : Interpreter) (probes : List Probe) : ProbeRun F × Tripwires :=
  let outcomes := probes.map (·.pose interpreter)
  let passed := outcomes.countP (·.passed)
  let history := (ts.history agent).add s now (outcomes.map (·.passed))
  (⟨agent, passed, outcomes.length - passed, history.failureRate, outcomes, now⟩,
    ts.insert agent history)

/-- Forgets an agent; the flag says whether it was known. -/
def reset (ts : Tripwires) (agent : String) : Bool × Tripwires :=
  (ts.contains agent, ts.erase agent)

end Tripwires
end Mandate
