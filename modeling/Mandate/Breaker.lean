import Mandate.History
import Mandate.Instant
import Mandate.Keyed
import Mandate.Settings

/-!
# Circuit breakers

Each agent has a circuit. It opens when failures follow each other too often, when behavior drifts
too far or when an operator halts the agent, and it stays open until an operator closes it.
-/

namespace Mandate

/-- Whether an agent may act. -/
inductive Circuit where
  | closed
  | opened
deriving DecidableEq

def Circuit.all : List Circuit :=
  [.closed, .opened]

def Circuit.name : Circuit → String
  | .closed => "closed"
  | .opened => "open"

/-- A drift score that was reported for an agent. -/
structure DriftAlert (F : Type) where
  score : F
  reason : String
  /-- The score was too high. -/
  critical : Bool
  raisedAt : Instant
deriving DecidableEq

/-- A change of a circuit's state. -/
structure Transition where
  agent : String
  source : Circuit
  target : Circuit
  reason : String
deriving DecidableEq

/-- The circuit breaker of one agent. -/
structure Breaker (F : Type) where
  agent : String
  circuit : Circuit
  consecutiveFailures : Nat
  totalFailures : Nat
  openedAt : Option Instant
  openReason : Option String
  lastFailureAt : Option Instant
  alerts : List (DriftAlert F)
  updatedAt : Instant
deriving DecidableEq

variable {F : Type}

namespace Breaker

/-! ## One breaker -/

/-- The breaker of an agent of whom nothing is known. -/
def fresh (agent : String) (now : Instant) : Breaker F :=
  ⟨agent, .closed, 0, 0, none, none, none, [], now⟩

def isOpen (b : Breaker F) : Bool :=
  b.circuit = .opened

/-- Opens the circuit, unless it is open. -/
def trip (b : Breaker F) (now : Instant) (reason : String) : Option Transition × Breaker F :=
  if b.isOpen then (none, { b with updatedAt := now })
  else
    (some ⟨b.agent, .closed, .opened, reason⟩,
      { b with
        circuit := .opened, openedAt := some now, openReason := some reason, updatedAt := now })

/-- Closes the circuit and forgets the failures in a row. -/
def close (b : Breaker F) (now : Instant) (reason : String) : Option Transition × Breaker F :=
  (if b.isOpen then some ⟨b.agent, .opened, .closed, reason⟩ else none,
    { b with
      circuit := .closed, consecutiveFailures := 0, openedAt := none, openReason := none,
      updatedAt := now })

/-- The greatest count of failures in a row; more are not counted. -/
def countLimit : Nat :=
  UInt32.size - 1

/-- Counts a failure; enough of them in a row open the circuit. -/
def fail (b : Breaker F) (s : BreakerSettings F) (now : Instant) (reason : String) :
    Option Transition × Breaker F :=
  let failures := min (b.consecutiveFailures + 1) countLimit
  let counted :=
    { b with
      consecutiveFailures := failures, totalFailures := b.totalFailures + 1,
      lastFailureAt := some now, updatedAt := now }
  if s.failureThreshold ≤ failures then
    counted.trip now (toString failures ++ " consecutive failures, last: " ++ reason)
  else (none, counted)

/-- Forgets the failures in a row while the circuit is closed. -/
def succeed (b : Breaker F) (now : Instant) : Breaker F :=
  if b.circuit = .closed ∧ 0 < b.consecutiveFailures then
    { b with consecutiveFailures := 0, updatedAt := now }
  else b

/-- Keeps a drift alert; a score that is too high opens the circuit. -/
def drift [Scalar F] (b : Breaker F) (s : BreakerSettings F) (now : Instant) (score : F)
    (reason : String) : Option Transition × Breaker F :=
  let critical := Scalar.exceeds score s.criticalDrift
  let alerted :=
    { b with
      alerts := remember s.maxAlerts b.alerts ⟨score, reason, critical, now⟩, updatedAt := now }
  if critical then
    alerted.trip now ("critical drift " ++ Scalar.places 3 score ++ ": " ++ reason)
  else (none, alerted)

/-- Opens the circuit at an operator's word. -/
def halt (b : Breaker F) (now : Instant) (reason : String) : Option Transition × Breaker F :=
  b.trip now ("halted: " ++ reason)

/-! ## Open or closed after an operation -/

@[simp] theorem isOpen_trip (b : Breaker F) (now : Instant) (reason : String) :
    (b.trip now reason).2.isOpen = true := by
  unfold trip
  split
  next h => exact h
  next => rfl

theorem isOpen_fail (b : Breaker F) (s : BreakerSettings F) (now : Instant) (reason : String) :
    (b.fail s now reason).2.isOpen =
      (b.isOpen || s.failureThreshold ≤ min (b.consecutiveFailures + 1) countLimit) := by
  simp only [fail]
  split
  next h => simp [h]
  next h => simp [h, isOpen]

@[simp] theorem isOpen_succeed (b : Breaker F) (now : Instant) :
    (b.succeed now).isOpen = b.isOpen := by
  unfold succeed
  split <;> rfl

theorem isOpen_drift [Scalar F] (b : Breaker F) (s : BreakerSettings F) (now : Instant) (score : F)
    (reason : String) :
    (b.drift s now score reason).2.isOpen =
      (b.isOpen || Scalar.exceeds score s.criticalDrift) := by
  simp only [drift]
  split
  next h => simp [h]
  next h => simp [h, isOpen]

@[simp] theorem isOpen_halt (b : Breaker F) (now : Instant) (reason : String) :
    (b.halt now reason).2.isOpen = true :=
  isOpen_trip ..

/-! ## Failures and alerts after an operation -/

/-- What a breaker keeps beside the state of its circuit. -/
structure Memory (F : Type) where
  consecutiveFailures : Nat
  totalFailures : Nat
  lastFailureAt : Option Instant
  alerts : List (DriftAlert F)

def memory (b : Breaker F) : Memory F :=
  ⟨b.consecutiveFailures, b.totalFailures, b.lastFailureAt, b.alerts⟩

@[simp] theorem memory_trip (b : Breaker F) (now : Instant) (reason : String) :
    (b.trip now reason).2.memory = b.memory := by
  unfold trip
  split <;> rfl

theorem memory_fail (b : Breaker F) (s : BreakerSettings F) (now : Instant) (reason : String) :
    (b.fail s now reason).2.memory =
      { b.memory with
        consecutiveFailures := min (b.consecutiveFailures + 1) countLimit
        totalFailures := b.totalFailures + 1
        lastFailureAt := some now } := by
  simp only [fail]
  split
  next => exact memory_trip ..
  next => rfl

/-- A success ends a row of failures only while the circuit is closed. -/
theorem memory_succeed (b : Breaker F) (now : Instant) :
    (b.succeed now).memory =
      { b.memory with consecutiveFailures := if b.isOpen then b.consecutiveFailures else 0 } := by
  unfold succeed
  cases h : b.circuit with
  | closed =>
      by_cases hz : 0 < b.consecutiveFailures
      · simp [memory, isOpen, h, hz]
      · simp [memory, isOpen, h, Nat.eq_zero_of_not_pos hz]
  | opened => simp [memory, isOpen, h]

theorem memory_drift [Scalar F] (b : Breaker F) (s : BreakerSettings F) (now : Instant) (score : F)
    (reason : String) :
    (b.drift s now score reason).2.memory =
      { b.memory with
        alerts := remember s.maxAlerts b.alerts
          ⟨score, reason, Scalar.exceeds score s.criticalDrift, now⟩ } := by
  simp only [drift]
  split
  next => exact memory_trip ..
  next => rfl

@[simp] theorem memory_halt (b : Breaker F) (now : Instant) (reason : String) :
    (b.halt now reason).2.memory = b.memory :=
  memory_trip ..

@[simp] theorem consecutiveFailures_fail (b : Breaker F) (s : BreakerSettings F) (now : Instant)
    (reason : String) :
    (b.fail s now reason).2.consecutiveFailures = min (b.consecutiveFailures + 1) countLimit :=
  congrArg Memory.consecutiveFailures (memory_fail ..)

theorem consecutiveFailures_succeed (b : Breaker F) (now : Instant) :
    (b.succeed now).consecutiveFailures = if b.isOpen then b.consecutiveFailures else 0 :=
  congrArg Memory.consecutiveFailures (memory_succeed ..)

@[simp] theorem consecutiveFailures_drift [Scalar F] (b : Breaker F) (s : BreakerSettings F)
    (now : Instant) (score : F) (reason : String) :
    (b.drift s now score reason).2.consecutiveFailures = b.consecutiveFailures :=
  congrArg Memory.consecutiveFailures (memory_drift ..)

end Breaker

/-! ## The breakers of all agents -/

/-- The breakers of the agents that anything is known of. -/
abbrev Breakers (F : Type) := Keyed (Breaker F)

namespace Breakers

/-- The breaker of an agent, a fresh one if nothing is known. -/
def breaker (bs : Breakers F) (agent : String) (now : Instant) : Breaker F :=
  (bs.get? agent).getD (.fresh agent now)

/-- Whether an agent may act: its circuit is not open. -/
def isAllowed (bs : Breakers F) (agent : String) : Bool :=
  !(bs.get? agent).any Breaker.isOpen

/-- How many failures in a row an agent has. -/
def failures (bs : Breakers F) (agent : String) : Nat :=
  ((bs.get? agent).map (·.consecutiveFailures)).getD 0

/-- The agents whose circuit is open, in increasing order. -/
def openAgents (bs : Breakers F) : List String :=
  (bs.entries.filter fun e => e.2.isOpen).map (·.1)

inductive Event (F : Type) where
  | failure (reason : String)
  | success
  | drift (score : F) (reason : String)
  | halt (reason : String)
  | close (reason : String)
  /-- Forgets the agent. -/
  | reset

/-- The breaker of an agent after an event, and the transition that it caused. An agent of whom
nothing is known is only met by what speaks against it. -/
def Event.apply [Scalar F] (s : BreakerSettings F) (now : Instant) (agent : String)
    (known : Option (Breaker F)) : Event F → Option Transition × Option (Breaker F)
  | failure reason => ((known.getD (.fresh agent now)).fail s now reason).map id some
  | success => (none, known.map (·.succeed now))
  | drift score reason => ((known.getD (.fresh agent now)).drift s now score reason).map id some
  | halt reason => ((known.getD (.fresh agent now)).halt now reason).map id some
  | close reason =>
    match known with
    | some b => (b.close now reason).map id some
    | none => (none, none)
  | reset => (none, none)

/-- The breakers after an event for an agent, and the transition that it caused. -/
def handle [Scalar F] (s : BreakerSettings F) (now : Instant) (agent : String) (e : Event F)
    (bs : Breakers F) : Option Transition × Breakers F :=
  match e.apply s now agent (bs.get? agent) with
  | (t, some b) => (t, bs.insert agent b)
  | (t, none) => (t, bs.erase agent)

end Breakers
end Mandate
