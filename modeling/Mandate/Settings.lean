import Mandate.Gate

/-!
# Settings

What a deployment may adjust. Every setting has a default; settings are usable when their check
finds no fault.
-/

namespace Mandate

variable {F : Type}

/-! ## Sections -/

/-- The base threshold of a gate and the bounds it is kept in. -/
structure GateSpec (F : Type) where
  base : F
  min : F
  max : F

/-- The baselines of agents and the scoring of drift. -/
structure BaselineSettings (F : Type) where
  /-- Records kept per agent. -/
  maxRecords : Nat
  frameWeight : F
  interpretationWeight : F
  behaviorWeight : F
  /-- The weight of the newest score in the running one. -/
  smoothing : F

structure BreakerSettings (F : Type) where
  /-- Failures in a row that open a circuit. -/
  failureThreshold : Nat
  /-- The score above which drift opens a circuit. -/
  criticalDrift : F
  /-- Drift alerts kept per agent. -/
  maxAlerts : Nat

/-- The gates and how their thresholds move. -/
structure GovernanceSettings (F : Type) where
  driftThreshold : GateSpec F
  conformanceDeviation : GateSpec F
  sayDoGap : GateSpec F
  reviewAutoPass : GateSpec F
  knowledgePromotion : GateSpec F
  threatActivation : GateSpec F
  /-- The size of the action vocabulary from which on the review floor rises. -/
  referenceVocabulary : Nat
  vocabularyFloor : F
  /-- By how much the floor rises with each doubling of the vocabulary. -/
  floorSlope : F
  floorCap : F

structure FloorSettings (F : Type) where
  conflictThreshold : F
  failureFloor : Nat
  uncertaintyCeiling : F

structure TripwireSettings where
  probesPerRun : Nat
  /-- Recent outcomes kept per agent. -/
  windowSize : Nat
deriving DecidableEq

structure Settings (F : Type) where
  /-- The least number of symbols in a frame. -/
  minSymbols : Nat
  baseline : BaselineSettings F
  breaker : BreakerSettings F
  governance : GovernanceSettings F
  floor : FloorSettings F
  tripwire : TripwireSettings
  /-- Records kept in the audit log. -/
  maxAuditEntries : Nat

def GovernanceSettings.spec (g : GovernanceSettings F) : Gate → GateSpec F
  | .driftThreshold => g.driftThreshold
  | .conformanceDeviation => g.conformanceDeviation
  | .sayDoGap => g.sayDoGap
  | .reviewAutoPass => g.reviewAutoPass
  | .knowledgePromotion => g.knowledgePromotion
  | .threatActivation => g.threatActivation

/-! ## Defaults -/

section Defaults

variable [Scalar F]

def BaselineSettings.default : BaselineSettings F :=
  ⟨256, 0.2, 0.4, 0.4, 0.5⟩

def BreakerSettings.default : BreakerSettings F :=
  ⟨5, 0.3, 50⟩

def GovernanceSettings.default : GovernanceSettings F where
  driftThreshold := ⟨0.30, 0.10, 0.50⟩
  conformanceDeviation := ⟨0.20, 0.05, 0.40⟩
  sayDoGap := ⟨0.25, 0.10, 0.50⟩
  reviewAutoPass := ⟨0.70, 0.50, 0.95⟩
  knowledgePromotion := ⟨0.75, 0.50, 0.95⟩
  threatActivation := ⟨0.60, 0.30, 0.90⟩
  referenceVocabulary := 32
  vocabularyFloor := 0.50
  floorSlope := 0.05
  floorCap := 0.60

def FloorSettings.default : FloorSettings F :=
  ⟨0.7, 5, 0.9⟩

def TripwireSettings.default : TripwireSettings :=
  ⟨8, 50⟩

def Settings.default : Settings F where
  minSymbols := 2
  baseline := .default
  breaker := .default
  governance := .default
  floor := .default
  tripwire := .default
  maxAuditEntries := 10000

end Defaults

/-! ## Checking -/

namespace Settings

/-- Why settings cannot be used. -/
inductive Error (F : Type) where
  | outOfRange (field : String) (value : F)
  | zero (field : String)
  | invertedBounds (gate : String) (min max : F)
  | baseOutOfBounds (gate : String) (base min max : F)

variable [Scalar F]

def Error.message : Error F → String
  | .outOfRange field value =>
    field ++ " must be finite and within [0, 1], got " ++ Scalar.plain value
  | .zero field => field ++ " must be greater than zero"
  | .invertedBounds gate min max =>
    "Gate " ++ gate ++ ": min " ++ Scalar.plain min ++ " must not exceed max " ++ Scalar.plain max
  | .baseOutOfBounds gate base min max =>
    "Gate " ++ gate ++ ": base threshold " ++ Scalar.plain base ++ " outside bounds ["
      ++ Scalar.plain min ++ ", " ++ Scalar.plain max ++ "]"

/-- A count that must not be zero. -/
def positive (field : String) (n : Nat) : Except (Error F) Unit :=
  if n = 0 then .error (.zero field) else .ok ()

/-- A number that must lie in the unit interval. -/
def unit (field : String) (x : F) : Except (Error F) Unit :=
  if Scalar.isFinite x ∧ 0.0 ≤ x ∧ x ≤ 1.0 then .ok () else .error (.outOfRange field x)

/-- Refuses with an error when the condition holds. -/
def refuseIf (condition : Prop) [Decidable condition] (e : Error F) : Except (Error F) Unit :=
  if condition then .error e else .ok ()

def checkBaseline (b : BaselineSettings F) : Except (Error F) Unit := do
  positive "baseline.max_records_per_agent" b.maxRecords
  unit "baseline.frame_weight" b.frameWeight
  unit "baseline.interpretation_weight" b.interpretationWeight
  unit "baseline.behavior_weight" b.behaviorWeight
  refuseIf (b.frameWeight + b.interpretationWeight + b.behaviorWeight ≤ 0.0)
    (.zero "baseline drift weights (sum)")
  unit "baseline.drift_smoothing" b.smoothing
  refuseIf (Scalar.same b.smoothing 0.0) (.zero "baseline.drift_smoothing")

def checkBreaker (c : BreakerSettings F) : Except (Error F) Unit := do
  positive "circuit_breaker.failure_threshold" c.failureThreshold
  unit "circuit_breaker.critical_drift_threshold" c.criticalDrift
  positive "circuit_breaker.max_alerts" c.maxAlerts

def checkGate (gate : Gate) (s : GateSpec F) : Except (Error F) Unit := do
  let field := "governance.gates." ++ gate.name
  unit (field ++ ".min") s.min
  unit (field ++ ".max") s.max
  refuseIf (s.min ≤ 0.0) (.zero (field ++ ".min"))
  refuseIf (s.max < s.min) (.invertedBounds gate.name s.min s.max)
  refuseIf (Scalar.isFinite s.base = false ∨ s.base < s.min ∨ s.max < s.base)
    (.baseOutOfBounds gate.name s.base s.min s.max)

def checkGovernance (g : GovernanceSettings F) : Except (Error F) Unit := do
  Gate.all.forM fun gate => checkGate gate (g.spec gate)
  positive "governance.reference_vocabulary_size" g.referenceVocabulary
  unit "governance.vocabulary_floor" g.vocabularyFloor
  unit "governance.vocabulary_floor_cap" g.floorCap
  refuseIf (g.floorCap < g.vocabularyFloor)
    (.invertedBounds "vocabulary_floor" g.vocabularyFloor g.floorCap)
  unit "governance.vocabulary_floor_slope" g.floorSlope

def checkFloor (f : FloorSettings F) : Except (Error F) Unit := do
  unit "immutable.conflict_threshold" f.conflictThreshold
  unit "immutable.uncertainty_ceiling" f.uncertaintyCeiling
  positive "immutable.failure_floor" f.failureFloor

/-- Checks all settings; the first fault is reported. -/
def check (s : Settings F) : Except (Error F) Unit := do
  positive "validator.min_symbols" s.minSymbols
  checkBaseline s.baseline
  checkBreaker s.breaker
  checkGovernance s.governance
  checkFloor s.floor
  positive "tripwire.window_size" s.tripwire.windowSize
  positive "audit.max_entries" s.maxAuditEntries

end Settings
end Mandate
