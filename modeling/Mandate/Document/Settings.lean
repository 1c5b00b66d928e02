import Mandate.Datum.Fields
import Mandate.Settings

/-!
# Settings as documents

The written form of the settings, one record for each section. What is missing has its default,
except that a gate which is mentioned is given whole. Numbers are kept when they are not finite, for
TOML has words for them.
-/

namespace Mandate

variable {F : Type}

def countBound : Nat :=
  UInt64.size

/-- The limit of a count of failures. -/
def failureBound : Nat :=
  UInt32.size

/-! ## Writing -/

section Writing

variable [Scalar F]

def GateSpec.toDatum (s : GateSpec F) : Datum F :=
  .record [("base", .num s.base), ("min", .num s.min), ("max", .num s.max)]

def BaselineSettings.toDatum (s : BaselineSettings F) : Datum F :=
  .record
    [("max_records_per_agent", .ofNat s.maxRecords),
      ("frame_weight", .num s.frameWeight),
      ("interpretation_weight", .num s.interpretationWeight),
      ("behavior_weight", .num s.behaviorWeight),
      ("drift_smoothing", .num s.smoothing)]

def BreakerSettings.toDatum (s : BreakerSettings F) : Datum F :=
  .record
    [("failure_threshold", .ofNat s.failureThreshold),
      ("critical_drift_threshold", .num s.criticalDrift),
      ("max_alerts", .ofNat s.maxAlerts)]

def GovernanceSettings.toDatum (s : GovernanceSettings F) : Datum F :=
  .record
    [("gates", .record (Gate.all.map fun g => (g.name, (s.spec g).toDatum))),
      ("reference_vocabulary_size", .ofNat s.referenceVocabulary),
      ("vocabulary_floor", .num s.vocabularyFloor),
      ("vocabulary_floor_slope", .num s.floorSlope),
      ("vocabulary_floor_cap", .num s.floorCap)]

def FloorSettings.toDatum (s : FloorSettings F) : Datum F :=
  .record
    [("conflict_threshold", .num s.conflictThreshold),
      ("failure_floor", .ofNat s.failureFloor),
      ("uncertainty_ceiling", .num s.uncertaintyCeiling)]

def TripwireSettings.toDatum (s : TripwireSettings) : Datum F :=
  .record [("probes_per_run", .ofNat s.probesPerRun), ("window_size", .ofNat s.windowSize)]

def Settings.toDatum (s : Settings F) : Datum F :=
  .record
    [("validator", .record [("min_symbols", .ofNat s.minSymbols)]),
      ("baseline", s.baseline.toDatum),
      ("circuit_breaker", s.breaker.toDatum),
      ("governance", s.governance.toDatum),
      ("immutable", s.floor.toDatum),
      ("tripwire", s.tripwire.toDatum),
      ("audit", .record [("max_entries", .ofNat s.maxAuditEntries)])]

end Writing

/-! ## Reading -/

/-- Reads a section with a single count. -/
def countSection? (dialect : Dialect) (name : String) (default : Nat) (d : Datum F) :
    Option Nat := do
  let f ← d.fields? dialect [name]
  f.withDefault name default (Datum.count? countBound)

def TripwireSettings.ofDatum? (dialect : Dialect) (d : Datum F) : Option TripwireSettings := do
  let f ← d.fields? dialect ["probes_per_run", "window_size"]
  let base := TripwireSettings.default
  let probesPerRun ← f.withDefault "probes_per_run" base.probesPerRun (Datum.count? countBound)
  let windowSize ← f.withDefault "window_size" base.windowSize (Datum.count? countBound)
  return { probesPerRun, windowSize }

variable [Scalar F]

def GateSpec.ofDatum? (dialect : Dialect) (d : Datum F) : Option (GateSpec F) := do
  let f ← d.fields? dialect ["base", "min", "max"]
  let base ← f.required "base" Datum.scalar?
  let min ← f.required "min" Datum.scalar?
  let max ← f.required "max" Datum.scalar?
  return { base, min, max }

def BaselineSettings.ofDatum? (dialect : Dialect) (d : Datum F) :
    Option (BaselineSettings F) := do
  let f ← d.fields? dialect
    ["max_records_per_agent", "frame_weight", "interpretation_weight", "behavior_weight",
      "drift_smoothing"]
  let base : BaselineSettings F := .default
  let maxRecords ← f.withDefault "max_records_per_agent" base.maxRecords (Datum.count? countBound)
  let frameWeight ← f.withDefault "frame_weight" base.frameWeight Datum.scalar?
  let interpretationWeight ←
    f.withDefault "interpretation_weight" base.interpretationWeight Datum.scalar?
  let behaviorWeight ← f.withDefault "behavior_weight" base.behaviorWeight Datum.scalar?
  let smoothing ← f.withDefault "drift_smoothing" base.smoothing Datum.scalar?
  return { maxRecords, frameWeight, interpretationWeight, behaviorWeight, smoothing }

def BreakerSettings.ofDatum? (dialect : Dialect) (d : Datum F) : Option (BreakerSettings F) := do
  let f ← d.fields? dialect ["failure_threshold", "critical_drift_threshold", "max_alerts"]
  let base : BreakerSettings F := .default
  let failureThreshold ←
    f.withDefault "failure_threshold" base.failureThreshold (Datum.count? failureBound)
  let criticalDrift ← f.withDefault "critical_drift_threshold" base.criticalDrift Datum.scalar?
  let maxAlerts ← f.withDefault "max_alerts" base.maxAlerts (Datum.count? countBound)
  return { failureThreshold, criticalDrift, maxAlerts }

/-- Reads the specifications of the gates into settings of gates. -/
def GovernanceSettings.readGates? (dialect : Dialect) (base : GovernanceSettings F) (d : Datum F) :
    Option (GovernanceSettings F) := do
  let f ← d.fields? dialect (Gate.all.map Gate.name)
  let read (g : Gate) := f.withDefault g.name (base.spec g) (GateSpec.ofDatum? dialect)
  let driftThreshold ← read .driftThreshold
  let conformanceDeviation ← read .conformanceDeviation
  let sayDoGap ← read .sayDoGap
  let reviewAutoPass ← read .reviewAutoPass
  let knowledgePromotion ← read .knowledgePromotion
  let threatActivation ← read .threatActivation
  return { base with driftThreshold, conformanceDeviation, sayDoGap, reviewAutoPass,
                     knowledgePromotion, threatActivation }

def GovernanceSettings.ofDatum? (dialect : Dialect) (d : Datum F) :
    Option (GovernanceSettings F) := do
  let f ← d.fields? dialect
    ["gates", "reference_vocabulary_size", "vocabulary_floor", "vocabulary_floor_slope",
      "vocabulary_floor_cap"]
  let base : GovernanceSettings F := .default
  let gated ← f.withDefault "gates" base (GovernanceSettings.readGates? dialect base)
  let referenceVocabulary ←
    f.withDefault "reference_vocabulary_size" base.referenceVocabulary (Datum.count? countBound)
  let vocabularyFloor ← f.withDefault "vocabulary_floor" base.vocabularyFloor Datum.scalar?
  let floorSlope ← f.withDefault "vocabulary_floor_slope" base.floorSlope Datum.scalar?
  let floorCap ← f.withDefault "vocabulary_floor_cap" base.floorCap Datum.scalar?
  return { gated with referenceVocabulary, vocabularyFloor, floorSlope, floorCap }

def FloorSettings.ofDatum? (dialect : Dialect) (d : Datum F) : Option (FloorSettings F) := do
  let f ← d.fields? dialect ["conflict_threshold", "failure_floor", "uncertainty_ceiling"]
  let base : FloorSettings F := .default
  let conflictThreshold ← f.withDefault "conflict_threshold" base.conflictThreshold Datum.scalar?
  let failureFloor ← f.withDefault "failure_floor" base.failureFloor (Datum.count? failureBound)
  let uncertaintyCeiling ←
    f.withDefault "uncertainty_ceiling" base.uncertaintyCeiling Datum.scalar?
  return { conflictThreshold, failureFloor, uncertaintyCeiling }

def Settings.ofDatum? (dialect : Dialect) (d : Datum F) : Option (Settings F) := do
  let f ← d.fields? dialect
    ["validator", "baseline", "circuit_breaker", "governance", "immutable", "tripwire", "audit"]
  let base : Settings F := .default
  let minSymbols ←
    f.withDefault "validator" base.minSymbols (countSection? dialect "min_symbols" base.minSymbols)
  let baseline ← f.withDefault "baseline" base.baseline (BaselineSettings.ofDatum? dialect)
  let breaker ← f.withDefault "circuit_breaker" base.breaker (BreakerSettings.ofDatum? dialect)
  let governance ← f.withDefault "governance" base.governance (GovernanceSettings.ofDatum? dialect)
  let floor ← f.withDefault "immutable" base.floor (FloorSettings.ofDatum? dialect)
  let tripwire ← f.withDefault "tripwire" base.tripwire (TripwireSettings.ofDatum? dialect)
  let maxAuditEntries ←
    f.withDefault "audit" base.maxAuditEntries
      (countSection? dialect "max_entries" base.maxAuditEntries)
  return { minSymbols, baseline, breaker, governance, floor, tripwire, maxAuditEntries }

end Mandate
