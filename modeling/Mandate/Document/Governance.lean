import Mandate.Decision
import Mandate.Document.Report
import Mandate.Document.Settings

/-!
# Governance as documents

The written forms of uncertainties, calibrations, what the floor says, decisions and thresholds. All
but the thresholds can be read as well.
-/

namespace Mandate

variable {F : Type}

/-! ## Uncertainty and calibration -/

section

variable [Scalar F]

def Uncertainty.toDatum (u : Uncertainty F) : Datum F :=
  .record
    [("total", .ofScalar u.total),
      ("epistemic", .ofScalar u.epistemic),
      ("aleatoric", .ofScalar u.aleatoric),
      ("epistemic_ratio", .ofScalar u.ratio),
      ("method", .text u.method)]

def Uncertainty.ofDatum? (d : Datum F) : Option (Uncertainty F) := do
  let f ← d.fields? .json ["total", "epistemic", "aleatoric", "epistemic_ratio", "method"]
  let total ← f.required "total" Datum.scalar?
  let epistemic ← f.required "epistemic" Datum.scalar?
  let aleatoric ← f.required "aleatoric" Datum.scalar?
  let ratio ← f.required "epistemic_ratio" Datum.scalar?
  let method ← f.required "method" Datum.text?
  return { total, epistemic, aleatoric, ratio, method }

def Bucket.toDatum (b : Bucket F) : Datum F :=
  .record
    [("lower", .ofScalar b.lower),
      ("upper", .ofScalar b.upper),
      ("count", .ofNat b.count),
      ("mean_confidence", .ofScalar b.meanConfidence),
      ("accuracy", .ofScalar b.accuracy)]

def Bucket.ofDatum? (d : Datum F) : Option (Bucket F) := do
  let f ← d.fields? .json ["lower", "upper", "count", "mean_confidence", "accuracy"]
  let lower ← f.required "lower" Datum.scalar?
  let upper ← f.required "upper" Datum.scalar?
  let count ← f.required "count" (Datum.count? countBound)
  let meanConfidence ← f.required "mean_confidence" Datum.scalar?
  let accuracy ← f.required "accuracy" Datum.scalar?
  return { lower, upper, count, meanConfidence, accuracy }

def Calibration.toDatum (c : Calibration F) : Datum F :=
  .record
    [("ece", .ofScalar c.ece),
      ("mce", .ofScalar c.mce),
      ("brier_score", .ofScalar c.brier),
      ("window_size", .ofNat c.windowSize),
      ("window_start", c.windowStart.toDatum),
      ("window_end", c.windowEnd.toDatum),
      ("buckets", .ofList Bucket.toDatum c.buckets)]

def Calibration.ofDatum? (d : Datum F) : Option (Calibration F) := do
  let f ← d.fields? .json
    ["ece", "mce", "brier_score", "window_size", "window_start", "window_end", "buckets"]
  let ece ← f.required "ece" Datum.scalar?
  let mce ← f.required "mce" Datum.scalar?
  let brier ← f.required "brier_score" Datum.scalar?
  let windowSize ← f.required "window_size" (Datum.count? countBound)
  let windowStart ← f.required "window_start" Instant.ofDatum?
  let windowEnd ← f.required "window_end" Instant.ofDatum?
  let buckets ← f.withDefault "buckets" [] (Datum.list? Bucket.ofDatum?)
  return { ece, mce, brier, windowSize, windowStart, windowEnd, buckets }

end

/-! ## The floor -/

def SensitiveMatch.toDatum (m : SensitiveMatch) : Datum F :=
  .record [("kind", .text m.kind.name), ("start", .ofNat m.start), ("end", .ofNat m.stop)]

def SensitiveMatch.ofDatum? (d : Datum F) : Option SensitiveMatch := do
  let f ← d.fields? .json ["kind", "start", "end"]
  let kind ← f.required "kind" (Datum.named? SensitiveKind.all SensitiveKind.name)
  let start ← f.required "start" (Datum.count? countBound)
  let stop ← f.required "end" (Datum.count? countBound)
  return { kind, start, stop }

/-- The field for the hits of a violation, which is left out when there are none. -/
def Violation.hitsField (hits : List SensitiveMatch) : List (String × Datum F) :=
  if hits.isEmpty then [] else [("matches", .ofList SensitiveMatch.toDatum hits)]

def Violation.toDatum (v : Violation) : Datum F :=
  .record <|
    [("constraint", .text v.constraint.name), ("action", .text v.action.name),
        ("message", .text v.message)]
      ++ Violation.hitsField v.hits

def Violation.ofDatum? (d : Datum F) : Option Violation := do
  let f ← d.fields? .json ["constraint", "action", "message", "matches"]
  let constraint ← f.required "constraint" (Datum.named? Constraint.all Constraint.name)
  let action ← f.required "action" (Datum.named? FloorAction.all FloorAction.name)
  let message ← f.required "message" Datum.text?
  let hits ← f.withDefault "matches" [] (Datum.list? SensitiveMatch.ofDatum?)
  return { constraint, action, message, hits }

def FloorVerdict.toDatum (v : FloorVerdict) : Datum F :=
  .record [("passed", .bool v.passed), ("violation", .ofOption Violation.toDatum v.violation)]

def FloorVerdict.ofDatum? (d : Datum F) : Option FloorVerdict := do
  let f ← d.fields? .json ["passed", "violation"]
  let passed ← f.required "passed" Datum.bool?
  let violation ← f.optional "violation" Violation.ofDatum?
  return { passed, violation }

/-! ## Gates -/

def AuditId.toDatum (i : AuditId) : Datum F :=
  .text i.toText

def AuditId.ofDatum? (d : Datum F) : Option AuditId :=
  d.text? >>= AuditId.ofText?

def Gate.ofDatum? (d : Datum F) : Option Gate :=
  d.named? Gate.all Gate.name

def GovernanceMode.ofDatum? (d : Datum F) : Option GovernanceMode :=
  d.named? GovernanceMode.all GovernanceMode.name

variable [Scalar F]

def Decision.toDatum (x : Decision F) : Datum F :=
  .record <|
    [("gate", .text x.gate.name), ("action", .text x.action.name), ("reason", .text x.reason),
        ("immutable_triggered", .bool x.floorTriggered)]
      ++ Datum.fieldIf "immutable_constraint" (fun c => .text c.name) x.constraint
      ++ [("threshold", .ofScalar x.threshold),
          ("observed_value", .ofScalar x.observed),
          ("audit_id", x.auditId.toDatum),
          ("decided_at", x.decidedAt.toDatum)]

def Decision.ofDatum? (d : Datum F) : Option (Decision F) := do
  let f ← d.fields? .json
    ["gate", "action", "reason", "immutable_triggered", "immutable_constraint", "threshold",
      "observed_value", "audit_id", "decided_at"]
  let gate ← f.required "gate" Gate.ofDatum?
  let action ← f.required "action" (Datum.named? GateAction.all GateAction.name)
  let reason ← f.required "reason" Datum.text?
  let floorTriggered ← f.required "immutable_triggered" Datum.bool?
  let constraint ←
    f.withDefault "immutable_constraint" none
      (Datum.option? (Datum.named? Constraint.all Constraint.name))
  let threshold ← f.required "threshold" Datum.scalar?
  let observed ← f.required "observed_value" Datum.scalar?
  let auditId ← f.required "audit_id" AuditId.ofDatum?
  let decidedAt ← f.required "decided_at" Instant.ofDatum?
  return { gate, action, reason, floorTriggered, constraint, threshold, observed, auditId,
           decidedAt }

def Modulation.toDatum (m : Modulation F) : Datum F :=
  .record <|
    [("gate", .text m.gate.name),
        ("direction", .text m.direction.name),
        ("base_threshold", .ofScalar m.base),
        ("mode_factor", .ofScalar m.modeFactor),
        ("uncertainty_factor", .ofScalar m.uncertaintyFactor),
        ("calibration_factor", .ofScalar m.calibrationFactor),
        ("tightening", .ofScalar m.tightening),
        ("effective_threshold", .ofScalar m.threshold),
        ("min", .ofScalar m.min),
        ("max", .ofScalar m.max)]
      ++ Datum.fieldIf "floor" .ofScalar m.floor
      ++ [("mode", .text m.mode.name),
          ("uncertainty", .ofScalar m.uncertainty),
          ("autonomy_level", .text m.autonomy.name)]

/-- The written form of the thresholds of all gates. -/
def thresholdsDatum (ms : List (Modulation F)) (now : Instant) : Datum F :=
  .record
    [("thresholds", .record (ms.map fun m => (m.gate.name, .ofScalar m.threshold))),
      ("modulations", .record (ms.map fun m => (m.gate.name, m.toDatum))),
      ("computed_at", now.toDatum)]

end Mandate
