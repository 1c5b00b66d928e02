import Mandate.Audit
import Mandate.Baseline
import Mandate.Breaker
import Mandate.Document.Frame
import Mandate.Document.Governance
import Mandate.Tripwire

/-!
# An agent's standing as documents

The written forms of what is kept of an agent: its circuit breaker, its baselines, its probes, and
the audit trail. Breakers and comparisons can be read as well.
-/

namespace Mandate

variable {F : Type}

/-! ## Circuit breakers -/

def Transition.toDatum (t : Transition) : Datum F :=
  .record
    [("agent", .text t.agent), ("from", .text t.source.name), ("to", .text t.target.name),
      ("reason", .text t.reason)]

section

variable [Scalar F]

def DriftAlert.toDatum (a : DriftAlert F) : Datum F :=
  .record
    [("score", .ofScalar a.score), ("reason", .text a.reason), ("critical", .bool a.critical),
      ("at", a.raisedAt.toDatum)]

def DriftAlert.ofDatum? (d : Datum F) : Option (DriftAlert F) := do
  let f ← d.fields? .json ["score", "reason", "critical", "at"]
  let score ← f.required "score" Datum.scalar?
  let reason ← f.required "reason" Datum.text?
  let critical ← f.required "critical" Datum.bool?
  let raisedAt ← f.required "at" Instant.ofDatum?
  return { score, reason, critical, raisedAt }

def Breaker.toDatum (b : Breaker F) : Datum F :=
  .record
    [("agent", .text b.agent),
      ("state", .text b.circuit.name),
      ("consecutive_failures", .ofNat b.consecutiveFailures),
      ("total_failures", .ofNat b.totalFailures),
      ("opened_at", .ofOption Instant.toDatum b.openedAt),
      ("open_reason", .ofOption .text b.openReason),
      ("last_failure_at", .ofOption Instant.toDatum b.lastFailureAt),
      ("drift_alerts", .ofList DriftAlert.toDatum b.alerts),
      ("updated_at", b.updatedAt.toDatum)]

def Breaker.ofDatum? (d : Datum F) : Option (Breaker F) := do
  let f ← d.fields? .json
    ["agent", "state", "consecutive_failures", "total_failures", "opened_at", "open_reason",
      "last_failure_at", "drift_alerts", "updated_at"]
  let agent ← f.required "agent" Datum.text?
  let circuit ← f.required "state" (Datum.named? Circuit.all Circuit.name)
  let consecutiveFailures ← f.required "consecutive_failures" (Datum.count? failureBound)
  let totalFailures ← f.required "total_failures" (Datum.count? countBound)
  let openedAt ← f.optional "opened_at" Instant.ofDatum?
  let openReason ← f.optional "open_reason" Datum.text?
  let lastFailureAt ← f.optional "last_failure_at" Instant.ofDatum?
  let alerts ← f.required "drift_alerts" (Datum.list? DriftAlert.ofDatum?)
  let updatedAt ← f.required "updated_at" Instant.ofDatum?
  return { agent, circuit, consecutiveFailures, totalFailures, openedAt, openReason, lastFailureAt,
           alerts, updatedAt }

/-! ## Baselines -/

def Comparison.toDatum (c : Comparison F) : Datum F :=
  .record
    [("agent", .text c.agent),
      ("frame_hash", c.identity.toDatum),
      ("has_baseline", .bool c.hasBaseline),
      ("drift_score", .ofScalar c.score),
      ("agent_drift", .ofScalar c.agentDrift),
      ("interpretation_match", .bool c.interpretationMatches),
      ("behavior_match", .bool c.behaviorMatches),
      ("frame_distance", .ofScalar c.frameDistance),
      ("behavior_mismatch", .ofScalar c.behaviorMismatch),
      ("baseline_recorded_at", .ofOption Instant.toDatum c.recordedAt)]

def Comparison.ofDatum? (d : Datum F) : Option (Comparison F) := do
  let f ← d.fields? .json
    ["agent", "frame_hash", "has_baseline", "drift_score", "agent_drift", "interpretation_match",
      "behavior_match", "frame_distance", "behavior_mismatch", "baseline_recorded_at"]
  let agent ← f.required "agent" Datum.text?
  let identity ← f.required "frame_hash" Identity.ofDatum?
  let hasBaseline ← f.required "has_baseline" Datum.bool?
  let score ← f.required "drift_score" Datum.scalar?
  let agentDrift ← f.required "agent_drift" Datum.scalar?
  let interpretationMatches ← f.required "interpretation_match" Datum.bool?
  let behaviorMatches ← f.required "behavior_match" Datum.bool?
  let frameDistance ← f.required "frame_distance" Datum.scalar?
  let behaviorMismatch ← f.required "behavior_mismatch" Datum.scalar?
  let recordedAt ← f.optional "baseline_recorded_at" Instant.ofDatum?
  return { agent, identity, hasBaseline, score, agentDrift, interpretationMatches, behaviorMatches,
           frameDistance, behaviorMismatch, recordedAt }

end

def BaselineRecord.toDatum (r : BaselineRecord) : Datum F :=
  .record
    [("frame_hash", r.identity.toDatum),
      ("frame", .text r.frame),
      ("tokens", .ofList .text r.tokens),
      ("expected_interpretation", .text r.interpretation),
      ("expected_behaviors", .ofList .text r.behaviors),
      ("recorded_at", r.recordedAt.toDatum)]

def Baseline.toDatum [Scalar F] (b : Baseline F) : Datum F :=
  .record
    [("records", .ofList BaselineRecord.toDatum b.records),
      ("drift_score", .ofScalar b.drift),
      ("comparisons", .ofNat b.comparisons),
      ("recalibrated_at", .ofOption Instant.toDatum b.recalibratedAt)]

/-! ## Tripwires -/

def Answer.toDatum (a : Answer) : Datum F :=
  .record [("mode", .text a.mode), ("domain", .text a.domain), ("action", .text a.action)]

def Answer.ofDatum? (d : Datum F) : Option Answer := do
  let f ← d.fields? .json ["mode", "domain", "action"]
  let mode ← f.required "mode" Datum.text?
  let domain ← f.required "domain" Datum.text?
  let action ← f.required "action" Datum.text?
  return { mode, domain, action }

def Probe.toDatum (p : Probe) : Datum F :=
  .record [("id", p.id.toDatum), ("frame", .text p.frame), ("expected", p.expected.toDatum)]

def Outcome.toDatum (o : Outcome) : Datum F :=
  .record
    [("probe", o.probe.toDatum), ("observed", .ofOption Answer.toDatum o.observed),
      ("passed", .bool o.passed)]

def ProbeRun.toDatum [Scalar F] (r : ProbeRun F) : Datum F :=
  .record
    [("agent", .text r.agent),
      ("passed", .ofNat r.passed),
      ("failed", .ofNat r.failed),
      ("failure_rate", .ofScalar r.failureRate),
      ("outcomes", .ofList Outcome.toDatum r.outcomes),
      ("ran_at", r.ranAt.toDatum)]

def ProbeHistory.toDatum (h : ProbeHistory) : Datum F :=
  .record
    [("total_probes", .ofNat h.totalProbes),
      ("total_failures", .ofNat h.totalFailures),
      ("recent", .ofList .bool h.recent),
      ("last_run", .ofOption Instant.toDatum h.lastRun)]

/-! ## The audit trail -/

def AuditEvent.ofDatum? (d : Datum F) : Option AuditEvent :=
  d.named? AuditEvent.all AuditEvent.name

def AuditRecord.toDatum (r : AuditRecord F) : Datum F :=
  .record
    [("timestamp", r.timestamp.toDatum), ("event_type", .text r.event.name),
      ("agent", .ofOption .text r.agent), ("details", r.details)]

end Mandate
