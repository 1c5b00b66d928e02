import Mandate.Datum.Fields
import Mandate.Report

/-!
# Reports as documents

The written forms of findings and of validation reports. A report without a parent lacks that field.
-/

namespace Mandate

variable {F : Type}

def Instant.toDatum (i : Instant) : Datum F :=
  .text i.text

def Instant.ofDatum? (d : Datum F) : Option Instant :=
  d.text? >>= Instant.ofText?

def Finding.toDatum (f : Finding) : Datum F :=
  .record
    [("rule_id", .text f.ruleId),
      ("tier", .text f.tier.name),
      ("passed", .bool f.passed),
      ("severity", .text f.severity.name),
      ("message", .text f.message)]

def Finding.ofDatum? (d : Datum F) : Option Finding := do
  let f ← d.fields? .json ["rule_id", "tier", "passed", "severity", "message"]
  let ruleId ← f.required "rule_id" Datum.text?
  let tier ← f.required "tier" (Datum.named? Tier.all Tier.name)
  let passed ← f.required "passed" Datum.bool?
  let severity ← f.required "severity" (Datum.named? Severity.all Severity.name)
  let message ← f.required "message" Datum.text?
  return { ruleId, tier, passed, severity, message }

def Report.toDatum (r : Report) : Datum F :=
  .record <|
    ("frame", .text r.frame) :: Datum.fieldIf "parent" .text r.parent
      ++ [("findings", .ofList Finding.toDatum r.findings),
          ("valid", .bool r.valid),
          ("validated_at", r.validatedAt.toDatum)]

def Report.ofDatum? (d : Datum F) : Option Report := do
  let f ← d.fields? .json ["frame", "parent", "findings", "valid", "validated_at"]
  let frame ← f.required "frame" Datum.text?
  let parent ← f.withDefault "parent" none (Datum.option? Datum.text?)
  let findings ← f.required "findings" (Datum.list? Finding.ofDatum?)
  let valid ← f.required "valid" Datum.bool?
  let validatedAt ← f.required "validated_at" Instant.ofDatum?
  return { frame, parent, findings, valid, validatedAt }

end Mandate
