import Mandate.Instant

/-!
# Validation reports

A report lists what each rule found in a frame, passed rules included. A frame is valid when no
finding is an error; warnings leave it valid.
-/

namespace Mandate

/-- What a rule looks at: one frame's shape, one frame's sense, or a frame beside its parent. -/
inductive Tier where
  | structural
  | semantic
  | chain
deriving DecidableEq

inductive Severity where
  | info
  | warning
  | error
deriving DecidableEq

def Tier.all : List Tier :=
  [.structural, .semantic, .chain]

def Tier.name : Tier → String
  | .structural => "structural"
  | .semantic => "semantic"
  | .chain => "chain"

def Severity.all : List Severity :=
  [.info, .warning, .error]

def Severity.name : Severity → String
  | .info => "info"
  | .warning => "warning"
  | .error => "error"

/-- The rules that frames are checked by. -/
inductive Rule where
  | readable
  | length
  | modeFirst
  | singleMode
  | recognized
  | singleSlots
  | opposingModes
  | forbiddenMode
  | forbiddenConstraint
  | delegateNamed
  | notBlocked
  | parentReadable
  | modeKept
  | forbiddenKept
  | domainKept
  | constraintsKept
deriving DecidableEq

namespace Rule

/-- The stable name of a rule. -/
def id : Rule → String
  | .readable => "SR-000"
  | .length => "SR-001"
  | .modeFirst => "SR-002"
  | .singleMode => "SR-003"
  | .recognized => "SR-004"
  | .singleSlots => "SR-005"
  | .opposingModes => "SM-001"
  | .forbiddenMode => "SM-002"
  | .forbiddenConstraint => "SM-003"
  | .delegateNamed => "SM-004"
  | .notBlocked => "SM-005"
  | .parentReadable => "CH-000"
  | .modeKept => "CH-001"
  | .forbiddenKept => "CH-002"
  | .domainKept => "CH-003"
  | .constraintsKept => "CH-004"

def tier : Rule → Tier
  | .readable | .length | .modeFirst | .singleMode | .recognized | .singleSlots => .structural
  | .opposingModes | .forbiddenMode | .forbiddenConstraint | .delegateNamed | .notBlocked =>
    .semantic
  | .parentReadable | .modeKept | .forbiddenKept | .domainKept | .constraintsKept => .chain

def severity : Rule → Severity
  | .recognized | .singleSlots | .forbiddenConstraint | .delegateNamed | .domainKept
  | .constraintsKept => .warning
  | _ => .error

end Rule

structure Finding where
  ruleId : String
  tier : Tier
  passed : Bool
  severity : Severity
  message : String
deriving DecidableEq

/-- The finding of a rule that holds or not, with its message for either case. -/
def Rule.finding (r : Rule) (holds : Bool) (pass fail : String) : Finding :=
  ⟨r.id, r.tier, holds, if holds then .info else r.severity, if holds then pass else fail⟩

/-- Only a violated rule whose violation is an error gives an error. -/
theorem Rule.severity_finding_eq_error_iff (r : Rule) (holds : Bool) (pass fail : String) :
    (r.finding holds pass fail).severity = .error ↔ holds = false ∧ r.severity = .error := by
  cases holds <;> simp [finding]

structure Report where
  frame : String
  parent : Option String
  findings : List Finding
  valid : Bool
  validatedAt : Instant
deriving DecidableEq

namespace Report

def ofFindings (frame : String) (parent : Option String) (findings : List Finding)
    (now : Instant) : Report :=
  ⟨frame, parent, findings, !findings.any fun f => f.severity = .error, now⟩

theorem valid_ofFindings_iff {frame : String} {parent : Option String} {findings : List Finding}
    {now : Instant} :
    (ofFindings frame parent findings now).valid = true ↔
      ∀ f ∈ findings, f.severity ≠ .error := by
  simp [ofFindings]

def count (r : Report) (severity : Severity) : Nat :=
  r.findings.countP fun f => f.severity = severity

/-- The names of the violated rules. -/
def failed (r : Report) : List String :=
  (r.findings.filter fun f => !f.passed).map (·.ruleId)

def violates (r : Report) (ruleId : String) : Bool :=
  r.failed.contains ruleId

/-- Whether no finding of a tier is an error. -/
def passesTier (r : Report) (tier : Tier) : Bool :=
  !r.findings.any fun f => f.tier = tier && f.severity = .error

end Report
end Mandate
