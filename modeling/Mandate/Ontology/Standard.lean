import Mandate.Ontology

/-!
# The standard ontology

The vocabulary of a deployment that brings none of its own. Its mode strengths run from the strict
mode to the forbidden one, the exploratory mode in which nothing is executed.
-/

namespace Mandate.Ontology

def standardSymbols : List Symbol :=
  [⟨"⊕", "strict", "follow instructions exactly, no deviation", .mode 1⟩,
   ⟨"⊙", "neutral", "standard operating latitude", .mode 2⟩,
   ⟨"⊖", "flexible", "agent may adapt the approach", .mode 3⟩,
   ⟨"⊗", "forbidden", "exploratory only, execution forbidden", .mode 4⟩,
   ⟨"◊", "financial", "payments, ledgers, trading", .domain⟩,
   ⟨"§", "legal", "contracts, compliance, regulation", .domain⟩,
   ⟨"⚙", "technical", "code, infrastructure, systems", .domain⟩,
   ⟨"✚", "medical", "clinical and health data", .domain⟩,
   ⟨"◎", "operational", "general operations", .domain⟩,
   ⟨"✎", "creative", "content and design", .domain⟩,
   ⟨"⛔", "forbidden", "the guarded operation must not happen", .constraint 4⟩,
   ⟨"🔒", "confidential", "outputs must not leave the trust boundary", .constraint 3⟩,
   ⟨"✓", "approval_required", "human approval before side effects", .constraint 3⟩,
   ⟨"⚠", "caution", "proceed with extra verification", .constraint 2⟩,
   ⟨"⏱", "time_bound", "must complete within the allotted window", .constraint 1⟩,
   ⟨"▶", "execute", "perform the operation", .action⟩,
   ⟨"▼", "delegate", "hand the task to another agent", .action⟩,
   ⟨"△", "propose", "suggest without side effects", .action⟩,
   ⟨"▷", "analyze", "inspect and report", .action⟩,
   ⟨"✍", "write", "create or modify state", .action⟩,
   ⟨"✗", "delete", "remove state", .action⟩,
   ⟨"↺", "review", "check prior work", .action⟩,
   ⟨"↑", "urgent", "raise priority", .modifier⟩,
   ⟨"↓", "deferred", "lower priority", .modifier⟩,
   ⟨"∀", "exhaustive", "cover every case", .modifier⟩,
   ⟨"≈", "approximate", "best effort is acceptable", .modifier⟩,
   ⟨"⌂", "internal", "originates inside the deployment", .source⟩,
   ⟨"☁", "external", "originates from an external system", .source⟩,
   ⟨"⚑", "human_operator", "issued by a human operator", .source⟩,
   ⟨"α", "primary_agent", "the issuing agent", .entity⟩,
   ⟨"β", "secondary_agent", "a delegated worker", .entity⟩,
   ⟨"γ", "tertiary_agent", "a sub-delegated worker", .entity⟩,
   ⟨"δ", "auditor_agent", "an independent reviewer", .entity⟩,
   ⟨"Ω", "orchestrator", "the workflow orchestrator", .entity⟩]

def standard : Ontology :=
  .index standardSymbols

end Mandate.Ontology
