import Mandate.Binary64
import Mandate.Proofs.Frame.Matched
import Mandate.Proofs.Validation.Errors
import Mathlib.Data.List.Forall2

/-!
# Valid frames

What the rules of all tiers come to. The main statement, `valid_iff_isWellFormed`, says in terms of
the matched symbols alone when a report is valid, which rules it lists and in what order, and which
of them only warn.
-/

namespace Mandate

variable {F : Type}

/-! ## What a rule reports -/

namespace Rule

/-- The names of the rules on a frame alone. -/
def frameIds : List String :=
  ["SR-001", "SR-002", "SR-003", "SR-004", "SR-005", "SM-001", "SM-002", "SM-003", "SM-004",
    "SM-005"]

/-- The names of the rules on a frame beside its parent. -/
def chainIds : List String :=
  ["CH-001", "CH-002", "CH-003", "CH-004"]

/-- The names of the rules that only warn. -/
def advisoryIds : List String :=
  ["SR-004", "SR-005", "SM-003", "SM-004", "CH-003", "CH-004"]

/-- The severity of a finding of the rule that is named so, passed or not. -/
def severityOf (id : String) (passed : Bool) : Severity :=
  if passed then .info else if id ∈ advisoryIds then .warning else .error

theorem severity_eq (r : Rule) : r.severity = severityOf r.id false := by
  cases r <;> decide

/-- The finding is one of the named rule. -/
structure Reports (id : String) (f : Finding) : Prop where
  ruleId : f.ruleId = id
  severity : f.severity = severityOf id f.passed

theorem reports_finding (r : Rule) (holds : Bool) (pass fail : String) :
    Reports r.id (r.finding holds pass fail) := by
  refine ⟨rfl, ?_⟩
  cases holds with
  | true => rfl
  | false => exact r.severity_eq

theorem reports_checkOpposingModes (f : Frame F) : Reports "SM-001" (checkOpposingModes f) := by
  simp only [checkOpposingModes]
  split <;> exact reports_finding opposingModes _ _ _

theorem reports_localFindings (r : Resolution F) (minimum : Nat) :
    List.Forall₂ Reports frameIds (r.localFindings minimum) :=
  .cons (reports_finding length _ _ _) <| .cons (reports_finding modeFirst _ _ _) <|
  .cons (reports_finding singleMode _ _ _) <| .cons (reports_finding recognized _ _ _) <|
  .cons (reports_finding singleSlots _ _ _) <| .cons (reports_checkOpposingModes _) <|
  .cons (reports_finding forbiddenMode _ _ _) <| .cons (reports_finding forbiddenConstraint _ _ _) <|
  .cons (reports_finding delegateNamed _ _ _) <| .cons (reports_finding notBlocked _ _ _) .nil

theorem reports_chainFindings (parent child : Resolution F) :
    List.Forall₂ Reports chainIds (parent.chainFindings child) :=
  .cons (reports_finding modeKept _ _ _) <| .cons (reports_finding forbiddenKept _ _ _) <|
  .cons (reports_finding domainKept _ _ _) <| .cons (reports_finding constraintsKept _ _ _) .nil

theorem of_forall₂_reports {ids : List String} {fs : List Finding}
    (h : List.Forall₂ Reports ids fs) :
    fs.map (·.ruleId) = ids ∧ ∀ f ∈ fs, f.severity = severityOf f.ruleId f.passed := by
  induction h with
  | nil => simp
  | cons h _ ih =>
      obtain ⟨rfl, hseverity⟩ := h
      exact ⟨congrArg _ ih.1, List.forall_mem_cons.2 ⟨hseverity, ih.2⟩⟩

end Rule

/-! ## One frame -/

/-- The symbols begin with a mode, and no other of them is one. -/
def IsLedByMode (symbols : List Symbol) : Prop :=
  ∃ mode rest, symbols = mode :: rest ∧ mode.category = .mode ∧ ∀ s ∈ rest, s.category ≠ .mode

namespace Frame

variable {f : Frame F}

theorem namesOf_mode_cons {mode : Symbol} {rest : List Symbol} (h : f.symbols = mode :: rest)
    (hm : mode.category = .mode) :
    f.namesOf .mode = mode.name :: (allOf rest .mode).map (·.name) := by
  simp [namesOf, allOf, h, hm]

theorem isLedByMode_iff :
    IsLedByMode f.symbols ↔
      (∃ s, f.symbols.head? = some s ∧ s.category = .mode) ∧ (f.namesOf .mode).length ≤ 1 := by
  constructor
  · rintro ⟨mode, rest, h, hm, hrest⟩
    have hnone : allOf rest .mode = [] := by simpa [allOf] using hrest
    exact ⟨⟨mode, by rw [h]; rfl, hm⟩, by simp [namesOf_mode_cons h hm, hnone]⟩
  · rintro ⟨⟨mode, hhead, hm⟩, hlength⟩
    obtain ⟨rest, h⟩ := List.head?_eq_some_iff.1 hhead
    refine ⟨mode, rest, h, hm, ?_⟩
    simpa [namesOf_mode_cons h hm, allOf] using hlength

theorem mem_namesOf_mode_iff (h : IsLedByMode f.symbols) {name : String} :
    name ∈ f.namesOf .mode ↔ ∃ mode, f.symbols.head? = some mode ∧ mode.name = name := by
  obtain ⟨mode, rest, h, hm, hrest⟩ := h
  have hnone : allOf rest .mode = [] := by simpa [allOf] using hrest
  simp [namesOf_mode_cons h hm, hnone, h, eq_comm]

-- Two modes are needed for a contradiction.
theorem severity_checkOpposingModes_ne_error (h : IsLedByMode f.symbols) :
    (Rule.checkOpposingModes f).severity ≠ .error := by
  simp only [Rule.checkOpposingModes]
  split
  next => decide
  next a b hfind =>
    have hboth : a ∈ f.namesOf .mode ∧ b ∈ f.namesOf .mode := by
      simpa using List.find?_some hfind
    simp only [mem_namesOf_mode_iff h] at hboth
    obtain ⟨⟨m, hm, rfl⟩, n, hn, rfl⟩ := hboth
    obtain rfl : m = n := Option.some.inj (hm.symm.trans hn)
    have hdistinct : ∀ p ∈ Rule.contradictions, p.1 ≠ p.2 := by decide
    exact absurd rfl (hdistinct _ (List.mem_of_find?_eq_some hfind))

end Frame

theorem noErrors_cons {f : Finding} {fs : List Finding} :
    NoErrors (f :: fs) ↔ f.severity ≠ .error ∧ NoErrors fs :=
  List.forall_mem_cons

theorem Resolution.noErrors_localFindings_iff {r : Resolution F} {minimum : Nat} :
    NoErrors (r.localFindings minimum) ↔
      minimum ≤ r.frame.symbols.length ∧ IsLedByMode r.frame.symbols ∧
        ¬ ("forbidden" ∈ r.frame.namesOf .mode ∧ r.frame.hasAction "execute" = true) ∧
        r.blockedPresent = [] := by
  have hopposing := Frame.severity_checkOpposingModes_ne_error (f := r.frame)
  rw [Frame.isLedByMode_iff] at hopposing ⊢
  unfold localFindings Rule.checkLength Rule.checkModeFirst Rule.checkSingleMode
    Rule.checkRecognized Rule.checkSingleSlots Rule.checkForbiddenMode
    Rule.checkForbiddenConstraint Rule.checkDelegateNamed Rule.checkNotBlocked
  simp only [noErrors_finding_cons, noErrors_cons (f := Rule.checkOpposingModes _), Rule.severity,
    noErrors_nil, reduceCtorEq, false_implies, true_implies, true_and, and_true,
    decide_eq_true_eq, Option.any_eq_true, Bool.not_eq_true', ← Bool.not_eq_true,
    Bool.and_eq_true, List.contains_iff_mem, List.isEmpty_iff]
  constructor
  · rintro ⟨hlength, hhead, hsole, _, hexecute, hblocked⟩
    exact ⟨hlength, ⟨hhead, hsole⟩, hexecute, hblocked⟩
  · rintro ⟨hlength, ⟨hhead, hsole⟩, hexecute, hblocked⟩
    exact ⟨hlength, hhead, hsole, hopposing ⟨hhead, hsole⟩, hexecute, hblocked⟩

namespace Validator

/-- What a raw frame has to be on its own. -/
structure IsWellFormed (v : Validator F) (raw : String) : Prop where
  matched : v.ontology.matched raw ≠ []
  long : v.minimum ≤ (v.ontology.matched raw).length
  led : IsLedByMode (v.ontology.matched raw)
  harmless : ¬ ((∃ mode, (v.ontology.matched raw).head? = some mode ∧ mode.name = "forbidden") ∧
    ∃ action, Frame.firstOf (v.ontology.matched raw) .action = some action ∧
      action.name = "execute")
  unblocked : ∀ overlay ∈ v.overlay, ∀ s ∈ v.ontology.matched raw, ¬ overlay.Blocks s.token

/-- What a raw frame has to keep of its parent. -/
structure Keeps (v : Validator F) (parent raw : String) : Prop where
  matched : v.ontology.matched parent ≠ []
  mode : ∃ c p, v.ontology.strengthIn? raw = some c ∧ v.ontology.strengthIn? parent = some p ∧
    c ≤ p
  forbidden : v.ontology.Forbids parent → v.ontology.Forbids raw

/-- The names of the rules that apply to a raw frame and its parent, in order. -/
def ruleIds (v : Validator F) (raw : String) (parent : Option String) : List String :=
  if v.ontology.matched raw = [] then ["SR-000"]
  else Rule.frameIds ++
    match parent with
    | none => []
    | some p => if v.ontology.matched p = [] then ["CH-000"] else Rule.chainIds

variable [Scalar F] {v : Validator F} {raw parent : String}

theorem exists_resolve?_iff : (∃ r, v.resolve? raw = some r) ↔ v.ontology.matched raw ≠ [] :=
  Mandate.exists_resolve?_iff

theorem noErrors_localFindings_of_resolve? {r : Resolution F} (h : v.resolve? raw = some r) :
    NoErrors (r.localFindings v.minimum) ↔ v.IsWellFormed raw := by
  have hmatched : v.ontology.matched raw ≠ [] := exists_resolve?_iff.1 ⟨r, h⟩
  rw [Resolution.noErrors_localFindings_iff, Resolution.hasAction_iff h,
    Resolution.blockedPresent_eq_nil_iff h]
  constructor
  · rintro ⟨hlong, hled, hharmless, hunblocked⟩
    rw [Frame.mem_namesOf_mode_iff hled] at hharmless
    rw [Resolution.symbols_of_resolve? h] at hlong hled hharmless
    exact ⟨hmatched, hlong, hled, hharmless, hunblocked⟩
  · rintro ⟨_, hlong, hled, hharmless, hunblocked⟩
    have hled' : IsLedByMode r.frame.symbols := by rwa [Resolution.symbols_of_resolve? h]
    rw [Frame.mem_namesOf_mode_iff hled', Resolution.symbols_of_resolve? h]
    exact ⟨hlong, hled, hharmless, hunblocked⟩

theorem isSound_iff : v.IsSound raw ↔ v.IsWellFormed raw := by
  constructor
  · rintro ⟨r, hr, hnone⟩
    exact (noErrors_localFindings_of_resolve? hr).1 hnone
  · intro h
    obtain ⟨r, hr⟩ := exists_resolve?_iff.2 h.matched
    exact ⟨r, hr, (noErrors_localFindings_of_resolve? hr).2 h⟩

/-! ## A frame and its parent -/

theorem isWeakened_eq_false_iff (ho : v.ontology.IsAccepted) {p r : Resolution F}
    (hp : v.resolve? parent = some p) (hr : v.resolve? raw = some r) :
    Rule.isWeakened p r = false ↔
      ∃ c n, v.ontology.strengthIn? raw = some c ∧ v.ontology.strengthIn? parent = some n ∧
        c ≤ n := by
  obtain ⟨c, hc⟩ := v.ontology.exists_strengthIn? ho raw
  obtain ⟨n, hn⟩ := v.ontology.exists_strengthIn? ho parent
  rw [Rule.isWeakened, Resolution.modeStrength?_of_resolve? ho hp,
    Resolution.modeStrength?_of_resolve? ho hr, hc, hn]
  simp

theorem noErrors_findings_iff (ho : v.ontology.IsAccepted) {parent : Option String} :
    NoErrors (v.findings raw parent) ↔ v.IsWellFormed raw ∧ ∀ p ∈ parent, v.Keeps p raw := by
  cases parent with
  | none => simp [noErrors_findings_none_iff, isSound_iff]
  | some parent =>
      simp only [noErrors_findings_some_iff, isSound_iff, Option.mem_some_iff, forall_eq']
      refine and_congr_right fun hraw => ?_
      constructor
      · rintro ⟨p, r, hp, hr, hmode, hforbidden⟩
        rw [isWeakened_eq_false_iff ho hp hr] at hmode
        rw [Resolution.isForbidden_iff hp, Resolution.isForbidden_iff hr] at hforbidden
        exact ⟨exists_resolve?_iff.1 ⟨p, hp⟩, hmode, hforbidden⟩
      · rintro ⟨hmatched, hmode, hforbidden⟩
        obtain ⟨p, hp⟩ := exists_resolve?_iff.2 hmatched
        obtain ⟨r, hr⟩ := exists_resolve?_iff.2 hraw.matched
        refine ⟨p, r, hp, hr, (isWeakened_eq_false_iff ho hp hr).2 hmode, ?_⟩
        rwa [Resolution.isForbidden_iff hp, Resolution.isForbidden_iff hr]

theorem reports_findings (v : Validator F) (raw : String) (parent : Option String) :
    List.Forall₂ Rule.Reports (v.ruleIds raw parent) (v.findings raw parent) := by
  unfold ruleIds findings
  cases hr : v.resolve? raw with
  | none =>
      rw [if_pos (resolve?_eq_none_iff.1 hr)]
      exact .cons (Rule.reports_finding .readable _ _ _) .nil
  | some r =>
      rw [if_neg (exists_resolve?_iff.1 ⟨r, hr⟩)]
      refine List.rel_append (Rule.reports_localFindings r _) ?_
      cases parent with
      | none => exact .nil
      | some parent =>
          simp only [Option.map_some, Option.getD_some, parentFindings]
          cases hp : v.resolve? parent with
          | none =>
              rw [if_pos (resolve?_eq_none_iff.1 hp)]
              exact .cons (Rule.reports_finding .parentReadable _ _ _) .nil
          | some p =>
              rw [if_neg (exists_resolve?_iff.1 ⟨p, hp⟩)]
              exact Rule.reports_chainFindings p r

/-- A report is valid exactly if the raw frame is well formed on its own and keeps what its parent,
if it has one, imposes. It has one finding of each rule that applies, in order, and the advisory
rules only warn: a report is valid exactly if no other rule is violated. -/
theorem valid_iff_isWellFormed (v : Validator F) (ho : v.ontology.IsAccepted) (now : Instant)
    (raw : String) (parent : Option String) :
    let report := v.validate now raw parent
    (report.valid = true ↔ v.IsWellFormed raw ∧ ∀ p ∈ parent, v.Keeps p raw) ∧
      report.findings.map (·.ruleId) = v.ruleIds raw parent ∧
      (∀ f ∈ report.findings, f.severity =
        if f.passed then .info else if f.ruleId ∈ Rule.advisoryIds then .warning else .error) ∧
      (report.valid = true ↔ ∀ f ∈ report.findings, f.passed = false →
        f.ruleId ∈ Rule.advisoryIds) := by
  intro report
  obtain ⟨hids, hseverity⟩ := Rule.of_forall₂_reports (v.reports_findings raw parent)
  refine ⟨valid_validate_iff.trans (noErrors_findings_iff ho), hids, hseverity, ?_⟩
  refine valid_validate_iff.trans (forall₂_congr fun f hf => ?_)
  rw [hseverity f hf, Rule.severityOf]
  cases f.passed <;> simp

/-- A delegate that warns of an unknown character and of a dropped constraint is valid all the
same. -/
theorem isWellFormed_of_warnings :
    let v : Validator Float := ⟨.standard, some ((Overlay.named "no-delete").blockSymbol "✗"), 2⟩
    v.ontology.IsAccepted ∧ v.IsWellFormed "⊕◊⛔▶?β" ∧ v.Keeps "◊🔒⛔▼α" "⊕◊⛔▶?β" := by
  intro v
  have valid : (v.validate .epoch "⊕◊⛔▶?β" (some "◊🔒⛔▼α")).valid = true := by decide +kernel
  have characterized := valid_iff_isWellFormed v Ontology.isAccepted_standard .epoch "⊕◊⛔▶?β"
    (some "◊🔒⛔▼α")
  obtain ⟨hraw, hparent⟩ := characterized.1.1 valid
  exact ⟨Ontology.isAccepted_standard, hraw, hparent _ rfl⟩

end Validator
end Mandate
