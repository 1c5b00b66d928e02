import Mandate.Document.Overlay
import Mandate.Document.Standing
import Mandate.Proofs.Document.Digits
import Mandate.Proofs.Document.Settled
import Mandate.Proofs.Scalar.Logarithm

/-!
# Documents that read back

What is written of a value reads back as that value, as long as its numbers are finite and its
counts are machine integers; with a number that is not finite it is refused. The main statement is
`readsBack`.
-/

namespace Mandate

open Datum

variable {F : Type}

/-! ## Texts -/

@[simp] theorem Instant.ofDatum?_toDatum (i : Instant) : ofDatum? (F := F) i.toDatum = some i :=
  i.ofText?_text

@[simp] theorem AuditId.ofDatum?_toDatum (i : AuditId) : ofDatum? (F := F) i.toDatum = some i :=
  i.ofText?_toText

@[simp] theorem Identity.ofDatum?_toDatum (i : Identity) :
    ofDatum? (F := F) i.toDatum = some i := by
  simp [ofDatum?, toDatum, i.ofHex_toHex, Except.toOption]

@[simp] theorem Datum.option?_ofOption_text (o : Option String) :
    (ofOption text o : Datum F).option? text? = some o :=
  option?_ofOption_self text?_text (fun _ => nofun) o

@[simp] theorem Datum.list?_ofList_text (xs : List String) :
    (ofList text xs : Datum F).list? text? = some xs :=
  list?_ofList_self text?_text xs

@[simp] theorem Instant.option?_ofOption_toDatum (o : Option Instant) :
    (ofOption toDatum o : Datum F).option? ofDatum? = some o :=
  option?_ofOption_self ofDatum?_toDatum (fun _ => nofun) o

/-! ## Names -/

@[simp] theorem SensitiveKind.firstNamed?_name (k : SensitiveKind) :
    firstNamed? all name k.name = some k := by
  cases k <;> decide

@[simp] theorem Constraint.firstNamed?_name (c : Constraint) :
    firstNamed? all name c.name = some c := by
  cases c <;> decide

@[simp] theorem FloorAction.firstNamed?_name (a : FloorAction) :
    firstNamed? all name a.name = some a := by
  cases a <;> decide

@[simp] theorem Gate.firstNamed?_name (g : Gate) : firstNamed? all name g.name = some g := by
  cases g <;> decide

@[simp] theorem GateAction.firstNamed?_name (a : GateAction) :
    firstNamed? all name a.name = some a := by
  cases a <;> decide

@[simp] theorem Tier.firstNamed?_name (t : Tier) : firstNamed? all name t.name = some t := by
  cases t <;> decide

@[simp] theorem Severity.firstNamed?_name (s : Severity) :
    firstNamed? all name s.name = some s := by
  cases s <;> decide

@[simp] theorem Circuit.firstNamed?_name (c : Circuit) :
    firstNamed? all name c.name = some c := by
  cases c <;> decide

/-! ## Symbols -/

namespace Kind

section

variable {dialect : Dialect} {others : List (String × Datum F)}
  (hnodup : (others.map Prod.fst).Nodup)
  (hothers : ∀ f ∈ others, f.1 ≠ "category" ∧ f.1 ≠ "strength")

include hnodup hothers

theorem strengthIn?_append (category : Datum F) (s : UInt8) :
    strengthIn? dialect (.record (others ++
      [("category", category), ("strength", .ofNat s.toNat)])) = some s := by
  have hnone : others.lookup "strength" = none :=
    List.lookup_eq_none_iff.2 fun f hf => by simp [(hothers f hf).2.symm]
  refine bind_fields?_record ?_ fun f h => ?_
  · rw [List.map_append]
    refine List.nodup_append.2 ⟨hnodup, by simp, fun name hname other hother => ?_⟩
    obtain ⟨f, hf, rfl⟩ := List.mem_map.1 hname
    have hne := hothers f hf
    grind
  · have hlookup : (others ++ [("category", category), ("strength", .ofNat s.toNat)]).lookup
        "strength" = some (.ofNat s.toNat) := by
      rw [List.lookup_append, hnone]
      rfl
    rw [h.required_eq (List.mem_singleton_self _) hlookup, strengthOf?, count?_ofNat,
      if_pos s.toNat_lt, Option.map_some, UInt8.ofNat_toNat]

/-- The kind is found behind other fields, as long as these are neither a category nor a
strength. -/
theorem ofFields?_append {k : Kind} {category? : Datum F → Option Category}
    (hcategory : category? (.text k.category.name) = some k.category) :
    ofFields? dialect category? (others ++ k.toFields) = some k := by
  have hnone : others.filter (fun f => f.1 = "category") = [] :=
    List.filter_eq_nil_iff.2 fun f hf => by simp [hothers f hf]
  have hfilter : (others ++ k.toFields).filter (fun f => f.1 = "category") =
      [("category", .text k.category.name)] := by
    rw [List.filter_append, hnone]
    cases k <;> rfl
  rw [ofFields?, hfilter]
  dsimp only
  rw [hcategory, Option.bind_eq_bind, Option.bind_some]
  cases k with
  | mode s => exact congrArg (Option.map Kind.mode) (strengthIn?_append hnodup hothers _ s)
  | constraint s =>
      exact congrArg (Option.map Kind.constraint) (strengthIn?_append hnodup hothers _ s)
  | _ => rfl

end

theorem ofDatum?_toDatum (k : Kind) : ofDatum? (F := F) k.toDatum = some k := by
  change ofFields? .json categoryOf? ([] ++ k.toFields) = some k
  refine ofFields?_append ?_ ?_ k.category.named?_name
  · exact List.nodup_nil
  · exact nofun

end Kind

theorem Symbol.ofDatum?_toDatum (dialect : Dialect) (s : Symbol) :
    ofDatum? (F := F) dialect s.toDatum = some s := by
  obtain ⟨token, name, description, kind⟩ := s
  have hkind : Kind.ofFields? (F := F) dialect (categoryOf? dialect)
      ([("token", .text token), ("canonical_name", .text name), ("description", .text description)]
        ++ kind.toFields) = some kind :=
    Kind.ofFields?_append (by simp) (by simp) kind.category.named?_name
  refine bind_fields?_record ?_ fun f h => ?_
  · cases kind <;> simp [Kind.toFields, fieldIf, Kind.strength?]
  · rw [hkind]
    simp [h.required_eq, h.withDefault_eq, List.lookup_cons]

theorem Symbol.option?_ofOption_toDatum (dialect : Dialect) (o : Option Symbol) :
    (ofOption toDatum o : Datum F).option? (ofDatum? dialect) = some o :=
  option?_ofOption_self (ofDatum?_toDatum dialect) (fun _ => nofun) o

theorem Symbol.list?_ofList_toDatum (dialect : Dialect) (xs : List Symbol) :
    (ofList toDatum xs : Datum F).list? (ofDatum? dialect) = some xs :=
  list?_ofList_self (ofDatum?_toDatum dialect) xs

/-! ## Numbers and counts -/

section

variable [Scalar F]

/-- All numbers of an uncertainty. -/
def Uncertainty.numbers (u : Uncertainty F) : List F :=
  [u.total, u.epistemic, u.aleatoric, u.ratio]

theorem Uncertainty.ofDatum?_toDatum (u : Uncertainty F) :
    ofDatum? u.toDatum = if u.numbers.all Scalar.isFinite then some u else none := by
  rw [ofDatum?, toDatum]
  refine bind_fields?_record ?_ fun f h => ?_
  · simp
  · simp [h.required_eq, List.lookup_cons, numbers, ite_and]

def Bucket.numbers (b : Bucket F) : List F :=
  [b.lower, b.upper, b.meanConfidence, b.accuracy]

/-- The count is a machine integer. -/
def Bucket.fits (b : Bucket F) : Bool :=
  b.count < countBound

theorem Bucket.ofDatum?_toDatum (b : Bucket F) :
    ofDatum? b.toDatum = if b.numbers.all Scalar.isFinite && b.fits then some b else none := by
  rw [ofDatum?, toDatum]
  refine bind_fields?_record ?_ fun f h => ?_
  · simp
  · simp [h.required_eq, List.lookup_cons, numbers, fits, ← ite_and, and_comm, and_left_comm]

def Calibration.numbers (c : Calibration F) : List F :=
  [c.ece, c.mce, c.brier] ++ c.buckets.flatMap Bucket.numbers

def Calibration.fits (c : Calibration F) : Bool :=
  c.windowSize < countBound && c.buckets.all Bucket.fits

theorem Calibration.ofDatum?_toDatum (c : Calibration F) :
    ofDatum? c.toDatum = if c.numbers.all Scalar.isFinite && c.fits then some c else none := by
  rw [ofDatum?, toDatum]
  refine bind_fields?_record ?_ fun f h => ?_
  · simp
  · simp [h.required_eq, h.withDefault_eq, List.lookup_cons, list?_ofList Bucket.ofDatum?_toDatum,
      numbers, fits, List.all_flatMap, all_and, ← ite_and, and_assoc, and_comm, and_left_comm]

end

/-! ## The floor -/

def SensitiveMatch.fits (m : SensitiveMatch) : Bool :=
  m.start < countBound && m.stop < countBound

theorem SensitiveMatch.ofDatum?_toDatum (m : SensitiveMatch) :
    ofDatum? (F := F) m.toDatum = if m.fits then some m else none := by
  rw [ofDatum?, toDatum]
  refine bind_fields?_record ?_ fun f h => ?_
  · simp
  · simp [h.required_eq, List.lookup_cons, fits, ite_and]

def Violation.fits (v : Violation) : Bool :=
  v.hits.all SensitiveMatch.fits

theorem Violation.ofDatum?_toDatum (v : Violation) :
    ofDatum? (F := F) v.toDatum = if v.fits then some v else none := by
  obtain ⟨constraint, action, message, hits⟩ := v
  rw [ofDatum?, toDatum]
  refine bind_fields?_record ?_ fun f h => ?_
  · cases hits <;> simp [hitsField]
  · cases hits with
    | nil => simp [h.required_eq, h.withDefault_eq_default, hitsField, List.lookup_cons, fits]
    | cons m ms =>
      simp [h.required_eq, h.withDefault_eq, hitsField, List.lookup_cons,
        list?_ofList SensitiveMatch.ofDatum?_toDatum, fits]

theorem Violation.option?_ofOption_toDatum (o : Option Violation) :
    (ofOption toDatum o : Datum F).option? ofDatum? = if o.all fits then some o else none :=
  option?_ofOption ofDatum?_toDatum (fun _ => nofun) o

def FloorVerdict.fits (v : FloorVerdict) : Bool :=
  v.violation.all Violation.fits

theorem FloorVerdict.ofDatum?_toDatum (v : FloorVerdict) :
    ofDatum? (F := F) v.toDatum = if v.fits then some v else none := by
  rw [ofDatum?, toDatum, fits]
  refine bind_fields?_record ?_ fun f h => ?_
  · simp
  · simp [h.required_eq, h.optional_eq, List.lookup_cons,
      Violation.option?_ofOption_toDatum]

/-! ## Decisions, reports and breakers -/

section

variable [Scalar F]

def Decision.numbers (d : Decision F) : List F :=
  [d.threshold, d.observed]

theorem Decision.ofDatum?_toDatum (d : Decision F) :
    ofDatum? d.toDatum = if d.numbers.all Scalar.isFinite then some d else none := by
  obtain ⟨gate, action, reason, floorTriggered, constraint, threshold, observed, auditId,
    decidedAt⟩ := d
  rw [ofDatum?, toDatum]
  refine bind_fields?_record ?_ fun f h => ?_
  · cases constraint <;> simp [fieldIf]
  · cases constraint with
    | none =>
      simp [h.required_eq, h.withDefault_eq_default, fieldIf, List.lookup_cons, Gate.ofDatum?,
        numbers, ite_and]
    | some c =>
      simp [h.required_eq, h.withDefault_eq, fieldIf, List.lookup_cons, Gate.ofDatum?,
        option?_of_ne_null, numbers, ite_and]

end

theorem Finding.ofDatum?_toDatum (x : Finding) : ofDatum? (F := F) x.toDatum = some x := by
  rw [ofDatum?, toDatum]
  refine bind_fields?_record ?_ fun f h => ?_
  · simp
  · simp [h.required_eq, List.lookup_cons]

theorem Report.ofDatum?_toDatum (r : Report) : ofDatum? (F := F) r.toDatum = some r := by
  obtain ⟨frame, parent, findings, valid, validatedAt⟩ := r
  rw [ofDatum?, toDatum]
  refine bind_fields?_record ?_ fun f h => ?_
  · cases parent <;> simp [fieldIf]
  · cases parent with
    | none =>
      simp [h.required_eq, h.withDefault_eq_default, fieldIf, List.lookup_cons,
        list?_ofList_self Finding.ofDatum?_toDatum]
    | some p =>
      simp [h.required_eq, h.withDefault_eq, fieldIf, List.lookup_cons, option?_of_ne_null,
        list?_ofList_self Finding.ofDatum?_toDatum]

section

variable [Scalar F]

def DriftAlert.numbers (a : DriftAlert F) : List F :=
  [a.score]

theorem DriftAlert.ofDatum?_toDatum (a : DriftAlert F) :
    ofDatum? a.toDatum = if a.numbers.all Scalar.isFinite then some a else none := by
  rw [ofDatum?, toDatum]
  refine bind_fields?_record ?_ fun f h => ?_
  · simp
  · simp [h.required_eq, List.lookup_cons, numbers]

def Breaker.numbers (b : Breaker F) : List F :=
  b.alerts.flatMap DriftAlert.numbers

def Breaker.fits (b : Breaker F) : Bool :=
  b.consecutiveFailures < failureBound && b.totalFailures < countBound

theorem Breaker.ofDatum?_toDatum (b : Breaker F) :
    ofDatum? b.toDatum = if b.numbers.all Scalar.isFinite && b.fits then some b else none := by
  rw [ofDatum?, toDatum]
  refine bind_fields?_record ?_ fun f h => ?_
  · simp
  · simp [h.required_eq, h.optional_eq, List.lookup_cons, list?_ofList DriftAlert.ofDatum?_toDatum,
      numbers, fits, List.all_flatMap, ← ite_and, and_assoc, and_comm]

def Comparison.numbers (c : Comparison F) : List F :=
  [c.score, c.agentDrift, c.frameDistance, c.behaviorMismatch]

theorem Comparison.ofDatum?_toDatum (c : Comparison F) :
    ofDatum? c.toDatum = if c.numbers.all Scalar.isFinite then some c else none := by
  rw [ofDatum?, toDatum]
  refine bind_fields?_record ?_ fun f h => ?_
  · simp
  · simp [h.required_eq, h.optional_eq, List.lookup_cons, numbers, ite_and]

/-! ## Frames -/

def Frame.numbers (f : Frame F) : List F :=
  [f.confidence]

def Frame.fits (f : Frame F) : Bool :=
  f.totalTokens < UInt64.size

theorem Frame.ofDatum?_toDatum (x : Frame F) :
    ofDatum? x.toDatum = if x.numbers.all Scalar.isFinite && x.fits then some x else none := by
  rw [ofDatum?, toDatum, fieldNames]
  refine bind_fields?_record ?_ fun f h => ?_
  · simp
  · simp [h.required_eq, h.optional_eq, List.lookup_cons, Symbol.list?_ofList_toDatum,
      Symbol.option?_ofOption_toDatum, numbers, fits, ← ite_and, and_comm]

end

/-! ## Overlays -/

theorem ToolBinding.ofDatum?_toDatum (dialect : Dialect) (t : ToolBinding) :
    ofDatum? (F := F) dialect t.toDatum = some t := by
  rw [ofDatum?, toDatum]
  refine bind_fields?_record ?_ fun f h => ?_
  · simp
  · simp [h.withDefault_eq, List.lookup_cons]

section

variable [Scalar F]

/-- The metadata are trees as a document is read into them. -/
def Override.isSettled (v : Override F) : Bool :=
  v.metadata.values.all Datum.isSettled

theorem Override.ofDatum?_toDatum (dialect : Dialect) {v : Override F} (hv : v.isSettled = true) :
    ofDatum? dialect v.toDatum = some v := by
  obtain ⟨description, metadata, tools, blocked⟩ := v
  have hmetadata : (ofKeyed id metadata).keyed? (fun d => some d.settle) = some metadata :=
    keyed?_ofKeyed fun d hd => congrArg some (settle_of_isSettled d (List.all_eq_true.1 hv d hd))
  rw [ofDatum?, toDatum]
  refine bind_fields?_record ?_ fun f h => ?_
  · cases description <;> simp [fieldIf]
  · cases description with
    | none =>
      simp [h.withDefault_eq, h.withDefault_eq_default, fieldIf, List.lookup_cons, hmetadata,
        ToolBinding.ofDatum?_toDatum]
    | some s =>
      simp [h.withDefault_eq, fieldIf, List.lookup_cons, option?_of_ne_null, hmetadata,
        ToolBinding.ofDatum?_toDatum]

def Overlay.isSettled (o : Overlay F) : Bool :=
  o.symbols.values.all Override.isSettled

theorem Overlay.ofDatum?_toDatum (dialect : Dialect) {o : Overlay F} (ho : o.isSettled = true) :
    ofDatum? dialect o.toDatum = some o := by
  have hsymbols : (ofKeyed Override.toDatum o.symbols).keyed? (Override.ofDatum? dialect) =
      some o.symbols :=
    keyed?_ofKeyed fun v hv => Override.ofDatum?_toDatum dialect (List.all_eq_true.1 ho v hv)
  rw [ofDatum?, toDatum]
  refine bind_fields?_record ?_ fun f h => ?_
  · simp
  · simp [h.required_eq, h.withDefault_eq, List.lookup_cons, hsymbols]

end

/-! ## All of them -/

section

variable [Scalar F]

/-- What is written of a value reads back as that value if its numbers are finite, as long as it
fits, and is refused if one of them is not finite. -/
structure ReadsBack {α : Type} (encode : α → Datum F) (decode : Datum F → Option α)
    (numbers : α → List F) (fits : α → Bool) : Prop where
  back : ∀ a, fits a = true → (∀ x ∈ numbers a, Scalar.isFinite x = true) →
    decode (encode a) = some a
  refused : ∀ a, ∀ x ∈ numbers a, Scalar.isFinite x = false → decode (encode a) = none

theorem ReadsBack.of_eq {α : Type} {encode : α → Datum F} {decode : Datum F → Option α}
    {numbers : α → List F} {fits : α → Bool}
    (h : ∀ a, decode (encode a) =
      if (numbers a).all Scalar.isFinite && fits a then some a else none) :
    ReadsBack encode decode numbers fits where
  back a hfits hfinite := by
    rw [h a, List.all_eq_true.2 hfinite, hfits]
    rfl
  refused a x hx hfinite := by
    have hall : (numbers a).all Scalar.isFinite = false :=
      List.all_eq_false.2 ⟨x, hx, Bool.eq_false_iff.1 hfinite⟩
    rw [h a, hall]
    rfl

theorem ReadsBack.of_numbers {α : Type} {encode : α → Datum F} {decode : Datum F → Option α}
    {numbers : α → List F}
    (h : ∀ a, decode (encode a) = if (numbers a).all Scalar.isFinite then some a else none) :
    ReadsBack encode decode numbers fun _ => true :=
  .of_eq fun a => by rw [h a, Bool.and_true]

theorem ReadsBack.of_fits {α : Type} {encode : α → Datum F} {decode : Datum F → Option α}
    {fits : α → Bool} (h : ∀ a, fits a = true → decode (encode a) = some a) :
    ReadsBack encode decode (fun _ => []) fits where
  back a hfits _ := h a hfits
  refused _ _ hx := nomatch hx

/-- Everything that is written as a document and read from one reads back, as long as its counts
are machine integers and its metadata settled trees, and a number that is not finite is refused. -/
theorem readsBack :
    ReadsBack (F := F) Symbol.toDatum (Symbol.ofDatum? .json) (fun _ => []) (fun _ => true) ∧
    ReadsBack (F := F) Kind.toDatum Kind.ofDatum? (fun _ => []) (fun _ => true) ∧
    ReadsBack (F := F) Uncertainty.toDatum Uncertainty.ofDatum? Uncertainty.numbers
      (fun _ => true) ∧
    ReadsBack (F := F) Calibration.toDatum Calibration.ofDatum? Calibration.numbers
      Calibration.fits ∧
    ReadsBack (F := F) FloorVerdict.toDatum FloorVerdict.ofDatum? (fun _ => [])
      FloorVerdict.fits ∧
    ReadsBack (F := F) Decision.toDatum Decision.ofDatum? Decision.numbers (fun _ => true) ∧
    ReadsBack (F := F) Report.toDatum Report.ofDatum? (fun _ => []) (fun _ => true) ∧
    ReadsBack (F := F) Breaker.toDatum Breaker.ofDatum? Breaker.numbers Breaker.fits ∧
    ReadsBack (F := F) Comparison.toDatum Comparison.ofDatum? Comparison.numbers
      (fun _ => true) ∧
    ReadsBack (F := F) Frame.toDatum Frame.ofDatum? Frame.numbers Frame.fits ∧
    ReadsBack (F := F) Overlay.toDatum (Overlay.ofDatum? .json) (fun _ => [])
      Overlay.isSettled := by
  refine ⟨.of_fits fun s _ => s.ofDatum?_toDatum .json, .of_fits fun k _ => k.ofDatum?_toDatum,
    .of_numbers Uncertainty.ofDatum?_toDatum, .of_eq Calibration.ofDatum?_toDatum,
    .of_fits fun v hv => ?_, .of_numbers Decision.ofDatum?_toDatum,
    .of_fits fun r _ => r.ofDatum?_toDatum, .of_eq Breaker.ofDatum?_toDatum,
    .of_numbers Comparison.ofDatum?_toDatum, .of_eq Frame.ofDatum?_toDatum,
    .of_fits fun o ho => Overlay.ofDatum?_toDatum .json ho⟩
  rw [v.ofDatum?_toDatum, if_pos hv]

end

section

open scoped Exact.Whole

/-- A breaker reads back with an alert of a finite score, and is refused with one of an infinite
score. -/
theorem readsBack_breaker :
    let alert (score : Exact) : DriftAlert Exact := ⟨score, "drift", true, .epoch⟩
    let breaker (score : Exact) : Breaker Exact :=
      { (.fresh "agent" .epoch : Breaker Exact) with
        consecutiveFailures := 2, alerts := [alert score] }
    (breaker (.finite 0.5)).fits = true ∧
      (∀ x ∈ (breaker (.finite 0.5)).numbers, Scalar.isFinite x = true) ∧
      Breaker.ofDatum? (breaker (.finite 0.5)).toDatum = some (breaker (.finite 0.5)) ∧
      .infinite false ∈ (breaker (.infinite false)).numbers ∧
      Scalar.isFinite (Exact.infinite false) = false ∧
      Breaker.ofDatum? (breaker (.infinite false)).toDatum = none := by
  intro alert breaker
  obtain ⟨-, -, -, -, -, -, -, hbreaker, -⟩ := readsBack (F := Exact)
  have hfits : (breaker (.finite 0.5)).fits = true := by decide +kernel
  have hfinite : ∀ x ∈ (breaker (.finite 0.5)).numbers, Scalar.isFinite x = true := by decide
  have hmem : .infinite false ∈ (breaker (.infinite false)).numbers := List.mem_singleton_self _
  exact ⟨hfits, hfinite, hbreaker.back _ hfits hfinite, hmem, rfl, hbreaker.refused _ _ hmem rfl⟩

end

end Mandate
