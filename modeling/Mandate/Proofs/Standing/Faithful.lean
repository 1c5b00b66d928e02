import Mandate.Proofs.Frame.Description
import Mandate.Proofs.Scalar.Zero
import Mandate.Proofs.Settings.Accepted
import Mandate.Proofs.Standing.Replay

/-!
# Faithful agents

An agent is faithful when all it does succeeds, and when it does the same on frames of one identity.
Nothing is ever held against such an agent: the main statement is `faithful_never_blocked`. What
carries it is that the agent has no baseline but of what it does itself (`acted_of_mem_records`), so
that every score of it is a mean of zeros (`score_of_like`).
-/

namespace Mandate

variable {F : Type}

/-! ## Scoring a run that is like its record -/

theorem sequenceDistance_self (as : List String) : (sequenceDistance as as : Float) = 0.0 := by
  simp only [sequenceDistance]
  split
  next => rfl
  next h =>
    rw [mismatches_eq_zero_iff.2 rfl]
    exact Binary64.share_zero (Nat.pos_of_ne_zero h)

theorem behaviorMismatch_self (bs : List String) : (behaviorMismatch bs bs : Float) = 0.0 := by
  have hnone : bs.countP (fun b => !bs.contains b) = 0 :=
    List.countP_eq_zero.2 fun b hb => by simp [hb]
  unfold behaviorMismatch
  split
  next => rfl
  next h =>
    rw [hnone]
    exact Binary64.share_zero (List.length_pos_iff.2 fun heq => h (List.isEmpty_iff.2 heq))

section Accepted

variable {s : BaselineSettings Float} (hs : Settings.checkBaseline s = .ok ())
include hs

theorem driftScore_zero : driftScore s 0.0 true 0.0 = 0.0 := by
  obtain ⟨-, ⟨hf, hf', -⟩, ⟨hi, hi', -⟩, ⟨hb, hb', -⟩, hsum, -⟩ :=
    Settings.checkBaseline_eq_ok_iff.1 hs
  have hindicator : (Scalar.indicator (!true) : Float) = 0.0 := rfl
  have hclamp : Scalar.clamp (0.0 : Float) 0.0 1.0 = 0.0 := by decide
  rw [driftScore, hindicator, Binary64.weighed_zero hf hi hb hf' hi' hb' hsum]
  exact hclamp

theorem smoothed_zero_zero : smoothed s 0.0 0.0 = 0.0 := by
  obtain ⟨-, -, -, -, -, ⟨hfinite, hlow, hhigh⟩, hsmoothing⟩ :=
    Settings.checkBaseline_eq_ok_iff.1 hs
  exact Binary64.smoothed_zero hfinite hlow hhigh (Bool.eq_false_iff.2 hsmoothing)

/-- A run that every record of its frame agrees with is scored at zero and adds no drift. -/
theorem Baseline.score_of_like {b b' : Baseline Float} {c : Conduct Float} {agent : String}
    {k : Comparison Float} (h : b.score? s agent c = some (k, b')) (hdrift : b.drift = 0.0)
    (hlike : ∀ r ∈ b.records, r.identity = c.frame.identity →
      r.tokens = c.frame.tokens ∧ r.interpretation = c.interpretation ∧ r.behaviors = c.behaviors) :
    k.score = 0.0 ∧ b'.drift = 0.0 := by
  obtain ⟨r, hr, heq⟩ := Option.map_eq_some_iff.1 h
  obtain ⟨hmem, hidentity⟩ := mem_records_of_newest? hr
  obtain ⟨htokens, hinterpretation, hbehaviors⟩ := hlike r hmem hidentity
  simp only [htokens, hinterpretation, hbehaviors, sequenceDistance_self, behaviorMismatch_self,
    decide_true, driftScore_zero hs, hdrift, smoothed_zero_zero hs] at heq
  obtain ⟨rfl, rfl⟩ := Prod.mk.inj heq
  exact ⟨rfl, rfl⟩

end Accepted

/-! ## What calls report of an agent -/

/-- The comparison that a reply reports, if it does. -/
def Reply.comparison? : Reply F → Option (Comparison F)
  | .comparison c => c
  | .operation r => r.comparison
  | .records _ | .transition _ | .verdict _ | .decision _ | .probes _ => none

namespace Engine

variable [Scalar F]

/-- A comparison is reported to the agent that it is about. -/
theorem subject?_of_comparison {e : Engine F} {stamp : Stamp} {s : Standing F} {c : Call F}
    {k : Comparison F} (h : (e.perform stamp s c).result.comparison? = some k) :
    c.subject? = some k.agent := by
  cases c with
  | compare own raw interpretation behaviors =>
      simp only [perform, Effect.map, compare, Reply.comparison?] at h
      split at h
      next => cases h
      next =>
        obtain rfl := Option.some.inj h
        exact congrArg some (Baselines.agent_compare ..).symm
  | operation own raw label success =>
      simp only [perform, Effect.map, Reply.comparison?] at h
      have hcourse := e.course_recordOperation stamp.now own raw label success s
      generalize e.recordOperation stamp.now own raw label success s = r at hcourse h
      cases hcourse with
      | failed | unreadable | learned | unknown => cases h
      | agreed _ scored | drifted _ scored =>
          obtain rfl := Option.some.inj h
          exact congrArg some (Baseline.agent_of_score? scored).symm
  | recordBaseline | failure | drift | halt | resume | recalibrate | floor | gate | tripwires =>
      cases h

section Alerts

variable {x : AuditRecord F} (hx : x.event = .driftDetected)
include hx

theorem not_mem_circuitEvent (e : Engine F) (now : Instant) (agent : String)
    (event : Breakers.Event F) (s : Standing F) :
    x ∉ (e.circuitEvent now agent event s).records := by
  intro h
  rcases event_of_mem_circuitEvent h with h | h <;> cases hx.symm.trans h

theorem not_mem_checkFloor (e : Engine F) (now : Instant) (signals : Signals F) (s : Standing F) :
    x ∉ (e.checkFloor now signals s).records :=
  fun h => nomatch hx.symm.trans (event_of_mem_checkFloor h)

omit [Scalar F] in
theorem not_mem_singleton {r : AuditRecord F} (hr : r.event ≠ .driftDetected) : x ∉ [r] :=
  fun h => hr (List.mem_singleton.1 h ▸ hx)

theorem agent_of_mem_recordDrift {e : Engine F} {now : Instant} {agent : String} {score : F}
    {reason : String} {s : Standing F}
    (h : x ∈ (e.recordDrift now agent score reason s).records) : x.agent = some agent := by
  rcases List.mem_append.1 h with h | h
  · exact (event_agent_of_mem_driftRecords h).2
  · exact absurd h (not_mem_circuitEvent hx e now agent _ s)

/-- A drift alert is left for the agent that the call is about. -/
theorem agent_of_driftDetected {e : Engine F} {stamp : Stamp} {s : Standing F} {c : Call F}
    (h : x ∈ (e.perform stamp s c).records) : x.agent = c.subject? := by
  cases c with
  | recordBaseline own raw interpretation behaviors =>
      simp only [perform, Effect.map, recordBaseline] at h
      split at h
      next => cases h
      next => exact absurd h (not_mem_singleton hx (by simp))
  | compare own raw interpretation behaviors =>
      simp only [perform, Effect.map, compare] at h
      split at h <;> cases h
  | operation own raw label success =>
      replace h : x ∈ (e.recordOperation stamp.now own raw label success s).records := h
      have hcourse := e.course_recordOperation stamp.now own raw label success s
      generalize e.recordOperation stamp.now own raw label success s = r at hcourse h
      cases hcourse with
      | failed counted =>
          subst counted
          exact absurd h (not_mem_circuitEvent hx e stamp.now own (.failure _) s)
      | unreadable | agreed | unknown => cases h
      | learned => exact absurd h (not_mem_singleton hx (by simp))
      | drifted _ _ _ _ reported =>
          subst reported
          exact agent_of_mem_recordDrift hx h
  | drift => exact agent_of_mem_recordDrift hx h
  | failure => exact absurd h (not_mem_circuitEvent hx e stamp.now _ (.failure _) s)
  | resume => exact absurd h (not_mem_circuitEvent hx e stamp.now _ (.close _) s)
  | halt =>
      rcases List.mem_cons.1 h with rfl | h
      · cases hx
      · exact absurd h (not_mem_circuitEvent hx e stamp.now _ (.halt _) s)
  | recalibrate =>
      rcases List.mem_cons.1 h with rfl | h
      · cases hx
      · exact absurd h (not_mem_circuitEvent hx e stamp.now _ (.close _) _)
  | floor => exact absurd h (not_mem_checkFloor hx e stamp.now _ s)
  | gate =>
      rcases List.mem_append.1 h with h | h
      · exact absurd h (not_mem_checkFloor hx e stamp.now _ s)
      · exact absurd h (not_mem_singleton hx (by simp))
  | tripwires => exact absurd h (not_mem_singleton hx (by simp))

end Alerts

/-! ## Faithfulness -/

/-- The calls have a success of the agent with this label on a raw frame that reads as this. -/
def Acted (e : Engine F) (agent : String) (calls : List (Stamp × Call F)) (f : Frame F)
    (label : String) : Prop :=
  ∃ stamp raw, (stamp, .operation agent raw label true) ∈ calls ∧ e.parse? raw = some f

/-- All that bears on the agent is successes of it, and it acts alike on frames of one identity. -/
structure IsFaithful (e : Engine F) (agent : String) (calls : List (Stamp × Call F)) : Prop where
  succeeds : ∀ c ∈ calls, c.2.subject? = some agent →
    ∃ raw label, c.2 = .operation agent raw label true
  alike : ∀ {f f' label label'}, e.Acted agent calls f label → e.Acted agent calls f' label' →
    f.identity = f'.identity → f.tokens = f'.tokens ∧ label = label'

variable {e : Engine F} {agent : String} {before calls : List (Stamp × Call F)}

theorem Acted.mono {f : Frame F} {label : String} (hsub : before ⊆ calls)
    (h : e.Acted agent before f label) : e.Acted agent calls f label := by
  obtain ⟨stamp, raw, hmem, hread⟩ := h
  exact ⟨stamp, raw, hsub hmem, hread⟩

theorem IsFaithful.anti (h : e.IsFaithful agent calls) (hsub : before ⊆ calls) :
    e.IsFaithful agent before where
  succeeds c hc := h.succeeds c (hsub hc)
  alike hf hf' := h.alike (hf.mono hsub) (hf'.mono hsub)

/-- All baselines of a faithful agent are of what it did. -/
theorem acted_of_mem_records (h : e.IsFaithful agent calls) {r : BaselineRecord}
    (hr : r ∈ (e.run .blank calls).baselines.records agent) :
    ∃ f label now, e.Acted agent calls f label ∧ r = (conduct f label).record now := by
  rw [records_run] at hr
  obtain ⟨past, c, later, rfl, hmakes⟩ := mem_made_iff.1 ((keepNewest_sublist ..).subset hr)
  have hc : c ∈ past ++ c :: later := List.mem_append_right _ List.mem_cons_self
  cases hmakes with
  | demanded =>
      obtain ⟨_, _, heq⟩ := h.succeeds _ hc rfl
      cases heq
  | learned read => exact ⟨_, _, _, ⟨_, _, hc, read⟩, (record_conduct ..).symm⟩

/-- A faithful agent does what its baselines expect of it. -/
theorem IsFaithful.like {stamp : Stamp} {raw label : String} {f : Frame F}
    (h : e.IsFaithful agent (before ++ [(stamp, .operation agent raw label true)]))
    (hread : e.parse? raw = some f) {r : BaselineRecord}
    (hr : r ∈ (e.run .blank before).baselines.records agent) (heq : r.identity = f.identity) :
    r.tokens = f.tokens ∧ r.interpretation = f.describe ∧ r.behaviors = [label] := by
  obtain ⟨g, own, _, hacted, rfl⟩ :=
    acted_of_mem_records (h.anti (List.subset_append_left ..)) hr
  have hnow : e.Acted agent (before ++ [(stamp, .operation agent raw label true)]) f label :=
    ⟨stamp, raw, List.mem_append_right _ (List.mem_singleton_self _), hread⟩
  obtain ⟨htokens, hlabel⟩ := h.alike (hacted.mono (List.subset_append_left ..)) hnow heq
  obtain ⟨_, past, _, hpast⟩ := hacted
  rw [record_conduct]
  exact ⟨htokens, Frame.describe_eq_of_tokens_eq hpast hread htokens, hlabel ▸ rfl⟩

end Engine

/-! ## Nothing is held against a faithful agent -/

/-- There is nothing against the agent of whom this is known. -/
structure Profile.IsSpotless (p : Profile Float) : Prop where
  breaker : p.breaker = none
  drift : (p.baseline.getD .blank).drift = 0.0

namespace Engine

/-- Nothing that comes of a call speaks against the agent. -/
structure Spares (agent : String) (r : Effect Float (Reply Float)) : Prop where
  standing : (r.standing.profile agent).IsSpotless
  comparison : ∀ k, r.result.comparison? = some k → k.agent = agent → k.score = 0.0
  records : ∀ x ∈ r.records, x.event = .driftDetected → x.agent ≠ some agent

variable {e : Engine Float} {agent : String} {before calls : List (Stamp × Call Float)}

theorem breaker_succeeded (now : Instant) {s : Standing Float}
    (h : s.breakers.get? agent = none) : (e.succeeded now agent s).breakers.get? agent = none := by
  refine (Breakers.get?_handle_self e.settings.breaker now agent .success _).trans ?_
  rw [h]
  rfl

theorem spares_operation (hs : Settings.checkBaseline e.settings.baseline = .ok ())
    {stamp : Stamp} {s : Standing Float} {raw label : String}
    (hspotless : (s.profile agent).IsSpotless)
    (hlike : ∀ f, e.parse? raw = some f → ∀ r ∈ s.baselines.records agent,
      r.identity = f.identity →
        r.tokens = f.tokens ∧ r.interpretation = f.describe ∧ r.behaviors = [label]) :
    Spares agent (e.perform stamp s (.operation agent raw label true)) := by
  have hbreaker := breaker_succeeded (e := e) stamp.now hspotless.breaker
  have hcourse := e.course_recordOperation stamp.now agent raw label true s
  rw [perform]
  generalize e.recordOperation stamp.now agent raw label true s = r at hcourse ⊢
  cases hcourse with
  | unreadable counted | unknown _ _ _ counted =>
      subst counted
      exact ⟨⟨hbreaker, hspotless.drift⟩, by rintro _ ⟨⟩, by rintro _ ⟨⟩⟩
  | learned _ _ _ made counted =>
      subst counted
      refine ⟨⟨hbreaker, ?_⟩, by rintro _ ⟨⟩, fun x hx heq => ?_⟩
      · have hdrift := Baselines.drift_record s.baselines e.settings.baseline stamp.now agent
        exact (made ▸ hdrift _ :).trans hspotless.drift
      · exact absurd hx (not_mem_singleton heq (by simp))
  | agreed read scored _ counted =>
      subst counted
      obtain ⟨hscore, hdrift⟩ := Baseline.score_of_like hs scored hspotless.drift (hlike _ read)
      refine ⟨⟨hbreaker, ?_⟩, fun k hk _ => ?_, by rintro _ ⟨⟩⟩
      · exact (Baselines.drift_insert_self ..).trans hdrift
      · obtain rfl := Option.some.inj hk
        exact hscore
  | drifted read scored high counted reported =>
      obtain ⟨hscore, _⟩ := Baseline.score_of_like hs scored hspotless.drift (hlike _ read)
      rw [hscore] at high
      exact absurd high (by decide)

theorem spares_perform (hs : Settings.checkBaseline e.settings.baseline = .ok ())
    {c : Stamp × Call Float} (hfaithful : e.IsFaithful agent (before ++ [c]))
    (hspotless : ((e.run .blank before).profile agent).IsSpotless) :
    Spares agent (e.perform c.1 (e.run .blank before) c.2) := by
  by_cases hown : c.2.subject? = some agent
  · obtain ⟨stamp, call⟩ := c
    obtain ⟨raw, label, rfl⟩ :=
      hfaithful.succeeds _ (List.mem_append_right _ (List.mem_singleton_self _)) hown
    exact spares_operation hs hspotless fun f hread r hr heq => hfaithful.like hread hr heq
  · refine ⟨?_, fun k hk hagent => ?_, fun x hx hdrift hagent => ?_⟩
    · rw [e.profile_perform_of_ne c.1 _ hown]
      exact hspotless
    · exact absurd (hagent ▸ subject?_of_comparison hk) hown
    · exact absurd ((agent_of_driftDetected hdrift hx).symm.trans hagent) hown

theorem isSpotless_run (hs : Settings.checkBaseline e.settings.baseline = .ok ())
    (h : e.IsFaithful agent calls) : ((e.run .blank calls).profile agent).IsSpotless := by
  induction calls using List.reverseRecOn with
  | nil => exact ⟨rfl, rfl⟩
  | append_singleton cs c ih =>
      rw [run_concat]
      exact (spares_perform hs h (ih (h.anti (List.subset_append_left ..)))).standing

/-- Whatever the others do, after every call of a run in which an agent is faithful its circuit is
closed, its drift is zero and there is no breaker of it that could hold a drift alert. Every
comparison that is reported for it scores zero, and no call leaves a record of drift of it. -/
theorem faithful_never_blocked {settings : Settings Float} {ontology : Ontology}
    {overlay : Option (Overlay Float)} (hbuild : build settings ontology overlay = .ok e)
    (h : e.IsFaithful agent calls) :
    (∀ before, before <+: calls →
      let s := e.run .blank before
      isAllowed s agent = true ∧ s.baselines.drift agent = 0.0 ∧ s.breakers.get? agent = none) ∧
    ∀ before c after, calls = before ++ c :: after →
      let r := e.perform c.1 (e.run .blank before) c.2
      (∀ k, r.result.comparison? = some k → k.agent = agent → k.score = 0.0) ∧
      ∀ x ∈ r.records, x.event = .driftDetected → x.agent ≠ some agent := by
  obtain ⟨-, hs, -⟩ := Settings.check_eq_ok_iff.1 (check_settings_of_build hbuild)
  refine ⟨fun before hbefore => ?_, ?_⟩
  · have hspotless := isSpotless_run hs (h.anti hbefore.subset)
    have hbreaker : (e.run .blank before).breakers.get? agent = none := hspotless.breaker
    have hallowed : isAllowed (e.run .blank before) agent = true := by
      simp [isAllowed, Breakers.isAllowed, hbreaker]
    exact ⟨hallowed, hspotless.drift, hbreaker⟩
  · rintro before c after rfl
    have hcall : e.IsFaithful agent (before ++ [c]) := h.anti (by simp)
    have hspares := spares_perform hs hcall (isSpotless_run hs (hcall.anti (by simp)))
    exact ⟨hspares.comparison, hspares.records⟩

/-- An agent that does the same on two spellings of a frame may act, while another is halted. -/
theorem faithful_never_blocked_two_spellings :
    let stamp : Stamp := ⟨.epoch, .zero⟩
    let last : Stamp × Call Float := (stamp, .operation "a1" "⊕ ◊ ▶ β" "deploy" true)
    let before : List (Stamp × Call Float) :=
      [(stamp, .operation "a1" "⊕◊▶β" "deploy" true), (stamp, .halt "b2" "unruly")]
    let reply := (standard.perform stamp (standard.run .blank before) last.2).result
    build .default .standard none = .ok standard ∧
      standard.IsFaithful "a1" (before ++ [last]) ∧
      isAllowed (standard.run .blank (before ++ [last])) "a1" = true ∧
      ∀ k, reply.comparison? = some k → k.agent = "a1" → k.score = 0.0 := by
  intro stamp last before reply
  have built : build .default .standard none = .ok standard := rfl
  have spellings : Ontology.standard.matched "⊕ ◊ ▶ β" = Ontology.standard.matched "⊕◊▶β" := by
    decide +kernel
  have tokens {f : Frame Float} {label : String}
      (h : standard.Acted "a1" (before ++ [last]) f label) :
      f.tokens = (Ontology.standard.matched "⊕◊▶β").map (·.token) ∧ label = "deploy" := by
    obtain ⟨moment, raw, hmem, hread⟩ := h
    have hraw : (moment = stamp ∧ raw = "⊕◊▶β" ∧ label = "deploy") ∨
        (moment = stamp ∧ raw = "⊕ ◊ ▶ β" ∧ label = "deploy") := by
      simpa [before, last] using hmem
    rw [Frame.tokens, Frame.symbols_of_parse? hread]
    rcases hraw with ⟨-, rfl, rfl⟩ | ⟨-, rfl, rfl⟩
    · exact ⟨rfl, rfl⟩
    · exact ⟨congrArg _ spellings, rfl⟩
  have faithful : standard.IsFaithful "a1" (before ++ [last]) := by
    refine ⟨fun c hc hown => ?_, fun hf hf' _ => ?_⟩
    · simp only [before, last, List.cons_append, List.nil_append, List.mem_cons,
        List.not_mem_nil, or_false] at hc
      rcases hc with rfl | rfl | rfl
      · exact ⟨_, _, rfl⟩
      · simp [Call.subject?] at hown
      · exact ⟨_, _, rfl⟩
    · obtain ⟨hfirst, hlabel⟩ := tokens hf
      obtain ⟨hsecond, hlabel'⟩ := tokens hf'
      exact ⟨hfirst.trans hsecond.symm, hlabel.trans hlabel'.symm⟩
  obtain ⟨clear, scored⟩ := faithful_never_blocked built faithful
  exact ⟨built, faithful, (clear _ List.prefix_rfl).1, (scored before last [] rfl).1⟩

end Engine
end Mandate
