import Mandate.Engine.Run
import Mandate.Proofs.Breaker.Run

/-!
# What a call does

A call bears on the circuit and the baseline of one agent at most, and leaves what is known of every
other agent as it is (`breakers_perform_of_ne`, `baselines_perform_of_ne`). The one call with many
outcomes is the report of an operation: `Course` lists the courses that it can take, and
`course_recordOperation` says that it takes one of them.
-/

namespace Mandate

variable {F : Type}

/-- The agent on whose circuit or baseline a call bears. The floor, the gates and the tripwires bear
on none. -/
def Call.subject? : Call F → Option String
  | .recordBaseline agent .. | .compare agent .. | .operation agent .. | .failure agent _
  | .drift agent .. | .halt agent _ | .resume agent | .recalibrate agent => some agent
  | .floor _ | .gate _ | .tripwires .. => none

/-- What is known of one agent. -/
structure Profile (F : Type) where
  breaker : Option (Breaker F)
  baseline : Option (Baseline F)

def Standing.profile (s : Standing F) (agent : String) : Profile F :=
  ⟨s.breakers.get? agent, s.baselines.get? agent⟩

namespace Engine

variable [Scalar F]

/-! ## Runs -/

theorem run_concat (e : Engine F) (s : Standing F) (cs : List (Stamp × Call F))
    (c : Stamp × Call F) :
    e.run s (cs ++ [c]) = (e.perform c.1 (e.run s cs) c.2).standing :=
  e.run_append s cs [c]

theorem trail_concat (e : Engine F) (s : Standing F) (cs : List (Stamp × Call F))
    (c : Stamp × Call F) :
    e.trail s (cs ++ [c]) = e.trail s cs ++ (e.perform c.1 (e.run s cs) c.2).records := by
  rw [trail_append]
  simp [trail]

/-! ## What the records are about -/

section Records

variable {e : Engine F} {now : Instant} {agent : String} {s : Standing F} {x : AuditRecord F}

/-- A circuit leaves no records but of its changes. -/
theorem event_of_mem_circuitEvent {event : Breakers.Event F}
    (h : x ∈ (e.circuitEvent now agent event s).records) :
    x.event = .circuitOpened ∨ x.event = .circuitClosed := by
  obtain ⟨⟨_, _, target, _⟩, -, rfl⟩ := List.mem_map.1 h
  cases target with
  | opened => exact Or.inl rfl
  | closed => exact Or.inr rfl

theorem event_agent_of_mem_driftRecords {score : F} {reason : String}
    (h : x ∈ driftRecords now agent score reason) :
    x.event = .driftDetected ∧ x.agent = some agent := by
  unfold driftRecords at h
  split at h
  next =>
    obtain rfl := List.mem_singleton.1 h
    exact ⟨rfl, rfl⟩
  next => cases h

theorem event_of_mem_checkFloor {signals : Signals F}
    (h : x ∈ (e.checkFloor now signals s).records) : x.event = .immutableViolation := by
  obtain ⟨v, -, rfl⟩ := List.mem_map.1 h
  rfl

end Records

/-! ## The courses of an operation -/

/-- What is known after a success was counted. -/
def succeeded (e : Engine F) (now : Instant) (agent : String) (s : Standing F) : Standing F :=
  (e.circuitEvent now agent .success s).standing

theorem isAllowed_succeeded (e : Engine F) (now : Instant) (agent : String) (s : Standing F) :
    isAllowed (e.succeeded now agent s) agent = isAllowed s agent := by
  have hopen : Breakers.isOpenIn ((e.succeeded now agent s).breakers.get? agent) =
      Breakers.isOpenIn (s.breakers.get? agent) := by
    refine (congrArg _ (Breakers.get?_handle_self e.settings.breaker now agent .success _)).trans ?_
    exact Breakers.isOpenIn_map_succeed _ now
  exact congrArg (!·) hopen

/-- The agent may learn from a success on the raw frame. -/
def MayLearn (e : Engine F) (now : Instant) (agent raw : String) (s : Standing F) : Prop :=
  (e.validate now raw none).valid = true ∧ isAllowed s agent = true

/-- How a successful operation on a frame is acted on. -/
def conduct (f : Frame F) (label : String) : Conduct F :=
  ⟨f, f.describe, [label]⟩

/-- The courses that an operation can take, each with what comes of it. -/
inductive Course (e : Engine F) (now : Instant) (agent raw label : String) (s : Standing F) :
    Bool → Effect F (OperationReport F) → Prop where
  | failed {r : Effect F (Option Transition)}
      (counted : r = e.recordFailure now agent ("operation failed: " ++ label) s) :
      Course e now agent raw label s false
        ⟨{ plainReport agent false r.standing with transition := r.result }, r.standing, r.records⟩
  | unreadable {s' : Standing F} (counted : s' = e.succeeded now agent s)
      (unread : e.parse? raw = none) :
      Course e now agent raw label s true ⟨plainReport agent true s', s', []⟩
  | learned {s' : Standing F} {f : Frame F} {n : Nat} {bs : Baselines F}
      (read : e.parse? raw = some f) (new : s.baselines.knows agent f.identity = false)
      (permitted : e.MayLearn now agent raw s)
      (made : s.baselines.record e.settings.baseline now agent (conduct f label) = (n, bs))
      (counted : s' = { e.succeeded now agent s with baselines := bs }) :
      Course e now agent raw label s true
        ⟨{ plainReport agent true s' with baselineRecorded := true }, s',
          [baselineRecord now agent f [("records", .ofNat n)]]⟩
  | agreed {s' : Standing F} {f : Frame F} {c : Comparison F} {b : Baseline F}
      (read : e.parse? raw = some f)
      (scored : (s.baselines.baseline agent).score? e.settings.baseline agent (conduct f label) =
        some (c, b))
      (low : ¬ 0.0 < c.score)
      (counted : s' =
        { e.succeeded now agent s with baselines := s.baselines.insert agent b }) :
      Course e now agent raw label s true
        ⟨{ plainReport agent true s' with comparison := some c }, s', []⟩
  | drifted {s' : Standing F} {f : Frame F} {c : Comparison F} {b : Baseline F}
      {r : Effect F (Option Transition)}
      (read : e.parse? raw = some f)
      (scored : (s.baselines.baseline agent).score? e.settings.baseline agent (conduct f label) =
        some (c, b))
      (high : 0.0 < c.score)
      (counted : s' =
        { e.succeeded now agent s with baselines := s.baselines.insert agent b })
      (reported : r = e.recordDrift now agent c.score
        ("operation " ++ label ++ " drifted on " ++ f.raw) s') :
      Course e now agent raw label s true
        ⟨{ plainReport agent true r.standing with comparison := some c, transition := r.result },
          r.standing, r.records⟩
  | unknown {s' : Standing F} {f : Frame F} (read : e.parse? raw = some f)
      (new : s.baselines.knows agent f.identity = false) (barred : ¬ e.MayLearn now agent raw s)
      (counted : s' = e.succeeded now agent s) :
      Course e now agent raw label s true ⟨plainReport agent true s', s', []⟩

theorem course_recordOperation (e : Engine F) (now : Instant) (agent raw label : String)
    (success : Bool) (s : Standing F) :
    e.Course now agent raw label s success (e.recordOperation now agent raw label success s) := by
  cases success with
  | false => exact .failed rfl
  | true =>
      cases hread : e.parse? raw with
      | none =>
          simp only [recordOperation, Bool.not_true, Bool.false_eq_true, if_false, hread]
          exact .unreadable rfl hread
      | some f =>
          have hbase : (e.circuitEvent now agent .success s).standing.baselines = s.baselines := rfl
          have hconduct : ⟨f, f.describe, [label]⟩ = conduct f label := rfl
          simp only [recordOperation, Bool.not_true, Bool.false_eq_true, if_false, hread, hbase,
            hconduct]
          cases hscore : (s.baselines.baseline agent).score? e.settings.baseline agent
              (conduct f label) with
          | some p =>
              obtain ⟨c, b⟩ := p
              simp only [Baselines.observe_of_scored hscore, observed]
              by_cases hhigh : 0.0 < c.score
              · rw [if_pos hhigh]
                exact .drifted hread hscore hhigh rfl rfl
              · rw [if_neg hhigh]
                exact .agreed hread hscore hhigh rfl
          | none =>
              have hnew : s.baselines.knows agent (conduct f label).frame.identity = false :=
                Baseline.score?_eq_none_iff.1 hscore
              have hallowed := e.isAllowed_succeeded now agent s
              simp only [Baselines.observe_of_new hnew]
              split
              next hmay =>
                have hmay := Bool.and_eq_true_iff.1 hmay
                exact .learned hread hnew ⟨hmay.1, hallowed.symm.trans hmay.2⟩ rfl rfl
              next hmay =>
                refine .unknown hread hnew (fun h => hmay ?_) rfl
                exact Bool.and_eq_true_iff.2 ⟨h.1, hallowed.trans h.2⟩

/-! ## The other agents -/

section Other

variable {agent other : String} (h : other ≠ agent) (e : Engine F) (now : Instant) (s : Standing F)
include h

theorem profile_circuitEvent_of_ne (event : Breakers.Event F) :
    (e.circuitEvent now agent event s).standing.profile other = s.profile other :=
  congrArg (Profile.mk · _) (Breakers.get?_handle_of_ne e.settings.breaker now h event s.breakers)

theorem profile_recordBaseline_of_ne (raw interpretation : String) (behaviors : List String) :
    (e.recordBaseline now agent raw interpretation behaviors s).standing.profile other =
      s.profile other := by
  unfold recordBaseline
  split
  next => rfl
  next => exact congrArg (Profile.mk _) (Baselines.get?_record_of_ne h ..)

theorem profile_compare_of_ne (raw interpretation : String) (behaviors : List String) :
    (e.compare agent raw interpretation behaviors s).standing.profile other =
      s.profile other := by
  unfold compare
  split
  next => rfl
  next => exact congrArg (Profile.mk _) (Baselines.get?_compare_of_ne h ..)

theorem profile_recalibrate_of_ne :
    (e.recalibrate now agent s).standing.profile other = s.profile other := by
  refine (profile_circuitEvent_of_ne h e now _ _).trans ?_
  exact congrArg (Profile.mk _) (Baselines.get?_recalibrate_of_ne h ..)

theorem profile_recordOperation_of_ne (raw label : String) (success : Bool) :
    (e.recordOperation now agent raw label success s).standing.profile other =
      s.profile other := by
  have hcounted : (e.succeeded now agent s).profile other = s.profile other :=
    profile_circuitEvent_of_ne h e now s .success
  have hkept {bs : Baselines F} (hbs : bs.get? other = s.baselines.get? other) :
      Standing.profile { e.succeeded now agent s with baselines := bs } other = s.profile other :=
    Profile.mk.injEq .. ▸ ⟨congrArg Profile.breaker hcounted, hbs⟩
  have hcourse := e.course_recordOperation now agent raw label success s
  generalize e.recordOperation now agent raw label success s = r at hcourse ⊢
  cases hcourse with
  | failed counted => exact counted ▸ profile_circuitEvent_of_ne h e now s (.failure _)
  | unreadable counted => exact counted ▸ hcounted
  | learned _ _ _ made counted =>
      have hbs := Baselines.get?_record_of_ne h s.baselines e.settings.baseline now
      exact counted ▸ hkept (made ▸ hbs _ :)
  | agreed _ _ _ counted => exact counted ▸ hkept (Keyed.get?_insert_of_ne _ h _)
  | drifted _ _ _ counted reported =>
      have hreported := profile_circuitEvent_of_ne h e now
      exact reported ▸ (hreported _ (.drift _ _)).trans
        (counted ▸ hkept (Keyed.get?_insert_of_ne _ h _))
  | unknown _ _ _ counted => exact counted ▸ hcounted

end Other

/-- A call leaves what is known of every agent but its own as it is. -/
theorem profile_perform_of_ne (e : Engine F) (stamp : Stamp) (s : Standing F) {c : Call F}
    {other : String} (h : c.subject? ≠ some other) :
    (e.perform stamp s c).standing.profile other = s.profile other := by
  have hne {agent : String} (h : some agent ≠ some other) : other ≠ agent :=
    fun heq => h (congrArg some heq.symm)
  cases c with
  | recordBaseline => exact profile_recordBaseline_of_ne (hne h) e stamp.now s _ _ _
  | compare => exact profile_compare_of_ne (hne h) e s _ _ _
  | operation => exact profile_recordOperation_of_ne (hne h) e stamp.now s _ _ _
  | failure => exact profile_circuitEvent_of_ne (hne h) e stamp.now s (.failure _)
  | drift => exact profile_circuitEvent_of_ne (hne h) e stamp.now s (.drift _ _)
  | halt => exact profile_circuitEvent_of_ne (hne h) e stamp.now s (.halt _)
  | resume => exact profile_circuitEvent_of_ne (hne h) e stamp.now s (.close _)
  | recalibrate => exact profile_recalibrate_of_ne (hne h) e stamp.now s
  | floor | gate | tripwires => rfl

end Engine
end Mandate
