import Mandate.Tripwire
import Mathlib.Data.List.Induction

/-!
# Runs of the tripwires

A request gives an agent some probes or forgets it; a run serves requests one after the other. The
history of an agent counts every probe that it was given since it was last forgotten and every one
that it failed, and holds the newest of the outcomes, however many probes are given at once
(`isTallyOf_after`).
-/

namespace Mandate

namespace ProbeHistory

/-- The history counts all of some outcomes and holds the newest of them. -/
structure IsTallyOf (windowSize : Nat) (outcomes : List Bool) (h : ProbeHistory) : Prop where
  recent : h.recent = keepNewest windowSize outcomes
  totalProbes : h.totalProbes = outcomes.length
  totalFailures : h.totalFailures = outcomes.countP (!·)

theorem isTallyOf_blank (windowSize : Nat) : blank.IsTallyOf windowSize [] :=
  ⟨List.drop_nil.symm, rfl, rfl⟩

theorem IsTallyOf.add {s : TripwireSettings} {outcomes : List Bool} {h : ProbeHistory}
    (tally : h.IsTallyOf s.windowSize outcomes) (now : Instant) (more : List Bool) :
    (h.add s now more).IsTallyOf s.windowSize (outcomes ++ more) := by
  obtain ⟨recent, totalProbes, totalFailures⟩ := tally
  refine ⟨?_, ?_, ?_⟩
  · rw [ProbeHistory.add, recent]
    exact foldl_remember ..
  · rw [ProbeHistory.add, totalProbes, List.length_append]
  · rw [ProbeHistory.add, totalFailures, List.countP_append]

theorem IsTallyOf.failureRate_eq {F : Type} [Scalar F] {windowSize : Nat} {outcomes : List Bool}
    {h : ProbeHistory} (tally : h.IsTallyOf windowSize outcomes) :
    (h.failureRate : F) =
      if h.recent = [] then 0.0
      else Scalar.share (h.recent.countP (!·)) (min windowSize outcomes.length) := by
  simp only [failureRate, List.isEmpty_iff]
  rw [← length_keepNewest, ← tally.recent]

end ProbeHistory

namespace Tripwires

/-- Something that can be done about the probes of an agent. -/
inductive Request where
  | pose (agent : String) (interpreter : Interpreter) (probes : List Probe)
  /-- Forgets the agent. -/
  | reset (agent : String)

namespace Request

def agent : Request → String
  | pose agent .. | reset agent => agent

def isReset : Request → Bool
  | reset _ => true
  | pose .. => false

/-- Whether each of the probes is read as expected, in order. -/
def outcomes : Request → List Bool
  | pose _ interpreter probes => probes.map fun p => interpreter p.frame = some p.expected
  | reset _ => []

end Request

/-- Whether each probe of an agent was read as expected since it was last forgotten, in order. -/
def outcomes (agent : String) (rs : List (Instant × Request)) : List Bool :=
  (sinceLast (·.2.agent = agent) (·.2.isReset) rs).flatMap (·.2.outcomes)

theorem outcomes_concat (agent : String) (rs : List (Instant × Request)) (r : Instant × Request) :
    outcomes agent (rs ++ [r]) =
      if r.2.agent = agent then
        if r.2.isReset then [] else outcomes agent rs ++ r.2.outcomes
      else outcomes agent rs := by
  simp only [outcomes, sinceLast_concat, decide_eq_true_eq]
  split
  · split
    · rfl
    · rw [List.flatMap_append, List.flatMap_singleton]
  · rfl

variable {F : Type} [Scalar F]

/-- What is known of the agents after a request, and what came of the probes if there were any. -/
def serve (ts : Tripwires) (s : TripwireSettings) (now : Instant) :
    Request → Option (ProbeRun F) × Tripwires
  | .pose agent interpreter probes => (ts.run s now agent interpreter probes).map some id
  | .reset agent => (none, (ts.reset agent).2)

variable (F) in
/-- What is known of the agents after some requests, each with its moment. -/
def after (s : TripwireSettings) (ts : Tripwires) (rs : List (Instant × Request)) : Tripwires :=
  rs.foldl (fun ts r => (ts.serve s r.1 r.2 (F := F)).2) ts

variable (F) in
theorem after_concat (s : TripwireSettings) (ts : Tripwires) (rs : List (Instant × Request))
    (r : Instant × Request) :
    after F s ts (rs ++ [r]) = ((after F s ts rs).serve s r.1 r.2 (F := F)).2 :=
  List.foldl_append

/-! ## One request -/

omit [Scalar F] in
theorem passed_pose (interpreter : Interpreter) (probes : List Probe) :
    (probes.map (·.pose interpreter)).map (·.passed) =
      probes.map fun p => decide (interpreter p.frame = some p.expected) :=
  List.map_map

/-- What a request makes of the history of its agent. -/
theorem history_serve (ts : Tripwires) (s : TripwireSettings) (now : Instant) (r : Request) :
    (ts.serve s now r (F := F)).2.history r.agent =
      if r.isReset then .blank else (ts.history r.agent).add s now r.outcomes := by
  cases r with
  | pose agent interpreter probes =>
      rw [Request.outcomes, ← passed_pose]
      exact congrArg (Option.getD · _) (Keyed.get?_insert_self ..)
  | reset agent => exact congrArg (Option.getD · _) (Keyed.get?_erase_self ..)

theorem history_serve_of_ne (ts : Tripwires) (s : TripwireSettings) (now : Instant) {r : Request}
    {other : String} (h : other ≠ r.agent) :
    (ts.serve s now r (F := F)).2.history other = ts.history other := by
  refine congrArg (Option.getD · _) ?_
  cases r with
  | pose => exact Keyed.get?_insert_of_ne ts h _
  | reset => exact Keyed.get?_erase_of_ne ts h

section

variable (ts : Tripwires) (s : TripwireSettings) (now : Instant) (agent : String)
  (interpreter : Interpreter) (probes : List Probe)

theorem passed_add_failed_run :
    (ts.run s now agent interpreter probes (F := F)).1.passed +
      (ts.run s now agent interpreter probes (F := F)).1.failed = probes.length := by
  have hle := List.countP_le_length (p := (·.passed)) (l := probes.map (·.pose interpreter))
  have hlength : (probes.map (·.pose interpreter)).length = probes.length := List.length_map _
  dsimp only [run]
  omega

theorem failed_run :
    (ts.run s now agent interpreter probes (F := F)).1.failed =
      probes.countP fun p => interpreter p.frame ≠ some p.expected := by
  have hpassed : (ts.run s now agent interpreter probes (F := F)).1.passed =
      probes.countP fun p => interpreter p.frame = some p.expected := List.countP_map
  have hsum := passed_add_failed_run (F := F) ts s now agent interpreter probes
  have hcount : probes.length =
      (probes.countP fun p => interpreter p.frame = some p.expected) +
        probes.countP fun p => interpreter p.frame ≠ some p.expected := by
    simpa only [decide_eq_true_eq] using List.length_eq_countP_add_countP (l := probes)
      fun p => decide (interpreter p.frame = some p.expected)
  omega

/-- The share of failures that a run tells is that of the agent after it. -/
theorem failureRate_run :
    (ts.run s now agent interpreter probes (F := F)).1.failureRate =
      (ts.run s now agent interpreter probes (F := F)).2.failureRate agent := by
  rw [failureRate, history, run, Keyed.get?_insert_self, Option.getD_some]

end

/-! ## Runs -/

variable (F) in
/-- The history of an agent after a run. -/
theorem isTallyOf_after (s : TripwireSettings) (agent : String) (rs : List (Instant × Request)) :
    ((after F s ∅ rs).history agent).IsTallyOf s.windowSize (outcomes agent rs) := by
  induction rs using List.reverseRecOn with
  | nil => exact ProbeHistory.isTallyOf_blank s.windowSize
  | append_singleton rs r ih =>
      rw [after_concat, outcomes_concat]
      split
      next h =>
        subst h
        rw [history_serve]
        split
        · exact ProbeHistory.isTallyOf_blank s.windowSize
        · exact ih.add r.1 _
      next h =>
        rw [history_serve_of_ne _ s r.1 (Ne.symm h)]
        exact ih

end Tripwires
end Mandate
