import Mathlib.Data.List.Induction
import Mandate.Baseline

/-!
# Runs of the baselines

A request is something that can be done about the baselines of one agent; a run serves requests one
after the other. What is remembered of the other agents stays as it is (`get?_serve_of_ne`), and an
agent holds the newest of the records that were made for it since it was last forgotten
(`records_run`).
-/

namespace Mandate

variable {F : Type}

/-- The comparison that was made, if the run was compared. -/
def Observation.comparison? : Observation F → Option (Comparison F)
  | .compared k => some k
  | .learned _ | .unknown => none

namespace Baselines

/-- Something that can be done about the baselines of an agent. -/
inductive Request (F : Type) where
  | record (agent : String) (c : Conduct F)
  | observe (agent : String) (c : Conduct F) (mayLearn : Bool)
  | compare (agent : String) (c : Conduct F)
  | recalibrate (agent : String)
  /-- Forgets the agent. -/
  | clear (agent : String)

def Request.agent : Request F → String
  | record agent _ | observe agent .. | compare agent _ | recalibrate agent | clear agent => agent

variable [Scalar F]

/-- The comparison that a request brings, if it brings one, and what is remembered after it. -/
def serve (bs : Baselines F) (s : BaselineSettings F) (now : Instant) :
    Request F → Option (Comparison F) × Baselines F
  | .record agent c => (none, (bs.record s now agent c).2)
  | .observe agent c mayLearn => (bs.observe s now agent c mayLearn).map Observation.comparison? id
  | .compare agent c => (bs.compare s agent c).map some id
  | .recalibrate agent => (none, (bs.recalibrate now agent).2)
  | .clear agent => (none, (bs.clear agent).2)

/-- What is remembered after some requests, each with its moment. -/
def run (s : BaselineSettings F) (bs : Baselines F) (rs : List (Instant × Request F)) :
    Baselines F :=
  rs.foldl (fun bs r => (bs.serve s r.1 r.2).2) bs

theorem run_concat (s : BaselineSettings F) (bs : Baselines F) (rs : List (Instant × Request F))
    (r : Instant × Request F) : run s bs (rs ++ [r]) = ((run s bs rs).serve s r.1 r.2).2 :=
  List.foldl_append

theorem get?_serve_of_ne (bs : Baselines F) (s : BaselineSettings F) (now : Instant)
    {r : Request F} {other : String} (h : other ≠ r.agent) :
    (bs.serve s now r).2.get? other = bs.get? other := by
  cases r with
  | record => exact get?_record_of_ne h bs s now _
  | observe => exact get?_observe_of_ne h bs s now _ _
  | compare => exact get?_compare_of_ne h bs s _
  | recalibrate => exact get?_recalibrate_of_ne h bs now
  | clear => exact Keyed.get?_erase_of_ne bs h

/-! ## The records that a run makes -/

/-- All records of an agent since it was last forgotten, the oldest first, after a request for it;
`past` lists those before it, and `known` says which frames have a record that is held. -/
def Request.made (now : Instant) (known : Identity → Bool) (past : List BaselineRecord) :
    Request F → List BaselineRecord
  | record _ c => past ++ [c.record now]
  | observe _ c mayLearn =>
    if mayLearn = true ∧ known c.frame.identity = false then past ++ [c.record now] else past
  | compare .. | recalibrate _ => past
  | clear _ => []

/-- All records that were made for an agent since it was last forgotten, the oldest first, after
some more requests. -/
def madeFrom (s : BaselineSettings F) (agent : String) :
    Baselines F → List BaselineRecord → List (Instant × Request F) → List BaselineRecord
  | _, past, [] => past
  | bs, past, r :: rs =>
    let made := if r.2.agent = agent then r.2.made r.1 (bs.knows agent) past else past
    madeFrom s agent (bs.serve s r.1 r.2).2 made rs

/-- All records that a run makes for an agent since it last forgets it, the oldest first. -/
def made (s : BaselineSettings F) (agent : String) (rs : List (Instant × Request F)) :
    List BaselineRecord :=
  madeFrom s agent ∅ [] rs

theorem madeFrom_concat (s : BaselineSettings F) (agent : String) (bs : Baselines F)
    (past : List BaselineRecord) (rs : List (Instant × Request F)) (r : Instant × Request F) :
    let made := madeFrom s agent bs past rs
    madeFrom s agent bs past (rs ++ [r]) =
      if r.2.agent = agent then r.2.made r.1 ((run s bs rs).knows agent) made else made := by
  induction rs generalizing bs past with
  | nil => rfl
  | cons d ds ih => exact ih ..

/-- After a request for an agent it holds the newest of its records. -/
theorem records_serve (s : BaselineSettings F) (now : Instant) {bs : Baselines F} {agent : String}
    {past : List BaselineRecord} (held : bs.records agent = keepNewest s.maxRecords past)
    {r : Request F} (h : r.agent = agent) :
    (bs.serve s now r).2.records agent =
      keepNewest s.maxRecords (r.made now (bs.knows agent) past) := by
  have hadded (r' : BaselineRecord) : remember s.maxRecords (bs.records agent) r' =
      keepNewest s.maxRecords (past ++ [r']) := by
    rw [held, remember_keepNewest]
  cases r with
  | record own c =>
      obtain rfl : own = agent := h
      exact (records_record ..).trans (hadded _)
  | observe own c mayLearn =>
      obtain rfl : own = agent := h
      refine (records_observe ..).trans ?_
      rw [Request.made]
      split
      · exact hadded _
      · exact held
  | compare own c =>
      obtain rfl : own = agent := h
      exact (records_compare ..).trans held
  | recalibrate own =>
      obtain rfl : own = agent := h
      exact (records_recalibrate ..).trans held
  | clear own =>
      obtain rfl : own = agent := h
      exact (congrArg Baseline.records (bs.baseline_clear own)).trans List.drop_nil.symm

/-- An agent holds the newest records of those that were made for it since it was last forgotten. -/
theorem records_run (s : BaselineSettings F) (agent : String) (rs : List (Instant × Request F)) :
    (run s ∅ rs).records agent = keepNewest s.maxRecords (made s agent rs) := by
  induction rs using List.reverseRecOn with
  | nil => exact List.drop_nil.symm
  | append_singleton rs r ih =>
      rw [run_concat, made, madeFrom_concat]
      split
      next h => exact records_serve s r.1 ih h
      next h => exact (records_congr (get?_serve_of_ne _ s r.1 (Ne.symm h))).trans ih

end Baselines
end Mandate
