import Mandate.Proofs.Standing.Calls

/-!
# What is known of an agent, without its dates

Dates are kept and never looked at: what an operation on a circuit breaker or a baseline leaves is,
but for dates, what it leaves when all dates are set to one (`Breakers.undated_apply`,
`Baseline.undated_score?`).
-/

namespace Mandate

variable {F : Type}

/-! ## Circuit breakers -/

def DriftAlert.undated (a : DriftAlert F) : DriftAlert F :=
  { a with raisedAt := .epoch }

namespace Breaker

def undated (b : Breaker F) : Breaker F :=
  { b with
    openedAt := b.openedAt.map fun _ => .epoch
    lastFailureAt := b.lastFailureAt.map fun _ => .epoch
    alerts := b.alerts.map .undated
    updatedAt := .epoch }

@[simp] theorem isOpen_undated (b : Breaker F) : b.undated.isOpen = b.isOpen := rfl

theorem undated_trip (b : Breaker F) (now : Instant) (reason : String) :
    (b.trip now reason).map id undated = b.undated.trip .epoch reason := by
  unfold trip
  rw [isOpen_undated]
  split <;> rfl

theorem undated_fail (b : Breaker F) (s : BreakerSettings F) (now : Instant) (reason : String) :
    (b.fail s now reason).map id undated = b.undated.fail s .epoch reason := by
  unfold fail
  dsimp only
  split
  next h => exact (undated_trip ..).trans (if_pos h).symm
  next h => exact (if_neg h).symm

theorem undated_drift [Scalar F] (b : Breaker F) (s : BreakerSettings F) (now : Instant) (score : F)
    (reason : String) :
    (b.drift s now score reason).map id undated = b.undated.drift s .epoch score reason := by
  have halerts (critical : Bool) :
      (remember s.maxAlerts b.alerts ⟨score, reason, critical, now⟩).map DriftAlert.undated =
        remember s.maxAlerts b.undated.alerts ⟨score, reason, critical, .epoch⟩ :=
    map_remember ..
  unfold drift
  dsimp only
  split
  next h =>
    rw [undated_trip, undated]
    simp only [halerts]
    rfl
  next h =>
    rw [Prod.map, undated]
    simp only [halerts]
    rfl

theorem undated_succeed (b : Breaker F) (now : Instant) :
    (b.succeed now).undated = b.undated.succeed .epoch := by
  unfold succeed
  split
  next h => exact (if_pos h).symm
  next h => exact (if_neg h).symm

end Breaker

/-- An event has the same outcome at every moment. -/
theorem Breakers.undated_apply [Scalar F] (s : BreakerSettings F) (now : Instant) (agent : String)
    (known : Option (Breaker F)) (event : Event F) :
    (event.apply s now agent known).map id (·.map Breaker.undated) =
      event.apply s .epoch agent (known.map Breaker.undated) := by
  have hfresh : (known.getD (.fresh agent now)).undated =
      (known.map Breaker.undated).getD (.fresh agent .epoch) := by
    cases known <;> rfl
  cases event with
  | failure reason =>
      have hfail := (known.getD (.fresh agent now)).undated_fail s now reason
      rw [hfresh] at hfail
      exact congrArg (Prod.map id some) hfail
  | drift score reason =>
      have hdrift := (known.getD (.fresh agent now)).undated_drift s now score reason
      rw [hfresh] at hdrift
      exact congrArg (Prod.map id some) hdrift
  | halt reason =>
      have hhalt := (known.getD (.fresh agent now)).undated_trip now ("halted: " ++ reason)
      rw [hfresh] at hhalt
      exact congrArg (Prod.map id some) hhalt
  | success =>
      cases known with
      | none => rfl
      | some b => exact congrArg (fun c => (none, some c)) (b.undated_succeed now)
  | close reason => cases known <;> rfl
  | reset => rfl

/-! ## Baselines -/

def BaselineRecord.undated (r : BaselineRecord) : BaselineRecord :=
  { r with recordedAt := .epoch }

def Comparison.undated (c : Comparison F) : Comparison F :=
  { c with recordedAt := c.recordedAt.map fun _ => .epoch }

namespace Baseline

def undated (b : Baseline F) : Baseline F :=
  { b with
    records := b.records.map .undated
    recalibratedAt := b.recalibratedAt.map fun _ => .epoch }

theorem undated_push (b : Baseline F) (s : BaselineSettings F) (r : BaselineRecord) :
    (b.push s r).undated = b.undated.push s r.undated := by
  rw [push, push, undated]
  simp only [map_remember]
  rfl

theorem undated_newest? (b : Baseline F) (i : Identity) :
    (b.newest? i).map BaselineRecord.undated = b.undated.newest? i := by
  rw [newest?, newest?, undated, ← List.map_reverse, List.find?_map]
  rfl

theorem undated_score? [Scalar F] (b : Baseline F) (s : BaselineSettings F) (agent : String)
    (c : Conduct F) :
    (b.score? s agent c).map (Prod.map .undated undated) = b.undated.score? s agent c := by
  rw [score?, score?, ← undated_newest?, Option.map_map, Option.map_map]
  refine congrArg (Option.map · _) (funext fun r => ?_)
  simp only [Function.comp, Prod.map, Comparison.undated, BaselineRecord.undated, undated,
    Option.map_some]
  rfl

end Baseline
end Mandate
