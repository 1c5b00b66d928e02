import Mandate.Proofs.Breaker.Coherence

/-!
# The alerts of a breaker

A drift leaves an alert, whatever else happens to the breakers, and only to forget the agent takes
alerts away. So a breaker holds the newest of all alerts of its agent (`alerts_run`).
-/

namespace Mandate

variable {F : Type} [Scalar F]

/-- The alert that an incident leaves, if it is a drift. -/
def Incident.alert? (s : BreakerSettings F) (i : Incident F) : Option (DriftAlert F) :=
  match i.event with
  | .drift score reason => some ⟨score, reason, Scalar.exceeds score s.criticalDrift, i.now⟩
  | .failure _ | .success | .halt _ | .close _ | .reset => none

namespace Breakers

/-- All alerts of an agent since it was last forgotten, the oldest first. -/
def raised (s : BreakerSettings F) (agent : String) (is : List (Incident F)) :
    List (DriftAlert F) :=
  (sinceLast (·.agent = agent) (·.event.isReset) is).filterMap (Incident.alert? s)

theorem raised_concat (s : BreakerSettings F) (agent : String) (is : List (Incident F))
    (i : Incident F) :
    raised s agent (is ++ [i]) =
      if i.agent = agent then
        if i.event.isReset then [] else raised s agent is ++ (i.alert? s).toList
      else raised s agent is := by
  simp only [raised, sinceLast_concat, decide_eq_true_eq]
  split
  · split
    · rfl
    · rw [List.filterMap_append]
      cases h : i.alert? s <;> simp [h]
  · rfl

/-- What an incident does to the alerts of its agent. -/
theorem alerts_note (s : BreakerSettings F) (i : Incident F) (isOpen : Bool)
    (m : Breaker.Memory F) :
    (i.event.note s i.now isOpen m).alerts =
      if i.event.isReset then []
      else (i.alert? s).toList.foldl (remember s.maxAlerts) m.alerts := by
  unfold Incident.alert?
  cases i.event <;> rfl

theorem alerts_run (s : BreakerSettings F) (agent : String) (is : List (Incident F)) :
    (memoryIn ((run s ∅ is).get? agent)).alerts = keepNewest s.maxAlerts (raised s agent is) := by
  refine get?_run_induction (P := fun is known =>
    (memoryIn known).alerts = keepNewest s.maxAlerts (raised s agent is)) ?_ ?_ ?_ is
  · exact List.drop_nil.symm
  · intro is i hi h
    rw [memoryIn_apply, alerts_note, raised_concat, if_pos hi, h]
    split
    · exact List.drop_nil.symm
    · exact foldl_remember ..
  · intro is i known hi h
    rw [raised_concat, if_neg hi, h]

omit [Scalar F] in
theorem alerts_breaker (bs : Breakers F) (agent : String) (now : Instant) :
    (bs.breaker agent now).alerts = (memoryIn (bs.get? agent)).alerts :=
  congrArg Breaker.Memory.alerts (memory_breaker ..)

/-- To close a circuit takes no alert from any agent. -/
theorem alerts_close (bs : Breakers F) (s : BreakerSettings F) (now later : Instant)
    (own agent reason : String) :
    ((bs.handle s now own (.close reason)).2.breaker agent later).alerts =
      (bs.breaker agent later).alerts := by
  rw [alerts_breaker, alerts_breaker]
  by_cases h : agent = own
  · subst h
    rw [get?_handle_self, memoryIn_apply]
    rfl
  · rw [get?_handle_of_ne s now h]

end Breakers
end Mandate
