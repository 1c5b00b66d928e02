import Mandate.Breaker

/-!
# Runs of circuit breakers

A run lets incidents happen one after the other to the breakers of all agents. An incident touches
the breaker of its own agent only, and what an incident makes of that breaker depends on nothing but
the breaker.
-/

namespace Mandate

variable {F : Type}

/-- An event of an agent at a moment. -/
structure Incident (F : Type) where
  now : Instant
  agent : String
  event : Breakers.Event F

namespace Breakers

/-- The events of one agent, in order. -/
def eventsOf (agent : String) (is : List (Incident F)) : List (Event F) :=
  (is.filter fun i => i.agent = agent).map (·.event)

theorem eventsOf_append (agent : String) (is js : List (Incident F)) :
    eventsOf agent (is ++ js) = eventsOf agent is ++ eventsOf agent js := by
  simp [eventsOf]

theorem eventsOf_singleton (agent : String) (i : Incident F) :
    eventsOf agent [i] = if i.agent = agent then [i.event] else [] := by
  by_cases h : i.agent = agent <;> simp [eventsOf, h]

/-! ## Whether a circuit is open -/

/-- Whether the circuit is open, if anything is known of the agent. -/
def isOpenIn (known : Option (Breaker F)) : Bool :=
  known.any Breaker.isOpen

/-- The failures in a row, none if nothing is known of the agent. -/
def failuresIn (known : Option (Breaker F)) : Nat :=
  (known.map (·.consecutiveFailures)).getD 0

theorem isAllowed_eq_false_iff (bs : Breakers F) (agent : String) :
    bs.isAllowed agent = false ↔ isOpenIn (bs.get? agent) = true := by
  simp [isAllowed, isOpenIn]

@[simp] theorem isOpen_getD_fresh (known : Option (Breaker F)) (agent : String) (now : Instant) :
    (known.getD (.fresh agent now)).isOpen = isOpenIn known := by
  cases known <;> rfl

@[simp] theorem consecutiveFailures_getD_fresh (known : Option (Breaker F)) (agent : String)
    (now : Instant) :
    (known.getD (.fresh agent now)).consecutiveFailures = failuresIn known := by
  cases known <;> rfl

@[simp] theorem isOpenIn_some (b : Breaker F) : isOpenIn (some b) = b.isOpen := rfl

@[simp] theorem failuresIn_some (b : Breaker F) :
    failuresIn (some b) = b.consecutiveFailures := rfl

@[simp] theorem isOpenIn_map_succeed (known : Option (Breaker F)) (now : Instant) :
    isOpenIn (known.map (·.succeed now)) = isOpenIn known := by
  cases known with
  | none => rfl
  | some b => exact b.isOpen_succeed now

theorem failuresIn_map_succeed (known : Option (Breaker F)) (now : Instant) :
    failuresIn (known.map (·.succeed now)) = if isOpenIn known then failuresIn known else 0 := by
  cases known with
  | none => rfl
  | some b => exact b.consecutiveFailures_succeed now

variable [Scalar F]

/-! ## One incident -/

theorem handle_fst (s : BreakerSettings F) (now : Instant) (agent : String) (e : Event F)
    (bs : Breakers F) : (handle s now agent e bs).1 = (e.apply s now agent (bs.get? agent)).1 := by
  unfold handle
  split
  next h => rw [h]
  next h => rw [h]

theorem get?_handle_self (s : BreakerSettings F) (now : Instant) (agent : String) (e : Event F)
    (bs : Breakers F) :
    (handle s now agent e bs).2.get? agent = (e.apply s now agent (bs.get? agent)).2 := by
  unfold handle
  split
  next t b h => rw [h, Keyed.get?_insert_self]
  next t h => rw [h, Keyed.get?_erase_self]

theorem get?_handle_of_ne (s : BreakerSettings F) (now : Instant) {agent other : String}
    (h : other ≠ agent) (e : Event F) (bs : Breakers F) :
    (handle s now agent e bs).2.get? other = bs.get? other := by
  unfold handle
  split
  next => exact Keyed.get?_insert_of_ne bs h _
  next => exact Keyed.get?_erase_of_ne bs h

/-! ## Runs -/

/-- The breakers after some incidents. -/
def run (s : BreakerSettings F) (bs : Breakers F) (is : List (Incident F)) : Breakers F :=
  is.foldl (fun bs i => (bs.handle s i.now i.agent i.event).2) bs

theorem run_append (s : BreakerSettings F) (bs : Breakers F) (is js : List (Incident F)) :
    run s bs (is ++ js) = run s (run s bs is) js :=
  List.foldl_append

theorem run_concat (s : BreakerSettings F) (bs : Breakers F) (is : List (Incident F))
    (i : Incident F) :
    run s bs (is ++ [i]) = ((run s bs is).handle s i.now i.agent i.event).2 :=
  run_append s bs is [i]

end Breakers
end Mandate
