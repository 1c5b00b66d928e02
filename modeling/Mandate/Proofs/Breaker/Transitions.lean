import Mandate.Proofs.Breaker.History

/-!
# The transitions of a circuit

What an event does to the circuit of an agent, and what it reports of that, is one of four things,
`Turn`; `turnsIn_apply` says so of every event that does not forget the agent. So a transition is
reported exactly when the circuit changes, and it names the agent and the states before and after
(`Turn.transition_eq`).
-/

namespace Mandate

variable {F : Type}

namespace Breaker

/-- The state of a circuit, and since when and why it is open. -/
structure Status where
  circuit : Circuit
  openedAt : Option Instant
  openReason : Option String

def status (b : Breaker F) : Status :=
  ⟨b.circuit, b.openedAt, b.openReason⟩

/-- The circuit is closed, and nothing is left of when it was open. -/
def Status.clear : Status :=
  ⟨.closed, none, none⟩

end Breaker

namespace Breakers

open Breaker (Status)

/-- The reason for which an event opens a circuit, where it does; `n` is the number of failures in a
row. -/
def Event.openingReason? [Scalar F] (n : Nat) : Event F → Option String
  | failure reason => some (toString n ++ " consecutive failures, last: " ++ reason)
  | drift score reason => some ("critical drift " ++ Scalar.places 3 score ++ ": " ++ reason)
  | halt reason => some ("halted: " ++ reason)
  | success | close _ | reset => none

/-- What an event can do to the circuit of an agent that it does not forget, with the transition
that it reports. -/
inductive Turn [Scalar F] (agent : String) (now : Instant) (n : Nat) (e : Event F) (σ : Status) :
    Option Transition → Status → Prop where
  | keeps (goesOn : e.lifts = false) : Turn agent now n e σ none σ
  | opens {reason : String} (closed : σ.circuit = .closed)
      (given : e.openingReason? n = some reason) :
      Turn agent now n e σ (some ⟨agent, .closed, .opened, reason⟩)
        ⟨.opened, some now, some reason⟩
  | closes {reason : String} (opened : σ.circuit = .opened) (given : e = .close reason) :
      Turn agent now n e σ (some ⟨agent, .opened, .closed, reason⟩) .clear
  | clears {reason : String} (closed : σ.circuit = .closed) (given : e = .close reason) :
      Turn agent now n e σ none .clear

/-- The status of an agent's circuit, which is closed if nothing is known of the agent. -/
def statusIn (known : Option (Breaker F)) : Status :=
  (known.map Breaker.status).getD .clear

/-- The state of the circuit, which is closed if nothing is known of the agent. -/
def circuitIn (known : Option (Breaker F)) : Circuit :=
  (known.map (·.circuit)).getD .closed

theorem circuit_statusIn (known : Option (Breaker F)) :
    (statusIn known).circuit = circuitIn known := by
  cases known <;> rfl

theorem isOpenIn_eq_true_iff {known : Option (Breaker F)} :
    isOpenIn known = true ↔ circuitIn known = .opened := by
  cases known with
  | none => simp [isOpenIn, circuitIn]
  | some b => simp [isOpenIn, circuitIn, Breaker.isOpen]

theorem isAllowed_eq_true_iff {bs : Breakers F} {agent : String} :
    bs.isAllowed agent = true ↔ circuitIn (bs.get? agent) = .closed := by
  rw [← Bool.not_eq_false, isAllowed_eq_false_iff, isOpenIn_eq_true_iff]
  cases circuitIn (bs.get? agent) <;> decide

/-- What is known of an agent is about that agent. -/
def IsLabelled (agent : String) (known : Option (Breaker F)) : Prop :=
  ∀ b, known = some b → b.agent = agent

/-! ## One operation -/

/-- The operation leaves the agent's breaker, its circuit turned. -/
structure Turns [Scalar F] (agent : String) (now : Instant) (n : Nat) (e : Event F) (σ : Status)
    (r : Option Transition × Breaker F) : Prop where
  agent_eq : r.2.agent = agent
  turn : Turn agent now n e σ r.1 r.2.status

section Turns

variable [Scalar F]

theorem turns_trip {b : Breaker F} {agent : String} {σ : Status} (agent_eq : b.agent = agent)
    (status_eq : b.status = σ) {n : Nat} {e : Event F} {reason : String}
    (given : e.openingReason? n = some reason) (now : Instant) :
    Turns agent now n e σ (b.trip now reason) := by
  subst agent_eq status_eq
  have goesOn : e.lifts = false := by
    cases e <;> first | rfl | cases given
  unfold Breaker.trip
  split
  next => exact ⟨rfl, .keeps goesOn⟩
  next h =>
    have closed : b.circuit = .closed := by
      cases hc : b.circuit <;> simp_all [Breaker.isOpen]
    exact ⟨rfl, .opens closed given⟩

theorem turns_fail (b : Breaker F) (s : BreakerSettings F) (now : Instant) (reason : String) :
    Turns b.agent now (min (b.consecutiveFailures + 1) Breaker.countLimit) (.failure reason)
      b.status (b.fail s now reason) := by
  simp only [Breaker.fail]
  split
  next => refine turns_trip ?_ ?_ ?_ now <;> rfl
  next => exact ⟨rfl, .keeps rfl⟩

theorem turns_drift (b : Breaker F) (s : BreakerSettings F) (n : Nat) (now : Instant) (score : F)
    (reason : String) :
    Turns b.agent now n (.drift score reason) b.status (b.drift s now score reason) := by
  simp only [Breaker.drift]
  split
  next => refine turns_trip ?_ ?_ ?_ now <;> rfl
  next => exact ⟨rfl, .keeps rfl⟩

theorem turns_succeed (b : Breaker F) (n : Nat) (now : Instant) :
    Turns b.agent now n .success b.status (none, b.succeed now) := by
  unfold Breaker.succeed
  split <;> exact ⟨rfl, .keeps rfl⟩

theorem turns_close (b : Breaker F) (n : Nat) (now : Instant) (reason : String) :
    Turns b.agent now n (.close reason) b.status (b.close now reason) := by
  unfold Breaker.close
  split
  next h => exact ⟨rfl, .closes (of_decide_eq_true h) rfl⟩
  next h =>
    have closed : b.circuit = .closed := by
      cases hc : b.circuit <;> simp_all [Breaker.isOpen]
    exact ⟨rfl, .clears closed rfl⟩

end Turns

/-! ## One event -/

/-- What an event leaves known of an agent, the agent's circuit turned. -/
structure TurnsIn [Scalar F] (agent : String) (now : Instant) (e : Event F)
    (known : Option (Breaker F)) (r : Option Transition × Option (Breaker F)) : Prop where
  labelled : IsLabelled agent r.2
  turn : Turn agent now (min (failuresIn known + 1) Breaker.countLimit) e (statusIn known)
    r.1 (statusIn r.2)

section Apply

variable [Scalar F] {agent : String} {now : Instant} {known : Option (Breaker F)} {e : Event F}

theorem turnsIn_of_turns (h : IsLabelled agent known) {r : Option Transition × Breaker F}
    (hr : Turns (known.getD (.fresh agent now)).agent now
      (min (failuresIn known + 1) Breaker.countLimit) e (known.getD (.fresh agent now)).status r) :
    TurnsIn agent now e known (r.map id some) := by
  cases known with
  | none => exact ⟨by rintro _ ⟨⟩; exact hr.agent_eq, hr.turn⟩
  | some b =>
      obtain rfl := h b rfl
      exact ⟨by rintro _ ⟨⟩; exact hr.agent_eq, hr.turn⟩

theorem turnsIn_apply (s : BreakerSettings F) (now : Instant) (h : IsLabelled agent known)
    (he : e ≠ .reset) : TurnsIn agent now e known (e.apply s now agent known) := by
  cases e with
  | failure reason =>
      refine turnsIn_of_turns h ?_
      rw [← consecutiveFailures_getD_fresh known agent now]
      exact turns_fail ..
  | drift score reason => exact turnsIn_of_turns h (turns_drift ..)
  | halt reason => exact turnsIn_of_turns h (turns_trip rfl rfl rfl now)
  | success =>
      cases known with
      | none => exact ⟨nofun, .keeps rfl⟩
      | some b => exact turnsIn_of_turns h (turns_succeed ..)
  | close reason =>
      cases known with
      | none => exact ⟨nofun, .clears rfl rfl⟩
      | some b => exact turnsIn_of_turns h (turns_close ..)
  | reset => exact absurd rfl he

/-- A transition tells the state of the circuit before it and after it, and there is one exactly if
the two differ. -/
theorem Turn.transition_eq {n : Nat} {σ σ' : Status} {t : Option Transition}
    (h : Turn agent now n e σ t σ') :
    t.map (fun t => (t.agent, t.source, t.target)) =
      if σ'.circuit = σ.circuit then none else some (agent, σ.circuit, σ'.circuit) := by
  cases h with
  | keeps => simp
  | opens closed => simp [closed]
  | closes opened => simp [opened, Status.clear]
  | clears closed => simp [closed, Status.clear]

/-- What an event makes of an agent that it does not forget: the agent's circuit, and the transition
if the circuit changed. -/
structure Moves (agent : String) (known : Option (Breaker F))
    (r : Option Transition × Option (Breaker F)) : Prop where
  labelled : IsLabelled agent r.2
  reported : r.1.map (fun t => (t.agent, t.target)) =
    if circuitIn r.2 = circuitIn known then none else some (agent, circuitIn r.2)

theorem moves_apply (s : BreakerSettings F) (now : Instant) (h : IsLabelled agent known)
    (he : e ≠ .reset) : Moves agent known (e.apply s now agent known) := by
  obtain ⟨labelled, turn⟩ := turnsIn_apply s now h he
  have htransition := congrArg (Option.map fun t => (t.1, t.2.2)) turn.transition_eq
  simp only [Option.map_map, circuit_statusIn] at htransition
  refine ⟨labelled, htransition.trans ?_⟩
  split <;> rfl

end Apply

end Breakers
end Mandate
