import Mandate.Proofs.Breaker.Transitions

/-!
# What a breaker says of its agent

The parts of a breaker agree with each other and with the history of the agent, whatever happens to
it. Two lemmas say what an event does to them: `turnsIn_apply` for the circuit, and `memoryIn_apply`
for what is kept beside it. From the one follows that the circuit is clear or was opened by one
incident of the history (`status_run`), from the other what the counts and the alerts mean
(`isSound_run`, `totalFailures_run`). The main statement is `coherent_run`.
-/

namespace Mandate

variable {F : Type}

namespace Breaker

namespace Memory

/-- Nothing has happened. -/
def blank : Memory F :=
  ⟨0, 0, none, []⟩

/-- The counts and the alerts agree with each other and with the settings. -/
structure IsSound [Scalar F] (s : BreakerSettings F) (m : Memory F) : Prop where
  row_le : m.consecutiveFailures ≤ m.totalFailures
  lastFailureAt_iff : m.lastFailureAt.isSome = true ↔ 0 < m.totalFailures
  critical_iff : ∀ a ∈ m.alerts, a.critical = true ↔ ¬ a.score ≤ s.criticalDrift

end Memory

/-- The parts of a breaker agree with each other and with the settings. -/
structure IsCoherent [Scalar F] (s : BreakerSettings F) (b : Breaker F) : Prop where
  openedAt_iff : b.circuit = .opened ↔ b.openedAt.isSome = true
  openReason_iff : b.circuit = .opened ↔ b.openReason.isSome = true
  row_lt : b.circuit = .closed → b.consecutiveFailures < s.failureThreshold
  memory : b.memory.IsSound s

end Breaker

namespace Breakers

open Breaker (Status Memory)

variable [Scalar F] {s : BreakerSettings F} {agent : String}

/-- What is known of an agent after a run is so if it is so at the beginning, if each incident of
the agent keeps it so, and if those of the others do not touch it. -/
theorem get?_run_induction {P : List (Incident F) → Option (Breaker F) → Prop} (start : P [] none)
    (own : ∀ is i, i.agent = agent → P is ((run s ∅ is).get? agent) →
      P (is ++ [i]) (i.event.apply s i.now agent ((run s ∅ is).get? agent)).2)
    (other : ∀ is i known, i.agent ≠ agent → P is known → P (is ++ [i]) known)
    (is : List (Incident F)) : P is ((run s ∅ is).get? agent) := by
  induction is using List.reverseRecOn with
  | nil => exact start
  | append_singleton is i ih =>
      rw [run_concat]
      by_cases h : i.agent = agent
      · subst h
        rw [get?_handle_self]
        exact own is i rfl ih
      · rw [get?_handle_of_ne s i.now (Ne.symm h)]
        exact other is i _ h ih

theorem isLabelled_run (s : BreakerSettings F) (agent : String) (is : List (Incident F)) :
    IsLabelled agent ((run s ∅ is).get? agent) := by
  refine get?_run_induction (P := fun _ => IsLabelled agent) nofun ?_ (fun _ _ _ _ h => h) is
  intro is i hi h
  by_cases he : i.event = .reset
  · rw [he]
    exact nofun
  · exact (turnsIn_apply s i.now h he).labelled

/-! ## What is kept beside the circuit -/

/-- What is kept of an agent beside the state of its circuit. -/
def memoryIn (known : Option (Breaker F)) : Memory F :=
  (known.map Breaker.memory).getD .blank

omit [Scalar F] in
@[simp] theorem memory_getD_fresh (known : Option (Breaker F)) (agent : String) (now : Instant) :
    (known.getD (.fresh agent now)).memory = memoryIn known := by
  cases known <;> rfl

omit [Scalar F] in
theorem consecutiveFailures_memoryIn (known : Option (Breaker F)) :
    (memoryIn known).consecutiveFailures = failuresIn known := by
  cases known <;> rfl

/-- What is kept after an event. -/
def Event.note (s : BreakerSettings F) (now : Instant) (isOpen : Bool) (m : Memory F) :
    Event F → Memory F
  | failure _ =>
    { m with
      consecutiveFailures := min (m.consecutiveFailures + 1) Breaker.countLimit
      totalFailures := m.totalFailures + 1
      lastFailureAt := some now }
  | success => { m with consecutiveFailures := if isOpen then m.consecutiveFailures else 0 }
  | drift score reason =>
    { m with
      alerts := remember s.maxAlerts m.alerts
        ⟨score, reason, Scalar.exceeds score s.criticalDrift, now⟩ }
  | halt _ => m
  | close _ => { m with consecutiveFailures := 0 }
  | reset => .blank

theorem memoryIn_apply (s : BreakerSettings F) (now : Instant) (agent : String)
    (known : Option (Breaker F)) (e : Event F) :
    memoryIn (e.apply s now agent known).2 = e.note s now (isOpenIn known) (memoryIn known) := by
  cases e with
  | failure reason =>
      rw [← memory_getD_fresh known agent now]
      exact Breaker.memory_fail ..
  | drift score reason =>
      rw [← memory_getD_fresh known agent now]
      exact Breaker.memory_drift ..
  | halt reason =>
      rw [← memory_getD_fresh known agent now]
      exact Breaker.memory_halt ..
  | success =>
      cases known with
      | none => rfl
      | some b => exact b.memory_succeed now
  | close reason => cases known <;> rfl
  | reset => rfl

/-- Neither a success nor the closing of the circuit touches the alerts or the failures in all. -/
theorem note_of_spares {e : Event F} (he : e ≠ .reset)
    (h : e.isSuccess = true ∨ e.lifts = true) (now : Instant) (isOpen : Bool) (m : Memory F) :
    (e.note s now isOpen m).alerts = m.alerts ∧
      (e.note s now isOpen m).totalFailures = m.totalFailures := by
  cases e with
  | success | close => exact ⟨rfl, rfl⟩
  | reset => exact absurd rfl he
  | failure | drift | halt => simp [Event.isSuccess, Event.lifts] at h

theorem isSound_blank (s : BreakerSettings F) : (Memory.blank : Memory F).IsSound s :=
  ⟨Nat.le_refl 0, iff_of_false nofun (Nat.lt_irrefl 0), nofun⟩

theorem isSound_note {m : Memory F} (h : m.IsSound s) (now : Instant) (isOpen : Bool)
    (e : Event F) : (e.note s now isOpen m).IsSound s := by
  cases e with
  | failure reason =>
      have hrow := h.row_le
      exact ⟨by simp only [Event.note]; omega, by simp [Event.note], h.critical_iff⟩
  | success =>
      refine ⟨?_, h.lastFailureAt_iff, h.critical_iff⟩
      simp only [Event.note]
      split
      · exact h.row_le
      · exact Nat.zero_le _
  | drift score reason =>
      refine ⟨h.row_le, h.lastFailureAt_iff, fun a ha => ?_⟩
      rcases mem_of_mem_remember ha with ha | rfl
      · exact h.critical_iff a ha
      · simp [Scalar.exceeds]
  | halt reason => exact h
  | close reason => exact ⟨Nat.zero_le _, h.lastFailureAt_iff, h.critical_iff⟩
  | reset => exact isSound_blank s

theorem isSound_run (s : BreakerSettings F) (agent : String) (is : List (Incident F)) :
    (memoryIn ((run s ∅ is).get? agent)).IsSound s := by
  refine get?_run_induction (P := fun _ known => (memoryIn known).IsSound s) (isSound_blank s) ?_
    (fun _ _ _ _ h => h) is
  intro is i _ h
  rw [memoryIn_apply]
  exact isSound_note h i.now _ i.event

/-! ## Failures in all -/

def Event.isReset : Event F → Bool
  | .reset => true
  | _ => false

/-- The events after the last one that forgets the agent. -/
def sinceForgotten (es : List (Event F)) : List (Event F) :=
  es.rtakeWhile fun e => !e.isReset

theorem totalFailures_run (s : BreakerSettings F) (agent : String) (is : List (Incident F)) :
    (memoryIn ((run s ∅ is).get? agent)).totalFailures =
      (sinceForgotten (eventsOf agent is)).countP Event.isFailure := by
  refine get?_run_induction (P := fun is known => (memoryIn known).totalFailures =
    (sinceForgotten (eventsOf agent is)).countP Event.isFailure) rfl ?_ ?_ is
  · intro is i hi h
    rw [memoryIn_apply, eventsOf_append, eventsOf_singleton, if_pos hi]
    unfold sinceForgotten at h ⊢
    rw [List.rtakeWhile_concat]
    cases i.event <;> simp [Event.note, Event.isReset, Event.isFailure, Memory.blank, h]
  · intro is i known hi h
    rw [eventsOf_append, eventsOf_singleton, if_neg hi, List.append_nil, h]

/-! ## What opened the circuit -/

/-- The incident opened the circuit of its agent, which was closed before it, for the reason that it
gives, and nothing has closed the circuit since. -/
structure OpenedBy (s : BreakerSettings F) (is : List (Incident F)) (i : Incident F)
    (reason : String) (before after : List (Incident F)) : Prop where
  split_eq : is = before ++ i :: after
  closed : (run s ∅ before).isAllowed i.agent = true
  transition : ((run s ∅ before).handle s i.now i.agent i.event).1 =
    some ⟨i.agent, .closed, .opened, reason⟩
  given : i.event.openingReason?
    (min ((run s ∅ before).failures i.agent + 1) Breaker.countLimit) = some reason
  lasting : ∀ e ∈ eventsOf i.agent after, e.lifts = false

variable {is before after : List (Incident F)} {i j : Incident F} {reason : String}

/-- What opened the circuit has opened it still after another's incident, and after one that does
not close it. -/
theorem OpenedBy.concat (h : OpenedBy s is i reason before after)
    (hj : j.agent = i.agent → j.event.lifts = false) :
    OpenedBy s (is ++ [j]) i reason before (after ++ [j]) := by
  refine ⟨by simp [h.split_eq], h.closed, h.transition, h.given, fun e he => ?_⟩
  rw [eventsOf_append, eventsOf_singleton] at he
  rcases List.mem_append.1 he with he | he
  · exact h.lasting e he
  · split at he
    next hagent =>
      obtain rfl := List.mem_singleton.1 he
      exact hj hagent
    next => cases he

/-- The circuit of an agent is clear, or one incident of the agent opened it and gave the moment and
the reason that are kept. -/
theorem status_run (s : BreakerSettings F) (agent : String) (is : List (Incident F)) :
    statusIn ((run s ∅ is).get? agent) = .clear ∨
      ∃ i reason before after, i.agent = agent ∧ OpenedBy s is i reason before after ∧
        statusIn ((run s ∅ is).get? agent) = ⟨.opened, some i.now, some reason⟩ := by
  refine get?_run_induction (P := fun is known => statusIn known = .clear ∨
    ∃ i reason before after, i.agent = agent ∧ OpenedBy s is i reason before after ∧
      statusIn known = ⟨.opened, some i.now, some reason⟩) (Or.inl rfl) ?_ ?_ is
  · rintro is j rfl ih
    by_cases he : j.event = .reset
    · rw [he]
      exact Or.inl rfl
    have turn := (turnsIn_apply s j.now (isLabelled_run s j.agent is) he).turn
    have hreported := handle_fst s j.now j.agent j.event (run s ∅ is)
    generalize j.event.apply s j.now j.agent ((run s ∅ is).get? j.agent) = r at turn hreported ⊢
    obtain ⟨t, known⟩ := r
    dsimp only at turn hreported ⊢
    generalize statusIn known = σ' at turn ⊢
    cases turn with
    | keeps goesOn =>
        rcases ih with hclear | ⟨i, reason, before, after, hi, hopened, hstatus⟩
        · exact Or.inl hclear
        · exact Or.inr ⟨i, reason, before, _, hi, hopened.concat fun _ => goesOn, hstatus⟩
    | @opens reason closed given =>
        rw [circuit_statusIn, ← isAllowed_eq_true_iff] at closed
        exact Or.inr ⟨j, reason, is, [], rfl, ⟨rfl, closed, hreported, given, nofun⟩, rfl⟩
    | closes => exact Or.inl rfl
    | clears => exact Or.inl rfl
  · rintro is j known hj (hclear | ⟨i, reason, before, after, hi, hopened, hstatus⟩)
    · exact Or.inl hclear
    · exact Or.inr ⟨i, reason, before, _, hi, hopened.concat fun h => absurd (h.trans hi) hj,
        hstatus⟩

/-! ## The whole breaker -/

omit [Scalar F] in
@[simp] theorem memory_breaker (bs : Breakers F) (agent : String) (now : Instant) :
    (bs.breaker agent now).memory = memoryIn (bs.get? agent) :=
  memory_getD_fresh ..

omit [Scalar F] in
@[simp] theorem status_breaker (bs : Breakers F) (agent : String) (now : Instant) :
    (bs.breaker agent now).status = statusIn (bs.get? agent) := by
  unfold breaker
  cases bs.get? agent <;> rfl

/-- The row of failures of a closed circuit is shorter than the threshold. -/
theorem row_lt_run (pos : 1 ≤ s.failureThreshold) (bound : s.failureThreshold ≤ Breaker.countLimit)
    (agent : String) (is : List (Incident F))
    (closed : circuitIn ((run s ∅ is).get? agent) = .closed) :
    (memoryIn ((run s ∅ is).get? agent)).consecutiveFailures < s.failureThreshold := by
  have tracks := tracks_run pos bound agent is
  have hgrounds : ¬ Grounds s (sinceLifted (eventsOf agent is)) := by
    rw [← tracks.open_iff, isOpenIn_eq_true_iff, closed]
    nofun
  rw [consecutiveFailures_memoryIn, tracks.failures_eq hgrounds]
  exact failuresInRow_lt_of_not_grounds hgrounds

theorem isCoherent_run (pos : 1 ≤ s.failureThreshold)
    (bound : s.failureThreshold ≤ Breaker.countLimit) (agent : String) (is : List (Incident F))
    (now : Instant) : ((run s ∅ is).breaker agent now).IsCoherent s := by
  have hstatus := status_breaker (run s ∅ is) agent now
  have hmemory := memory_breaker (run s ∅ is) agent now
  have hcircuit := congrArg Status.circuit hstatus
  have hopenedAt := congrArg Status.openedAt hstatus
  have hopenReason := congrArg Status.openReason hstatus
  have hrow := congrArg Memory.consecutiveFailures hmemory
  simp only [Breaker.status, Breaker.memory] at hcircuit hopenedAt hopenReason hrow
  refine ⟨?_, ?_, fun closed => ?_, hmemory ▸ isSound_run s agent is⟩
  · rw [hcircuit, hopenedAt]
    rcases status_run s agent is with h | ⟨_, _, _, _, _, _, h⟩ <;> simp [h, Status.clear]
  · rw [hcircuit, hopenReason]
    rcases status_run s agent is with h | ⟨_, _, _, _, _, _, h⟩ <;> simp [h, Status.clear]
  · rw [hcircuit, circuit_statusIn] at closed
    rw [hrow]
    exact row_lt_run pos bound agent is closed

/-- The reason that is kept was given by the incident that opened the circuit, and the moment is the
moment of that incident. -/
theorem exists_openedBy (s : BreakerSettings F) (agent : String) (is : List (Incident F))
    (now : Instant) {reason : String}
    (h : ((run s ∅ is).breaker agent now).openReason = some reason) :
    ∃ i before after, i.agent = agent ∧
      ((run s ∅ is).breaker agent now).openedAt = some i.now ∧
        OpenedBy s is i reason before after := by
  have hstatus := status_breaker (run s ∅ is) agent now
  obtain hclear | ⟨i, reason', before, after, hi, hopened, hopen⟩ := status_run s agent is
  · have hnone := congrArg Status.openReason (hstatus.trans hclear)
    cases h.symm.trans hnone
  · have hsome := congrArg Status.openReason (hstatus.trans hopen)
    obtain rfl := Option.some.inj (h.symm.trans hsome)
    exact ⟨i, before, after, hi, congrArg Status.openedAt (hstatus.trans hopen), hopened⟩

/-- What the next event does to an agent's breaker, the agent not being forgotten. -/
theorem turn_handle (s : BreakerSettings F) (agent : String) (is : List (Incident F))
    (now later : Instant) {e : Event F} (he : e ≠ .reset) :
    let b := (run s ∅ is).breaker agent now
    let r := (run s ∅ is).handle s later agent e
    let b' := r.2.breaker agent later
    Turn agent later (min (b.consecutiveFailures + 1) Breaker.countLimit) e b.status r.1 b'.status ∧
      b'.memory = e.note s later b.isOpen b.memory := by
  intro b r b'
  have hturn := (turnsIn_apply s later (isLabelled_run s agent is) he).turn
  have hopen : b.isOpen = isOpenIn ((run s ∅ is).get? agent) := isOpen_getD_fresh ..
  have hrow : b.consecutiveFailures = failuresIn ((run s ∅ is).get? agent) :=
    consecutiveFailures_getD_fresh ..
  have hstatus : b.status = statusIn ((run s ∅ is).get? agent) := status_breaker ..
  have hmemory : b.memory = memoryIn ((run s ∅ is).get? agent) := memory_breaker ..
  have hstatus' : b'.status = statusIn (r.2.get? agent) := status_breaker ..
  have hmemory' : b'.memory = memoryIn (r.2.get? agent) := memory_breaker ..
  rw [get?_handle_self] at hstatus' hmemory'
  rw [hopen, hrow, hstatus, hmemory, hstatus', hmemory', handle_fst]
  exact ⟨hturn, memoryIn_apply ..⟩

/-- After every run the parts of an agent's breaker agree with each other and with the history: it
counts the failures since the agent was last forgotten, and it gives the moment and the reason of
the one incident that opened the circuit since it was last closed. Whatever happens next, a
transition is reported exactly if the circuit changes, from its state before to its state after; and
neither a success nor the closing of the circuit touches the alerts or the failures in all. -/
theorem coherent_run (s : BreakerSettings F) (pos : 1 ≤ s.failureThreshold)
    (bound : s.failureThreshold ≤ Breaker.countLimit) (agent : String) (is : List (Incident F))
    (now : Instant) :
    let b := (run s ∅ is).breaker agent now
    b.IsCoherent s ∧
    b.totalFailures = (sinceForgotten (eventsOf agent is)).countP Event.isFailure ∧
    (∀ reason, b.openReason = some reason →
      ∃ i before after, i.agent = agent ∧ b.openedAt = some i.now ∧
        OpenedBy s is i reason before after) ∧
    ∀ (later : Instant) (e : Event F), e ≠ .reset →
      let r := (run s ∅ is).handle s later agent e
      let b' := r.2.breaker agent later
      r.1.map (fun t => (t.agent, t.source, t.target)) =
          (if b'.circuit = b.circuit then none else some (agent, b.circuit, b'.circuit)) ∧
        (e.isSuccess = true ∨ e.lifts = true →
          b'.alerts = b.alerts ∧ b'.totalFailures = b.totalFailures) := by
  intro b
  have htotal : b.totalFailures = _ :=
    congrArg Memory.totalFailures (memory_breaker (run s ∅ is) agent now)
  refine ⟨isCoherent_run pos bound agent is now, htotal.trans (totalFailures_run s agent is),
    fun reason => exists_openedBy s agent is now, ?_⟩
  intro later e he r b'
  obtain ⟨hturn, hnote⟩ := turn_handle s agent is now later he
  refine ⟨hturn.transition_eq, fun hspares => ?_⟩
  obtain ⟨halerts, hfailures⟩ := note_of_spares (s := s) he hspares later b.isOpen b.memory
  exact ⟨(congrArg Memory.alerts hnote).trans halerts,
    (congrArg Memory.totalFailures hnote).trans hfailures⟩

/-- A halt does not change the reason for which a circuit is open already. -/
theorem coherent_run_second_opening :
    let s : BreakerSettings Float := ⟨2, 0.3, 50⟩
    let reason := "2 consecutive failures, last: timeout"
    let is : List (Incident Float) :=
      [⟨.epoch, "a", .failure "timeout"⟩, ⟨.epoch, "b", .success⟩,
        ⟨.epoch, "a", .drift 0.1 "drift"⟩, ⟨.epoch, "a", .failure "timeout"⟩,
        ⟨.epoch, "a", .halt "unruly"⟩]
    let b := (run s ∅ is).breaker "a" .epoch
    (1 ≤ s.failureThreshold ∧ s.failureThreshold ≤ Breaker.countLimit ∧
        b.openReason = some reason) ∧
      ∃ i before after, i.agent = "a" ∧ OpenedBy s is i reason before after := by
  intro s reason is b
  have hreason : b.openReason = some reason := by decide +kernel
  refine ⟨⟨by decide, by decide, hreason⟩, ?_⟩
  obtain ⟨-, -, hopened, -⟩ := coherent_run s (by decide) (by decide) "a" is .epoch
  obtain ⟨i, before, after, hi, -, hopened⟩ := hopened reason hreason
  exact ⟨i, before, after, hi, hopened⟩

end Breakers
end Mandate
