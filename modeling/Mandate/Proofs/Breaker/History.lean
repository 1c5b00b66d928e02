import Mandate.Binary64
import Mandate.Proofs.Breaker.Run
import Mathlib.Data.List.DropRight

/-!
# The circuit as a function of its history

Of an agent's history only the events since its circuit was last lifted count, that is since an
operator closed it or the agent was forgotten. The main statement, `isAllowed_run_eq_false_iff`,
says that the circuit is open exactly when those events give grounds for it. The breaker sees them
one by one and keeps a count; `Tracks` is what ties the two together.
-/

namespace Mandate

variable {F : Type}

namespace Breakers

/-! ## Events -/

/-- The event closes the circuit, whatever it was. -/
def Event.lifts : Event F → Bool
  | .close _ | .reset => true
  | _ => false

def Event.isFailure : Event F → Bool
  | .failure _ => true
  | _ => false

def Event.isSuccess : Event F → Bool
  | .success => true
  | _ => false

/-- The events after the last one that lifts the circuit. -/
def sinceLifted (es : List (Event F)) : List (Event F) :=
  es.rtakeWhile fun e => !e.lifts

/-- The failures after the last success. -/
def failuresInRow (es : List (Event F)) : Nat :=
  (es.rtakeWhile fun e => !e.isSuccess).countP Event.isFailure

/-- There are `n` failures with no success between the first and the last of them. -/
def HasRow (n : Nat) (es : List (Event F)) : Prop :=
  ∃ row, row <:+: es ∧ .success ∉ row ∧ n ≤ row.countP Event.isFailure

/-- What opens a circuit. -/
inductive Grounds [Scalar F] (s : BreakerSettings F) (es : List (Event F)) : Prop where
  | halted (reason : String) (mem : .halt reason ∈ es)
  /-- A score counts unless it is known to be low enough, so an undefined one does. -/
  | drifted (score : F) (reason : String) (mem : .drift score reason ∈ es)
      (critical : ¬ score ≤ s.criticalDrift)
  | failed (row : HasRow s.failureThreshold es)

/-! ## Rows of failures -/

@[simp] theorem failuresInRow_nil : failuresInRow ([] : List (Event F)) = 0 := by
  simp [failuresInRow]

theorem failuresInRow_concat (es : List (Event F)) (e : Event F) :
    failuresInRow (es ++ [e]) =
      if e.isSuccess then 0 else failuresInRow es + if e.isFailure then 1 else 0 := by
  unfold failuresInRow
  rw [List.rtakeWhile_concat]
  by_cases h : e.isSuccess = true
  · simp [h]
  · simp [h, List.countP_append, List.countP_singleton]

/-- No row at the end of the events is longer than the failures after the last success. -/
theorem countP_le_failuresInRow {row es : List (Event F)} (h : row <:+ es)
    (hs : .success ∉ row) : row.countP Event.isFailure ≤ failuresInRow es := by
  induction es using List.reverseRecOn generalizing row with
  | nil => simp [List.suffix_nil.1 h]
  | append_singleton es e ih =>
      rcases List.suffix_concat_iff.1 h with rfl | ⟨row, rfl, hrow⟩
      · exact Nat.zero_le _
      · simp only [List.mem_append, List.mem_singleton, not_or] at hs
        have he : e.isSuccess = false := by
          cases e <;> first | rfl | exact absurd rfl hs.2
        rw [failuresInRow_concat, he, List.countP_append, List.countP_singleton]
        exact Nat.add_le_add_right (ih hrow hs.1) _

theorem hasRow_of_le_failuresInRow {n : Nat} {es : List (Event F)} (h : n ≤ failuresInRow es) :
    HasRow n es := by
  refine ⟨es.rtakeWhile fun e => !e.isSuccess, (List.rtakeWhile_suffix _ es).isInfix, ?_, h⟩
  intro hs
  simpa [Event.isSuccess] using List.mem_rtakeWhile_imp hs

theorem HasRow.mono {n : Nat} {es fs : List (Event F)} (h : HasRow n es) (hes : es <:+: fs) :
    HasRow n fs := by
  obtain ⟨row, hrow, hs, hn⟩ := h
  exact ⟨row, hrow.trans hes, hs, hn⟩

theorem hasRow_concat_iff {n : Nat} {es : List (Event F)} {e : Event F} :
    HasRow n (es ++ [e]) ↔ HasRow n es ∨ n ≤ failuresInRow (es ++ [e]) := by
  constructor
  · rintro ⟨row, hrow, hs, hn⟩
    rcases List.infix_concat_iff.1 hrow with hrow | hrow
    · exact Or.inr (hn.trans (countP_le_failuresInRow hrow hs))
    · exact Or.inl ⟨row, hrow, hs, hn⟩
  · rintro (h | h)
    · exact h.mono (List.prefix_append es [e]).isInfix
    · exact hasRow_of_le_failuresInRow h

/-! ## Grounds -/

section Grounds

variable [Scalar F] {s : BreakerSettings F} {es : List (Event F)}

theorem Grounds.mono {fs : List (Event F)} (h : Grounds s es) (hes : es <:+: fs) :
    Grounds s fs := by
  cases h with
  | halted reason mem => exact .halted reason (hes.subset mem)
  | drifted score reason mem critical => exact .drifted score reason (hes.subset mem) critical
  | failed row => exact .failed (row.mono hes)

theorem not_grounds_nil (pos : 1 ≤ s.failureThreshold) : ¬ Grounds s ([] : List (Event F)) := by
  intro h
  cases h with
  | halted _ mem => cases mem
  | drifted _ _ mem _ => cases mem
  | failed row =>
      obtain ⟨row, hrow, _, hn⟩ := row
      rw [List.infix_nil.1 hrow, List.countP_nil] at hn
      omega

theorem failuresInRow_lt_of_not_grounds (h : ¬ Grounds s es) :
    failuresInRow es < s.failureThreshold :=
  Nat.lt_of_not_le fun hn => h (.failed (hasRow_of_le_failuresInRow hn))

theorem grounds_concat_iff {e : Event F} :
    Grounds s (es ++ [e]) ↔
      Grounds s es ∨ (∃ reason, e = .halt reason) ∨
        (∃ score reason, e = .drift score reason ∧ ¬ score ≤ s.criticalDrift) ∨
        s.failureThreshold ≤ failuresInRow (es ++ [e]) := by
  constructor
  · intro h
    cases h with
    | halted reason mem =>
        rcases List.mem_append.1 mem with mem | mem
        · exact Or.inl (.halted reason mem)
        · exact Or.inr (Or.inl ⟨reason, (List.mem_singleton.1 mem).symm⟩)
    | drifted score reason mem critical =>
        rcases List.mem_append.1 mem with mem | mem
        · exact Or.inl (.drifted score reason mem critical)
        · exact Or.inr (Or.inr (Or.inl
            ⟨score, reason, (List.mem_singleton.1 mem).symm, critical⟩))
    | failed row =>
        rcases hasRow_concat_iff.1 row with row | hn
        · exact Or.inl (.failed row)
        · exact Or.inr (Or.inr (Or.inr hn))
  · rintro (h | ⟨reason, rfl⟩ | ⟨score, reason, rfl, critical⟩ | hn)
    · exact h.mono (List.prefix_append es [e]).isInfix
    · exact .halted reason (by simp)
    · exact .drifted score reason (by simp) critical
    · exact .failed (hasRow_of_le_failuresInRow hn)

theorem grounds_concat_failure_iff {reason : String} :
    Grounds s (es ++ [.failure reason]) ↔
      Grounds s es ∨ s.failureThreshold ≤ failuresInRow es + 1 := by
  simp [grounds_concat_iff, failuresInRow_concat, Event.isSuccess, Event.isFailure]

theorem grounds_concat_success_iff (pos : 1 ≤ s.failureThreshold) :
    Grounds s (es ++ [.success]) ↔ Grounds s es := by
  have : s.failureThreshold ≠ 0 := by omega
  simp [grounds_concat_iff, failuresInRow_concat, Event.isSuccess, this]

theorem grounds_concat_drift_iff {score : F} {reason : String} :
    Grounds s (es ++ [.drift score reason]) ↔ Grounds s es ∨ ¬ score ≤ s.criticalDrift := by
  have hrow : s.failureThreshold ≤ failuresInRow es → Grounds s es :=
    fun hn => .failed (hasRow_of_le_failuresInRow hn)
  simp only [grounds_concat_iff, failuresInRow_concat, Event.isSuccess, Event.isFailure]
  constructor
  · rintro (h | ⟨_, h⟩ | ⟨_, _, h, critical⟩ | hn)
    · exact Or.inl h
    · cases h
    · cases h
      exact Or.inr critical
    · exact Or.inl (hrow hn)
  · rintro (h | critical)
    · exact Or.inl h
    · exact Or.inr (Or.inr (Or.inl ⟨score, reason, rfl, critical⟩))

end Grounds

/-! ## What a breaker knows of its history -/

section Tracks

variable [Scalar F] {s : BreakerSettings F} {es : List (Event F)} {known : Option (Breaker F)}

/-- The circuit is open exactly on grounds, and without grounds the breaker counts the failures
after the last success. -/
structure Tracks (s : BreakerSettings F) (es : List (Event F)) (known : Option (Breaker F)) :
    Prop where
  open_iff : isOpenIn known = true ↔ Grounds s es
  failures_eq : ¬ Grounds s es → failuresIn known = failuresInRow es

theorem tracks_nil (pos : 1 ≤ s.failureThreshold) (hopen : isOpenIn known = false)
    (hzero : failuresIn known = 0) : Tracks s [] known := by
  refine ⟨⟨fun h => ?_, fun h => absurd h (not_grounds_nil pos)⟩, fun _ => by simp [hzero]⟩
  rw [hopen] at h
  cases h

theorem Tracks.concat (h : Tracks s es known) (pos : 1 ≤ s.failureThreshold)
    (bound : s.failureThreshold ≤ Breaker.countLimit) (now : Instant) (agent : String)
    {e : Event F} (he : e.lifts = false) :
    Tracks s (es ++ [e]) (e.apply s now agent known).2 := by
  obtain ⟨hopen, hfailures⟩ := h
  cases e with
  | failure reason =>
      -- Without grounds the count is below the threshold, so it does not reach its limit.
      have hcount : ¬ Grounds s es →
          min (failuresIn known + 1) Breaker.countLimit = failuresInRow es + 1 := by
        intro hg
        have := failuresInRow_lt_of_not_grounds hg
        rw [hfailures hg]
        omega
      refine ⟨?_, fun hg => ?_⟩
      · by_cases hg : Grounds s es
        · simp [Event.apply, Breaker.isOpen_fail, grounds_concat_failure_iff, hopen.2 hg, hg]
        · simp [Event.apply, Breaker.isOpen_fail, grounds_concat_failure_iff, hopen, hg,
            hcount hg]
      · rw [grounds_concat_failure_iff, not_or] at hg
        simp [Event.apply, hcount hg.1, failuresInRow_concat, Event.isSuccess, Event.isFailure]
  | success =>
      refine ⟨?_, fun hg => ?_⟩
      · simp [Event.apply, grounds_concat_success_iff pos, hopen]
      · rw [grounds_concat_success_iff pos] at hg
        have hclosed : isOpenIn known = false := Bool.eq_false_iff.2 fun h => hg (hopen.1 h)
        simp [Event.apply, failuresIn_map_succeed, hclosed, failuresInRow_concat,
          Event.isSuccess]
  | drift score reason =>
      refine ⟨?_, fun hg => ?_⟩
      · simp [Event.apply, Breaker.isOpen_drift, grounds_concat_drift_iff, hopen,
          Scalar.exceeds]
      · rw [grounds_concat_drift_iff, not_or] at hg
        simp [Event.apply, hfailures hg.1, failuresInRow_concat, Event.isSuccess,
          Event.isFailure]
  | halt reason =>
      have hg : Grounds s (es ++ [.halt reason]) := .halted reason (by simp)
      exact ⟨by simp [Event.apply, hg], fun h => absurd hg h⟩
  | close reason => cases he
  | reset => cases he

/-- Whatever the event, the breaker after it knows of the events since the circuit was last
lifted. -/
theorem Tracks.apply (h : Tracks s (sinceLifted es) known) (pos : 1 ≤ s.failureThreshold)
    (bound : s.failureThreshold ≤ Breaker.countLimit) (now : Instant) (agent : String)
    (e : Event F) : Tracks s (sinceLifted (es ++ [e])) (e.apply s now agent known).2 := by
  unfold sinceLifted
  rw [List.rtakeWhile_concat]
  cases he : e.lifts with
  | false => exact h.concat pos bound now agent he
  | true =>
      cases e with
      | close reason =>
          cases known with
          | none => exact tracks_nil pos rfl rfl
          | some b => exact tracks_nil pos rfl rfl
      | reset => exact tracks_nil pos rfl rfl
      | _ => cases he

theorem tracks_run (pos : 1 ≤ s.failureThreshold) (bound : s.failureThreshold ≤ Breaker.countLimit)
    (agent : String) (is : List (Incident F)) :
    Tracks s (sinceLifted (eventsOf agent is)) ((run s ∅ is).get? agent) := by
  induction is using List.reverseRecOn with
  | nil => exact tracks_nil pos rfl rfl
  | append_singleton is i ih =>
      -- The last incident is this agent's, or it leaves this agent's breaker and history alone.
      rw [run_concat, eventsOf_append, eventsOf_singleton]
      by_cases h : i.agent = agent
      · subst h
        rw [if_pos rfl, get?_handle_self]
        exact ih.apply pos bound i.now i.agent i.event
      · rw [if_neg h, List.append_nil, get?_handle_of_ne s i.now (Ne.symm h)]
        exact ih

end Tracks

/-! ## Open circuits -/

section Run

variable [Scalar F]

theorem isOpenIn_apply {s : BreakerSettings F} {known : Option (Breaker F)} {e : Event F}
    (he : e.lifts = false) (h : isOpenIn known = true) (now : Instant) (agent : String) :
    isOpenIn (e.apply s now agent known).2 = true := by
  cases e with
  | failure reason => simp [Event.apply, Breaker.isOpen_fail, h]
  | success => simp [Event.apply, h]
  | drift score reason => simp [Event.apply, Breaker.isOpen_drift, h]
  | halt reason => simp [Event.apply]
  | close reason => cases he
  | reset => cases he

theorem isOpenIn_run (s : BreakerSettings F) {bs : Breakers F} {agent : String}
    (h : isOpenIn (bs.get? agent) = true) {is : List (Incident F)}
    (his : ∀ e ∈ eventsOf agent is, e.lifts = false) :
    isOpenIn ((run s bs is).get? agent) = true := by
  induction is using List.reverseRecOn with
  | nil => exact h
  | append_singleton is i ih =>
      rw [eventsOf_append, eventsOf_singleton] at his
      have hopen := ih fun e he => his e (List.mem_append_left _ he)
      rw [run_concat]
      by_cases hi : i.agent = agent
      · subst hi
        rw [get?_handle_self]
        exact isOpenIn_apply (his _ (by simp)) hopen i.now i.agent
      · rwa [get?_handle_of_ne s i.now (Ne.symm hi)]

/-- An agent is stopped exactly when the events since its circuit was last lifted give grounds:
an operator's halt, a drift score that is not low enough, or enough failures with no success among
them. A circuit that is open stays open until it is lifted. A threshold is a count of 32 bits. -/
theorem isAllowed_run_eq_false_iff (s : BreakerSettings F) (pos : 1 ≤ s.failureThreshold)
    (bound : s.failureThreshold ≤ Breaker.countLimit) (agent : String) (is : List (Incident F)) :
    ((run s ∅ is).isAllowed agent = false ↔ Grounds s (sinceLifted (eventsOf agent is))) ∧
      ∀ (bs : Breakers F) (js : List (Incident F)), bs.isAllowed agent = false →
        (∀ e ∈ eventsOf agent js, e.lifts = false) → (run s bs js).isAllowed agent = false := by
  refine ⟨?_, fun bs js h hjs => ?_⟩
  · rw [isAllowed_eq_false_iff]
    exact (tracks_run pos bound agent is).open_iff
  · rw [isAllowed_eq_false_iff] at h ⊢
    exact isOpenIn_run s h hjs

/-- A success ends a row of failures, a low drift score and another agent's circuit do not. -/
theorem isAllowed_run_second_row :
    let timeout : Event Float := .failure "timeout"
    let is : List (Incident Float) :=
      [⟨.epoch, "a", timeout⟩, ⟨.epoch, "a", .success⟩, ⟨.epoch, "a", timeout⟩,
        ⟨.epoch, "a", .drift 0.1 "drift"⟩, ⟨.epoch, "b", .close "manual"⟩, ⟨.epoch, "a", timeout⟩]
    (run ⟨2, 0.3, 50⟩ ∅ is).isAllowed "a" = false := by
  intro timeout is
  have row : HasRow 2 (sinceLifted (eventsOf "a" is)) :=
    ⟨[timeout, .drift 0.1 "drift", timeout], ⟨[timeout, .success], [], rfl⟩, by simp [timeout],
      by decide⟩
  exact (isAllowed_run_eq_false_iff ⟨2, 0.3, 50⟩ (by decide) (by decide) "a" is).1.2 (.failed row)

end Run

end Breakers
end Mandate
