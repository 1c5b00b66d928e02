import Mandate.Engine.Run
import Mandate.Proofs.Baseline.Run
import Mandate.Proofs.Breaker.Alerts
import Mandate.Proofs.Tripwire.Run

/-!
# What the bounded histories hold

The records of an agent's baseline, its drift alerts, the outcomes of its probes and the audit log
each hold the newest of all entries that they were given, in their order, whatever else is done in
between: `histories_hold_newest`. What only scores, resets a drift or closes a circuit leaves all of
them as they are (`Standing.SameHistories`).
-/

namespace Mandate

variable {F : Type}

/-! ## The audit log -/

namespace AuditLog

theorem addAll_eq (log : AuditLog F) (rs : List (AuditRecord F)) :
    log.addAll rs = { log with records := rs.foldl (remember log.capacity) log.records } := by
  induction rs generalizing log with
  | nil => rfl
  | cons r rs ih => exact ih (log.add r)

theorem addAll_blank (capacity : Nat) (rs : List (AuditRecord F)) :
    (blank capacity).addAll rs = ⟨capacity, keepNewest capacity rs⟩ := by
  have hrecords := foldl_remember capacity [] rs
  rw [keepNewest_of_length_le (Nat.zero_le _), List.nil_append] at hrecords
  rw [addAll_eq, blank, hrecords]

/-- The newest records of a log are the newest ones that it was given, as far as it goes back. -/
theorem recent_addAll_blank (capacity : Nat) (rs : List (AuditRecord F)) (count : Nat) :
    ((blank capacity).addAll rs).recent count = rs.reverse.take (min count capacity) := by
  rw [addAll_blank, recent, reverse_keepNewest, List.take_take]

end AuditLog

/-! ## What leaves the histories as they are -/

/-- Each agent has the same records, the same alerts and the same outcomes of probes. -/
structure Standing.SameHistories [Scalar F] (s s' : Standing F) : Prop where
  records : ∀ agent, s'.baselines.records agent = s.baselines.records agent
  alerts : ∀ agent now,
    (s'.breakers.breaker agent now).alerts = (s.breakers.breaker agent now).alerts
  tripwires : s'.tripwires = s.tripwires

namespace Baselines

variable [Scalar F]

theorem records_compare_any (bs : Baselines F) (s : BaselineSettings F) (own agent : String)
    (c : Conduct F) : (bs.compare s own c).2.records agent = bs.records agent := by
  by_cases h : agent = own
  · rw [h, records_compare]
  · exact records_congr (get?_compare_of_ne h bs s c)

theorem records_recalibrate_any (bs : Baselines F) (now : Instant) (own agent : String) :
    (bs.recalibrate now own).2.records agent = bs.records agent := by
  by_cases h : agent = own
  · rw [h, records_recalibrate]
  · exact records_congr (get?_recalibrate_of_ne h bs now)

end Baselines

namespace Engine

variable [Scalar F] (e : Engine F) (now : Instant) (agent : String) (s : Standing F)

theorem sameHistories_compare (raw interpretation : String) (behaviors : List String) :
    s.SameHistories (e.compare agent raw interpretation behaviors s).standing := by
  unfold compare
  split
  · exact ⟨fun _ => rfl, fun _ _ => rfl, rfl⟩
  · exact ⟨fun _ => Baselines.records_compare_any .., fun _ _ => rfl, rfl⟩

theorem sameHistories_close (reason : String) :
    s.SameHistories (e.circuitEvent now agent (.close reason) s).standing :=
  ⟨fun _ => rfl, fun _ _ => Breakers.alerts_close .., rfl⟩

theorem sameHistories_recalibrate : s.SameHistories (e.recalibrate now agent s).standing :=
  ⟨fun _ => Baselines.records_recalibrate_any .., fun _ _ => Breakers.alerts_close .., rfl⟩

end Engine

/-! ## All histories -/

/-- After any run the records of an agent, its drift alerts, the outcomes of its probes and the
records of a log are the newest of all that were made, in their order, and as many as there is room
for. The totals of the probes count every one, each of which passed or failed, and the failure rate
is the share of failures among the outcomes that are held. To compare an agent with its baseline, to
recalibrate it, to close its circuit or to let it act again changes nothing of this. -/
theorem histories_hold_newest [Scalar F] (agent : String) :
    (∀ (s : BaselineSettings F) (rs : List (Instant × Baselines.Request F)),
      HoldsNewest s.maxRecords (Baselines.made s agent rs)
        ((Baselines.run s ∅ rs).records agent)) ∧
    (∀ (s : BreakerSettings F) (is : List (Incident F)) (now : Instant),
      HoldsNewest s.maxAlerts (Breakers.raised s agent is)
        ((Breakers.run s ∅ is).breaker agent now).alerts) ∧
    (∀ (s : TripwireSettings) (rs : List (Instant × Tripwires.Request)),
      let ts := Tripwires.after F s ∅ rs
      let given := Tripwires.outcomes agent rs
      let h := ts.history agent
      HoldsNewest s.windowSize given h.recent ∧
      h.totalProbes = given.length ∧ h.totalFailures = given.countP (!·) ∧
      (ts.failureRate agent : F) =
        if h.recent = [] then 0.0
        else Scalar.share (h.recent.countP (!·)) (min s.windowSize given.length)) ∧
    (∀ (ts : Tripwires) (s : TripwireSettings) (now : Instant) (interpreter : Interpreter)
        (probes : List Probe),
      let r := ts.run s now agent interpreter probes (F := F)
      r.1.passed + r.1.failed = probes.length ∧
      r.1.failed = probes.countP (fun p => interpreter p.frame ≠ some p.expected) ∧
      r.1.failureRate = r.2.failureRate agent) ∧
    (∀ (capacity : Nat) (rs : List (AuditRecord F)) (count : Nat),
      let log := (AuditLog.blank capacity).addAll rs
      HoldsNewest capacity rs log.records ∧
      log.recent count = rs.reverse.take (min count capacity)) ∧
    ∀ (e : Engine F) (now : Instant) (s : Standing F) (own raw interpretation reason : String)
        (behaviors : List String),
      s.SameHistories (e.compare own raw interpretation behaviors s).standing ∧
      s.SameHistories (e.resume now own s).standing ∧
      s.SameHistories (e.recalibrate now own s).standing ∧
      s.SameHistories (e.circuitEvent now own (.close reason) s).standing := by
  refine ⟨fun s rs => ?_, fun s is now => ?_, fun s rs => ?_, fun ts s now interpreter probes => ?_,
    fun capacity rs count => ?_, fun e now s own raw interpretation reason behaviors => ?_⟩
  · rw [Baselines.records_run]
    exact holdsNewest_keepNewest ..
  · rw [Breakers.alerts_breaker, Breakers.alerts_run]
    exact holdsNewest_keepNewest ..
  · have tally := Tripwires.isTallyOf_after F s agent rs
    refine ⟨?_, tally.totalProbes, tally.totalFailures, tally.failureRate_eq⟩
    rw [tally.recent]
    exact holdsNewest_keepNewest ..
  · exact ⟨Tripwires.passed_add_failed_run .., Tripwires.failed_run ..,
      Tripwires.failureRate_run ..⟩
  · refine ⟨?_, AuditLog.recent_addAll_blank ..⟩
    rw [AuditLog.addAll_blank]
    exact holdsNewest_keepNewest ..
  · exact ⟨e.sameHistories_compare own s raw interpretation behaviors,
      e.sameHistories_close now own s "operator resume", e.sameHistories_recalibrate now own s,
      e.sameHistories_close now own s reason⟩

end Mandate
