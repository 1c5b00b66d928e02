import Mandate.Engine
import Mandate.Proofs.Scalar.Exact

/-!
# Accepted settings

A check that finds no fault has passed each of its parts. `check_eq_ok_iff` and the lemmas on the
sections say what usable settings are.
-/

namespace Mandate.Settings

variable {F : Type}

/-! ## One check after the other -/

theorem bind_eq_ok_iff {ε : Type} {x y : Except ε Unit} :
    (do x; y) = .ok () ↔ x = .ok () ∧ y = .ok () := by
  cases x with
  | error e => exact iff_of_false nofun nofun
  | ok u => exact (and_iff_right rfl).symm

theorem forM_eq_ok_iff {ε α : Type} {xs : List α} {f : α → Except ε Unit} :
    xs.forM f = .ok () ↔ ∀ x ∈ xs, f x = .ok () := by
  induction xs with
  | nil => exact iff_of_true rfl nofun
  | cons x xs ih => exact bind_eq_ok_iff.trans (by rw [ih, List.forall_mem_cons])

@[simp] theorem positive_eq_ok_iff {field : String} {n : Nat} :
    positive (F := F) field n = .ok () ↔ n ≠ 0 := by
  unfold positive
  split <;> simp_all

@[simp] theorem refuseIf_eq_ok_iff {condition : Prop} [Decidable condition] {e : Error F} :
    refuseIf condition e = .ok () ↔ ¬ condition := by
  unfold refuseIf
  split <;> simp_all

variable [Scalar F]

@[simp] theorem unit_eq_ok_iff {field : String} {x : F} :
    unit field x = .ok () ↔ Scalar.isFinite x = true ∧ 0.0 ≤ x ∧ x ≤ 1.0 := by
  unfold unit
  split <;> simp_all

/-! ## The sections -/

theorem check_eq_ok_iff {s : Settings F} :
    s.check = .ok () ↔
      s.minSymbols ≠ 0 ∧ checkBaseline s.baseline = .ok () ∧ checkBreaker s.breaker = .ok () ∧
        checkGovernance s.governance = .ok () ∧ checkFloor s.floor = .ok () ∧
        s.tripwire.windowSize ≠ 0 ∧ s.maxAuditEntries ≠ 0 := by
  simp only [check, bind_eq_ok_iff, positive_eq_ok_iff]

theorem checkBaseline_eq_ok_iff {b : BaselineSettings F} :
    checkBaseline b = .ok () ↔
      b.maxRecords ≠ 0 ∧
        (Scalar.isFinite b.frameWeight = true ∧ 0.0 ≤ b.frameWeight ∧ b.frameWeight ≤ 1.0) ∧
        (Scalar.isFinite b.interpretationWeight = true ∧ 0.0 ≤ b.interpretationWeight ∧
          b.interpretationWeight ≤ 1.0) ∧
        (Scalar.isFinite b.behaviorWeight = true ∧ 0.0 ≤ b.behaviorWeight ∧
          b.behaviorWeight ≤ 1.0) ∧
        ¬ b.frameWeight + b.interpretationWeight + b.behaviorWeight ≤ 0.0 ∧
        (Scalar.isFinite b.smoothing = true ∧ 0.0 ≤ b.smoothing ∧ b.smoothing ≤ 1.0) ∧
        ¬ Scalar.same b.smoothing 0.0 = true := by
  simp only [checkBaseline, bind_eq_ok_iff, positive_eq_ok_iff, unit_eq_ok_iff, refuseIf_eq_ok_iff]

theorem checkGate_eq_ok_iff {gate : Gate} {s : GateSpec F} :
    checkGate gate s = .ok () ↔
      (Scalar.isFinite s.min = true ∧ 0.0 ≤ s.min ∧ s.min ≤ 1.0) ∧
        (Scalar.isFinite s.max = true ∧ 0.0 ≤ s.max ∧ s.max ≤ 1.0) ∧ ¬ s.min ≤ 0.0 ∧
        ¬ s.max < s.min ∧ ¬ (Scalar.isFinite s.base = false ∨ s.base < s.min ∨ s.max < s.base) := by
  simp only [checkGate, bind_eq_ok_iff, unit_eq_ok_iff, refuseIf_eq_ok_iff]

theorem checkGovernance_eq_ok_iff {g : GovernanceSettings F} :
    checkGovernance g = .ok () ↔
      (∀ gate, checkGate gate (g.spec gate) = .ok ()) ∧ g.referenceVocabulary ≠ 0 ∧
        (Scalar.isFinite g.vocabularyFloor = true ∧ 0.0 ≤ g.vocabularyFloor ∧
          g.vocabularyFloor ≤ 1.0) ∧
        (Scalar.isFinite g.floorCap = true ∧ 0.0 ≤ g.floorCap ∧ g.floorCap ≤ 1.0) ∧
        ¬ g.floorCap < g.vocabularyFloor ∧
        Scalar.isFinite g.floorSlope = true ∧ 0.0 ≤ g.floorSlope ∧ g.floorSlope ≤ 1.0 := by
  have hall : ∀ gate, gate ∈ Gate.all := by
    intro gate
    cases gate <;> decide
  simp only [checkGovernance, bind_eq_ok_iff, forM_eq_ok_iff, positive_eq_ok_iff, unit_eq_ok_iff,
    refuseIf_eq_ok_iff, hall, true_implies]

/-! ## The defaults -/

theorem check_default [ExactContext] : (default : Settings Exact).check = .ok () := by
  have hbaseline : checkBaseline (.default : BaselineSettings Exact) = .ok () := by
    norm_num [checkBaseline, bind_eq_ok_iff, BaselineSettings.default, Scalar.same]
  have hbreaker : checkBreaker (.default : BreakerSettings Exact) = .ok () := by
    norm_num [checkBreaker, bind_eq_ok_iff, BreakerSettings.default]
  have hgate (gate : Gate) :
      checkGate gate ((.default : GovernanceSettings Exact).spec gate) = .ok () := by
    rw [checkGate_eq_ok_iff]
    cases gate <;> norm_num [GovernanceSettings.default, GovernanceSettings.spec]
  have hgovernance : checkGovernance (.default : GovernanceSettings Exact) = .ok () := by
    rw [checkGovernance_eq_ok_iff]
    refine ⟨hgate, ?_⟩
    norm_num [GovernanceSettings.default]
  have hfloor : checkFloor (.default : FloorSettings Exact) = .ok () := by
    norm_num [checkFloor, bind_eq_ok_iff, FloorSettings.default]
  exact check_eq_ok_iff.2 ⟨Nat.succ_ne_zero _, hbaseline, hbreaker, hgovernance, hfloor,
    Nat.succ_ne_zero _, Nat.succ_ne_zero _⟩

end Mandate.Settings

theorem Mandate.Engine.check_settings_of_build {F : Type} [Scalar F] {settings : Settings F}
    {ontology : Ontology} {overlay : Option (Overlay F)} {e : Engine F}
    (h : build settings ontology overlay = .ok e) : e.settings.check = .ok () := by
  unfold build at h
  split at h
  next => cases h
  next hcheck =>
    split at h
    next => cases h
    next =>
      obtain rfl := Except.ok.inj h
      exact hcheck
