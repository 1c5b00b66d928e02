import Mandate.Proofs.Scalar.Logarithm
import Mandate.Proofs.Settings.Accepted
import Mandate.Proofs.Threshold.Factors

/-!
# Thresholds stay within their bounds

Accepted settings give each gate positive bounds with the base between them. Whatever tightens a
threshold, it is a number within the bounds of its gate, and a floor raises it no higher than they
allow. The main statement is `isBounded_modulate`.
-/

namespace Mandate

/-! ## Accepted specifications -/

/-- A base between two positive bounds. -/
structure Bounds where
  base : ℚ
  lo : ℚ
  hi : ℚ
  lo_pos : 0 < lo
  lo_le_base : lo ≤ base
  base_le_hi : base ≤ hi

namespace Bounds

/-- The specification of a gate with these bounds. -/
def spec (b : Bounds) : GateSpec Exact :=
  ⟨.finite b.base, .finite b.lo, .finite b.hi⟩

theorem base_pos (b : Bounds) : 0 < b.base :=
  b.lo_pos.trans_le b.lo_le_base

/-- Where a combined factor moves the base. -/
def moved (b : Bounds) (d : Direction) (t : ℚ) : ℚ :=
  match d with
  | .lowerIsStricter => b.base / t
  | .higherIsStricter => b.base * t

/-- Where the base is moved within the bounds. -/
def bounded (b : Bounds) (d : Direction) (t : ℚ) : ℚ :=
  min b.hi (max b.lo (b.moved d t))

variable {b : Bounds} {d : Direction} {t : ℚ}

theorem lo_le_bounded : b.lo ≤ b.bounded d t :=
  le_min (b.lo_le_base.trans b.base_le_hi) (le_max_left _ _)

theorem bounded_le_hi : b.bounded d t ≤ b.hi :=
  min_le_left _ _

end Bounds

section

variable [ExactContext]

theorem GateSpec.exists_bounds {gate : Gate} {s : GateSpec Exact}
    (h : Settings.checkGate gate s = .ok ()) : ∃ b : Bounds, s = b.spec := by
  obtain ⟨⟨hmin, -⟩, ⟨hmax, -⟩, hpos, -, hbase⟩ := Settings.checkGate_eq_ok_iff.1 h
  simp only [not_or, Bool.not_eq_false] at hbase
  obtain ⟨hfinite, hlo, hhi⟩ := hbase
  obtain ⟨base, min, max⟩ := s
  obtain ⟨lo, rfl⟩ := Exact.isFinite_iff.1 hmin
  obtain ⟨hi, rfl⟩ := Exact.isFinite_iff.1 hmax
  obtain ⟨base, rfl⟩ := Exact.isFinite_iff.1 hfinite
  rw [Exact.zero_eq, Exact.finite_le_finite] at hpos
  rw [Exact.finite_lt_finite] at hlo hhi
  exact ⟨⟨base, lo, hi, not_le.1 hpos, not_lt.1 hlo, not_lt.1 hhi⟩, rfl⟩

namespace GovernanceSettings

variable {g : GovernanceSettings Exact} {gate : Gate} {b : Bounds} {m : GovernanceMode}
  {u : Uncertainty Exact} {c : Calibration Exact} {vocabulary : Option Nat}

/-! ## The floor of the vocabulary -/

theorem floorFor_le (h : g.spec gate = b.spec) :
    ∀ f ∈ g.floorFor gate vocabulary, f ≤ .finite b.hi := by
  intro f hf
  rw [floorFor, h] at hf
  split at hf
  · obtain ⟨size, -, rfl⟩ := Option.mem_map.1 hf
    exact Exact.least_le_right rfl
  · cases hf

theorem isNaN_floorFor (h : g.spec gate = b.spec) :
    ∀ f ∈ g.floorFor gate vocabulary, Scalar.isNaN f = false :=
  fun f hf => (Scalar.isNaN_eq_false_of_le (floorFor_le h f hf)).1

/-! ## The threshold -/

theorem tightening_modulate :
    (g.modulate gate m u c vocabulary).tightening = .finite (tightness m u c) :=
  factors_eq

theorem threshold_modulate (h : g.spec gate = b.spec) :
    (g.modulate gate m u c vocabulary).threshold =
      Exact.raised (.finite (b.bounded gate.direction (tightness m u c)))
        (g.floorFor gate vocabulary) := by
  simp only [modulate, h, factors_eq]
  cases gate.direction with
  | lowerIsStricter =>
      simp only [Bounds.spec, Exact.finite_div_finite tightness_pos.ne', Exact.clamp_finite]
      rfl
  | higherIsStricter =>
      simp only [Bounds.spec, Exact.finite_mul_finite, Exact.clamp_finite]
      rfl

theorem threshold_le_iff (h : g.spec gate = b.spec) {x : Exact} :
    (g.modulate gate m u c vocabulary).threshold ≤ x ↔
      .finite (b.bounded gate.direction (tightness m u c)) ≤ x ∧
        ∀ f ∈ g.floorFor gate vocabulary, f ≤ x := by
  rw [threshold_modulate h]
  exact Exact.raised_le_iff Exact.isNaN_finite (isNaN_floorFor h)

theorem threshold_le_max (h : g.spec gate = b.spec) :
    (g.modulate gate m u c vocabulary).threshold ≤ .finite b.hi :=
  (threshold_le_iff h).2 ⟨b.bounded_le_hi, floorFor_le h⟩

-- A threshold is at most itself because it is a number, which its upper bound shows.
theorem le_threshold (h : g.spec gate = b.spec) :
    .finite (b.bounded gate.direction (tightness m u c)) ≤
        (g.modulate gate m u c vocabulary).threshold ∧
      ∀ f ∈ g.floorFor gate vocabulary, f ≤ (g.modulate gate m u c vocabulary).threshold :=
  (threshold_le_iff h).1
    (Exact.le_refl (Scalar.isNaN_eq_false_of_le (threshold_le_max h)).1)

end GovernanceSettings

/-! ## What bounds mean for a modulation -/

/-- The threshold is a positive number within the bounds of its gate, the combined factor is a
positive number, and a floor is no higher than the upper bound or the threshold. -/
structure Modulation.IsBounded (m : Modulation Exact) (spec : GateSpec Exact) : Prop where
  isFinite : Scalar.isFinite m.threshold = true
  pos : 0.0 < m.threshold
  min_le : spec.min ≤ m.threshold
  le_max : m.threshold ≤ spec.max
  tightening_isFinite : Scalar.isFinite m.tightening = true
  tightening_pos : 0.0 < m.tightening
  floor_le_max : ∀ f ∈ m.floor, f ≤ spec.max
  floor_le : ∀ f ∈ m.floor, f ≤ m.threshold

theorem GovernanceSettings.isBounded_of_spec {g : GovernanceSettings Exact} {gate : Gate}
    {b : Bounds} (h : g.spec gate = b.spec) (m : GovernanceMode) (u : Uncertainty Exact)
    (c : Calibration Exact) (vocabulary : Option Nat) :
    (g.modulate gate m u c vocabulary).IsBounded b.spec := by
  have hmin : .finite b.lo ≤ (g.modulate gate m u c vocabulary).threshold :=
    Exact.le_trans b.lo_le_bounded (le_threshold h).1
  obtain ⟨x, hx, hlo, -⟩ := Exact.exists_finite_of_le_of_le hmin (threshold_le_max h)
  constructor
  case isFinite => rw [hx, Exact.isFinite_finite]
  case pos =>
    rw [hx, Exact.zero_eq, Exact.finite_lt_finite]
    exact b.lo_pos.trans_le hlo
  case min_le => exact hmin
  case le_max => exact threshold_le_max h
  case tightening_isFinite => rw [tightening_modulate, Exact.isFinite_finite]
  case tightening_pos =>
    rw [tightening_modulate, Exact.zero_eq, Exact.finite_lt_finite]
    exact tightness_pos
  case floor_le_max => exact floorFor_le h
  case floor_le => exact (le_threshold h).2

/-! ## All thresholds -/

theorem GovernanceSettings.filter_modulateAll (g : GovernanceSettings Exact) (gate : Gate)
    (m : GovernanceMode) (u : Uncertainty Exact) (c : Calibration Exact)
    (vocabulary : Option Nat) :
    (g.modulateAll m u c vocabulary).filter (·.gate = gate) =
      [g.modulate gate m u c vocabulary] := by
  have hone : Gate.all.filter (· = gate) = [gate] := by
    cases gate <;> rfl
  rw [modulateAll, List.filter_map]
  exact congrArg (List.map fun gate => g.modulate gate m u c vocabulary) hone

/-- Under accepted settings the threshold of a gate is a positive number within the bounds of the
gate, whatever tightens it, however broken that is and whatever the logarithm. It is also the one
entry for the gate among the thresholds of all gates. -/
theorem Settings.isBounded_modulate {s : Settings Exact} (h : s.check = .ok ()) (gate : Gate)
    (m : GovernanceMode) (u : Uncertainty Exact) (c : Calibration Exact)
    (vocabulary : Option Nat) :
    let g := s.governance
    (g.modulate gate m u c vocabulary).IsBounded (g.spec gate) ∧
      (g.modulateAll m u c vocabulary).filter (·.gate = gate) =
        [g.modulate gate m u c vocabulary] := by
  intro g
  obtain ⟨-, -, -, hgovernance, -⟩ := check_eq_ok_iff.1 h
  obtain ⟨b, hb⟩ := GateSpec.exists_bounds ((checkGovernance_eq_ok_iff.1 hgovernance).1 gate)
  refine ⟨?_, g.filter_modulateAll gate m u c vocabulary⟩
  rw [hb]
  exact g.isBounded_of_spec hb m u c vocabulary

end

section

open scoped Exact.Whole

/-- A broken uncertainty, an infinite error and twice the vocabulary leave the default review
threshold within its bounds. -/
theorem Settings.isBounded_broken_review :
    let g : GovernanceSettings Exact := (default : Settings Exact).governance
    let u : Uncertainty Exact := ⟨.undefined, .infinite true, .finite (-1), .finite 7, "broken"⟩
    let m := g.modulate .reviewAutoPass .forbidden u (.ofError (.infinite false) .epoch) (some 64)
    (default : Settings Exact).check = .ok () ∧ m.IsBounded (g.spec .reviewAutoPass) :=
  ⟨check_default, (isBounded_modulate check_default .reviewAutoPass .forbidden _ _ (some 64)).1⟩

end

end Mandate
