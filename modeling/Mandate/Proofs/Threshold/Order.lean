import Mandate.Proofs.Gate.Ruling
import Mandate.Proofs.Threshold.Bounds

/-!
# Stricter thresholds

The more a threshold is tightened, and the larger the vocabulary, the stricter the threshold gets.
That the vocabulary raises its floor takes a logarithm that is zero at one and never falls.
-/

namespace Mandate

/-- The size of a vocabulary for each action of the reference vocabulary. -/
def GovernanceSettings.sizeRatio (g : GovernanceSettings Exact) (size : Nat) : ℚ :=
  size / (max g.referenceVocabulary 1 : Nat)

theorem GovernanceSettings.sizeRatio_mono {g : GovernanceSettings Exact} {n n' : Nat}
    (h : n ≤ n') : g.sizeRatio n ≤ g.sizeRatio n' := by
  unfold sizeRatio
  gcongr

variable [ExactContext]

theorem Direction.Meets.trans {d : Direction} {x y z : Exact} (h : d.Meets x y)
    (g : d.Meets y z) : d.Meets x z := by
  cases d with
  | lowerIsStricter => exact Exact.le_trans h g
  | higherIsStricter => exact Exact.le_trans g h

theorem Bounds.bounded_meets {b : Bounds} {d : Direction} {t t' : ℚ} (ht : 0 < t) (h : t ≤ t') :
    d.Meets (Exact.finite (b.bounded d t')) (Exact.finite (b.bounded d t)) := by
  have hbase := b.base_pos.le
  cases d with
  | lowerIsStricter =>
      have hmoved : b.base / t' ≤ b.base / t := by gcongr
      exact min_le_min_left b.hi (max_le_max_left b.lo hmoved)
  | higherIsStricter =>
      have hmoved : b.base * t ≤ b.base * t' := by gcongr
      exact min_le_min_left b.hi (max_le_max_left b.lo hmoved)

/-! ## The floor of the vocabulary -/

/-- A floor that rises with a logarithm, up to a cap. -/
def lift (floor slope cap : ℚ) (x : Exact) : Exact :=
  Scalar.least (.finite floor + .finite slope * x) (.finite cap)

theorem lift_finite (floor slope cap x : ℚ) :
    lift floor slope cap (.finite x) = .finite (min (floor + slope * x) cap) :=
  Exact.least_finite _ _

theorem lift_infinite {floor slope cap : ℚ} (h : 0 ≤ slope) :
    lift floor slope cap (.infinite false) = .finite cap := by
  rcases h.eq_or_lt with rfl | hpos
  · rfl
  · have hproduct : Exact.finite slope * .infinite false = .infinite false := by
      refine (if_neg hpos.ne').trans ?_
      rw [decide_eq_false hpos.not_gt]
      rfl
    rw [lift, hproduct]
    rfl

theorem lift_mono {floor slope cap : ℚ} (h : 0 ≤ slope) {x y : Exact} (hx : .finite 0 ≤ x)
    (hxy : x ≤ y) : lift floor slope cap x ≤ lift floor slope cap y := by
  cases y with
  | finite q =>
      obtain ⟨p, rfl, -, hpq⟩ := Exact.exists_finite_of_le_of_le hx hxy
      rw [lift_finite, lift_finite, Exact.finite_le_finite]
      gcongr
  | infinite negative =>
      cases negative with
      | true => cases Exact.finite_le_infinite.1 (Exact.le_trans hx hxy)
      | false =>
          rw [lift_infinite h]
          exact Exact.least_le_right Exact.isNaN_finite
  | undefined => cases Exact.not_le_undefined hxy

namespace GovernanceSettings

variable {g : GovernanceSettings Exact}

theorem exists_vocabularyFloorOf_eq (h : Settings.checkGovernance g = .ok ()) :
    ∃ floor slope cap : ℚ, 0 ≤ slope ∧ floor ≤ cap ∧ ∀ size,
      g.vocabularyFloorOf size =
        if g.sizeRatio size ≤ 1 then .finite floor
        else lift floor slope cap (Scalar.log2 (.finite (g.sizeRatio size))) := by
  obtain ⟨-, -, ⟨hfloor, -⟩, ⟨hcap, -⟩, hle, hslope, hpos, -⟩ :=
    Settings.checkGovernance_eq_ok_iff.1 h
  obtain ⟨floor, hfloor⟩ := Exact.isFinite_iff.1 hfloor
  obtain ⟨slope, hslope⟩ := Exact.isFinite_iff.1 hslope
  obtain ⟨cap, hcap⟩ := Exact.isFinite_iff.1 hcap
  rw [hcap, hfloor, Exact.finite_lt_finite] at hle
  rw [hslope, Exact.zero_eq, Exact.finite_le_finite] at hpos
  refine ⟨floor, slope, cap, hpos, not_lt.1 hle, fun size => ?_⟩
  have hratio : (Scalar.ofNat size / Scalar.ofNat (max g.referenceVocabulary 1) : Exact) =
      .finite (g.sizeRatio size) := by
    rw [Exact.ofNat_eq, Exact.ofNat_eq]
    exact Exact.finite_div_finite (Nat.cast_ne_zero.2 (by omega))
  simp only [vocabularyFloorOf, hratio, hfloor, hslope, hcap, Exact.one_eq,
    Exact.finite_le_finite, lift]

theorem vocabularyFloorOf_mono [Exact.LawfulLog2] (h : Settings.checkGovernance g = .ok ())
    {n n' : Nat} (hn : n ≤ n') : g.vocabularyFloorOf n ≤ g.vocabularyFloorOf n' := by
  obtain ⟨floor, slope, cap, hslope, hcap, hfloor⟩ := exists_vocabularyFloorOf_eq h
  have hlevel : lift floor slope cap (.finite 0) = .finite floor := by
    rw [lift_finite, mul_zero, add_zero, min_eq_left hcap]
  have hratio : g.sizeRatio n ≤ g.sizeRatio n' := sizeRatio_mono hn
  rw [hfloor n, hfloor n']
  by_cases hsmall' : g.sizeRatio n' ≤ 1
  · rw [if_pos hsmall', if_pos (hratio.trans hsmall')]
    exact Exact.le_refl Exact.isNaN_finite
  · rw [if_neg hsmall']
    by_cases hsmall : g.sizeRatio n ≤ 1
    · rw [if_pos hsmall, ← hlevel]
      exact lift_mono hslope (Exact.le_refl Exact.isNaN_finite)
        (Exact.log2_nonneg (not_le.1 hsmall').le)
    · rw [if_neg hsmall]
      have hbig : 1 ≤ g.sizeRatio n := (not_le.1 hsmall).le
      exact lift_mono hslope (Exact.log2_nonneg hbig)
        (Exact.LawfulLog2.log2_mono (one_pos.trans_le hbig) hratio)

theorem floorFor_mono [Exact.LawfulLog2] {gate : Gate} {b : Bounds}
    (h : Settings.checkGovernance g = .ok ()) (hb : g.spec gate = b.spec)
    {vocabulary vocabulary' : Option Nat}
    (hv : ∀ n ∈ vocabulary, ∃ n' ∈ vocabulary', n ≤ n') :
    ∀ f ∈ g.floorFor gate vocabulary, ∃ f' ∈ g.floorFor gate vocabulary', f ≤ f' := by
  intro f hf
  by_cases hgate : gate = .reviewAutoPass
  · rw [floorFor, if_pos hgate] at hf ⊢
    obtain ⟨n, hn, rfl⟩ := Option.mem_map.1 hf
    obtain ⟨n', hn', hle⟩ := hv n hn
    refine ⟨_, Option.mem_map_of_mem _ hn', ?_⟩
    rw [hb]
    exact Exact.least_mono (vocabularyFloorOf_mono h hle) Exact.isNaN_finite
  · rw [floorFor, if_neg hgate] at hf
    cases hf

/-! ## The threshold -/

variable {gate : Gate} {m m' : GovernanceMode} {u u' : Uncertainty Exact}
  {c c' : Calibration Exact} {vocabulary vocabulary' : Option Nat}

-- Where lower is stricter, nothing has a floor that could raise the tightened threshold again.
theorem floorFor_of_lowerIsStricter (h : gate.direction = .lowerIsStricter) :
    g.floorFor gate vocabulary = none := by
  refine if_neg ?_
  rintro rfl
  cases h

theorem threshold_meets_of_floor (h : Settings.checkGovernance g = .ok ())
    (ht : tightness m u c ≤ tightness m' u' c')
    (hfloor : ∀ f ∈ g.floorFor gate vocabulary, ∃ f' ∈ g.floorFor gate vocabulary', f ≤ f') :
    gate.direction.Meets (g.modulate gate m' u' c' vocabulary').threshold
      (g.modulate gate m u c vocabulary).threshold := by
  obtain ⟨b, hb⟩ := GateSpec.exists_bounds ((Settings.checkGovernance_eq_ok_iff.1 h).1 gate)
  have hmeets := b.bounded_meets (d := gate.direction) tightness_pos ht
  cases hd : gate.direction with
  | lowerIsStricter =>
      rw [threshold_modulate hb, threshold_modulate hb, floorFor_of_lowerIsStricter hd,
        floorFor_of_lowerIsStricter hd]
      rw [hd] at hmeets ⊢
      exact hmeets
  | higherIsStricter =>
      rw [hd] at hmeets
      refine (threshold_le_iff hb).2 ⟨?_, fun f hf => ?_⟩
      · refine Exact.le_trans ?_ (le_threshold hb).1
        rw [hd]
        exact hmeets
      · obtain ⟨f', hf', hle⟩ := hfloor f hf
        exact Exact.le_trans hle ((le_threshold hb).2 f' hf')

theorem threshold_meets [Exact.LawfulLog2] (h : Settings.checkGovernance g = .ok ())
    (ht : tightness m u c ≤ tightness m' u' c')
    (hv : ∀ n ∈ vocabulary, ∃ n' ∈ vocabulary', n ≤ n') :
    gate.direction.Meets (g.modulate gate m' u' c' vocabulary').threshold
      (g.modulate gate m u c vocabulary).threshold := by
  obtain ⟨b, hb⟩ := GateSpec.exists_bounds ((Settings.checkGovernance_eq_ok_iff.1 h).1 gate)
  exact threshold_meets_of_floor h ht (floorFor_mono h hb hv)

-- The floor of one vocabulary stays what it is, whatever the logarithm.
theorem threshold_meets_of_tightness_le (h : Settings.checkGovernance g = .ok ())
    (ht : tightness m u c ≤ tightness m' u' c') :
    gate.direction.Meets (g.modulate gate m' u' c' vocabulary).threshold
      (g.modulate gate m u c vocabulary).threshold := by
  obtain ⟨b, hb⟩ := GateSpec.exists_bounds ((Settings.checkGovernance_eq_ok_iff.1 h).1 gate)
  exact threshold_meets_of_floor h ht fun f hf => ⟨f, hf, Exact.le_refl (isNaN_floorFor hb f hf)⟩

end GovernanceSettings
end Mandate
