import Mandate.Binary64

/-!
# Comparing scalars

A comparison fails for one of two reasons only: the other number is smaller, or one of the two is
not a number. Binary floating point keeps this law.
-/

namespace Mandate

/-- Two numbers are in one order or the other, and nothing compares with what is not a number. -/
class Scalar.LawfulComparison (F : Type) [Scalar F] : Prop where
  not_le_iff (a b : F) : ¬ a ≤ b ↔ isNaN a = true ∨ isNaN b = true ∨ b < a

theorem Scalar.isNaN_eq_false_of_le {F : Type} [Scalar F] [LawfulComparison F] {a b : F}
    (h : a ≤ b) : isNaN a = false ∧ isNaN b = false := by
  have hnot := mt (LawfulComparison.not_le_iff a b).2 (not_not_intro h)
  rw [not_or, not_or] at hnot
  exact ⟨Bool.eq_false_iff.2 hnot.1, Bool.eq_false_iff.2 hnot.2.1⟩

theorem Scalar.lt_of_not_le {F : Type} [Scalar F] [LawfulComparison F] {a b : F}
    (ha : isNaN a = false) (hb : isNaN b = false) (h : ¬ a ≤ b) : b < a := by
  rw [LawfulComparison.not_le_iff, ha, hb] at h
  simpa using h

namespace Binary64

open Float.Model (UnpackedFloat)

/-! ## The order of unpacked numbers -/

theorem swap_compare (a b : UnpackedFloat) :
    (a.compare b).map Ordering.swap = b.compare a := by
  rcases a with (_ | _) | _ | (_ | _) | ⟨_ | _, m, e, _⟩ <;>
    rcases b with (_ | _) | _ | (_ | _) | ⟨_ | _, n, d, _⟩ <;> try rfl
  -- Two finite numbers of one sign are ordered by their exponents, then by their mantissas.
  all_goals
    dsimp only [UnpackedFloat.compare]
    simp only [Option.map_some, Ordering.swap_then, ← Std.OrientedOrd.eq_swap]

theorem compare_eq_none_iff (a b : UnpackedFloat) :
    a.compare b = none ↔ a.isNaN = true ∨ b.isNaN = true := by
  -- The comparison of two constructors computes: the first is undefined, the second, or neither.
  rcases a with (_ | _) | _ | (_ | _) | ⟨_ | _, m, e, _⟩ <;>
    rcases b with (_ | _) | _ | (_ | _) | ⟨_ | _, n, d, _⟩ <;>
    first
    | exact iff_of_true rfl (Or.inl rfl)
    | exact iff_of_true rfl (Or.inr rfl)
    | exact iff_of_false nofun (by rintro (h | h) <;> cases h)

/-! ## The order of binary numbers -/

theorem le_iff_compare (a b : Float) :
    a ≤ b ↔ (a.toModel.unpack.compare b.toModel.unpack).any (·.isLE) = true :=
  decide_eq_true_iff

theorem lt_iff_compare (a b : Float) :
    a < b ↔ a.toModel.unpack.compare b.toModel.unpack = some .lt :=
  decide_eq_true_iff.trans beq_iff_eq

instance : Scalar.LawfulComparison Float where
  not_le_iff a b := by
    have hnan : (Scalar.isNaN a = true ∨ Scalar.isNaN b = true) ↔
        a.toModel.unpack.compare b.toModel.unpack = none :=
      (compare_eq_none_iff _ _).symm
    rw [← or_assoc, hnan, le_iff_compare, lt_iff_compare,
      ← swap_compare a.toModel.unpack b.toModel.unpack]
    cases a.toModel.unpack.compare b.toModel.unpack with
    | none => simp
    | some o => cases o <;> simp

end Binary64
end Mandate
