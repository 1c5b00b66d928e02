import Mandate.Frame
import Mandate.Proofs.Scalar.Zero

/-!
# Confidence in a frame

A frame of which all is recognized is read in full confidence, whatever slots it fills and however
many symbols it has: `Frame.confidenceOf_zero`.
-/

namespace Mandate

namespace Binary64

open Float.Model Float.Model.UnpackedFloat

theorem divCore_self {m : Nat} (hm : 0 < m) (e : Int) :
    divCore Format.binary64 m e m e = (2 ^ 53, -53, .exact) := by
  have hexponent : min (e - e) (Format.binary64.targetExponent
      (totalExponent m e - totalExponent m e)) = -53 := by
    rw [Int.sub_self, Int.sub_self]
    rfl
  have hshift : m <<< (e - e - -53).toNat = 2 ^ 53 * m := by
    rw [Int.sub_self, Nat.shiftLeft_eq, Nat.mul_comm]
    rfl
  dsimp only [divCore]
  rw [hexponent, hshift, Nat.mul_div_cancel _ hm, Nat.mul_mod_left]
  rfl

/-- A positive number goes into itself once, but infinity not at all. -/
theorem div_self_of_pos {x : Float} (h : 0.0 < x) :
    x / x = 1.0 ∨ x / x = Scalar.undefined := by
  have hdiv : x / x = .ofModel
      (.pack (UnpackedFloat.div Format.binary64 x.toModel.unpack x.toModel.unpack)) := rfl
  rw [hdiv]
  rcases zero_lt_iff.1 h with hx | ⟨m, e, hm, hx⟩
  · rw [hx]
    exact Or.inr rfl
  · rw [hx, UnpackedFloat.div, divCore_self hm]
    exact Or.inl rfl

theorem share_self {n : Nat} (h : 0 < n) :
    (Scalar.share n n : Float) = 1.0 ∨ (Scalar.share n n : Float) = Scalar.undefined :=
  div_self_of_pos (zero_lt_ofNat h)

end Binary64

theorem Frame.confidenceOf_zero {matched : Nat} (h : 0 < matched) (mode domain action : Bool) :
    (confidenceOf matched 0 [mode, domain, action] : Float) = 1.0 := by
  rw [confidenceOf, Nat.add_zero, Binary64.share_zero h]
  -- A share of more symbols than a number can count is undefined, and gives way to the cap.
  rcases Binary64.share_self h with hall | hall
  · rw [hall]
    revert mode domain action
    decide +kernel
  · rw [hall]
    revert mode domain action
    decide +kernel

end Mandate
