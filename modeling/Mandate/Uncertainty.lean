import Mandate.Scalar

/-!
# Uncertainty

Uncertainty about an outcome, split into a part that more evidence would reduce and the noise of the
task itself.
-/

namespace Mandate

/-- Total uncertainty and its parts. -/
structure Uncertainty (F : Type) where
  total : F
  /-- What more evidence would reduce. -/
  epistemic : F
  /-- The noise of the task. -/
  aleatoric : F
  /-- The epistemic share of the total. -/
  ratio : F
  method : String
deriving DecidableEq

namespace Uncertainty

variable {F : Type} [Scalar F]

/-- The parts with a total that was measured on its own. The share is undefined when any number is
not finite, and zero when there is no uncertainty. -/
def ofParts (total epistemic aleatoric : F) (method : String) : Uncertainty F :=
  let finite := Scalar.isFinite total && Scalar.isFinite epistemic && Scalar.isFinite aleatoric
  let ratio :=
    if !finite then Scalar.undefined
    else if 0.0 < total then Scalar.clamp (epistemic / total) 0.0 1.0
    else 0.0
  ⟨total, epistemic, aleatoric, ratio, method⟩

/-- The parts with their sum as the total. -/
def ofComponents (epistemic aleatoric : F) (method : String) : Uncertainty F :=
  ofParts (epistemic + aleatoric) epistemic aleatoric method

def zero : Uncertainty F :=
  ofComponents 0.0 0.0 "none"

def mean (xs : List F) : F :=
  Scalar.sum xs / Scalar.ofNat xs.length

/-- The uncertainty among ensemble members that each give the probability of one outcome: the
variance between the members is epistemic, the mean variance within them aleatoric. Both are scaled
so that the total lies in the unit interval. -/
def ofEnsemble (members : List F) : Uncertainty F :=
  if members.isEmpty then ofComponents 0.0 0.0 "ensemble_variance"
  else
    let probabilities := members.map fun p => Scalar.clamp p 0.0 1.0
    let m := mean probabilities
    let epistemic := mean (probabilities.map fun p => Scalar.square (p - m))
    let aleatoric := mean (probabilities.map fun p => p * (1.0 - p))
    ofParts (4.0 * m * (1.0 - m)) (4.0 * epistemic) (4.0 * aleatoric) "ensemble_variance"

/-- Whether the parts add up to the total within a tolerance. -/
def isConsistent (u : Uncertainty F) (tolerance : F) : Bool :=
  Scalar.magnitude (u.epistemic + u.aleatoric - u.total) ≤ tolerance

end Uncertainty
end Mandate
