import Mandate.Calibration
import Mandate.Settings
import Mandate.Uncertainty

/-!
# Threshold modulation

The threshold of a gate moves with the mode of governance, the uncertainty at hand and the
calibration of the agent. Each contributes a factor; a product above one makes every gate stricter,
whichever side of its threshold is the strict one.
-/

namespace Mandate

variable {F : Type} [Scalar F]

/-! ## Factors -/

/-- The factor of an uncertainty without an epistemic share. -/
def uncertaintyRelaxed : F := 0.85

/-- How much the epistemic share tightens when the total is zero. -/
def epistemicSlope : F := 0.25

/-- How much more it tightens for each unit of the total. -/
def epistemicTotalSlope : F := 0.35

/-- The factor of a perfect calibration. -/
def calibrationRelaxed : F := 0.98

/-- How much the factor rises from no calibration error to the greatest. -/
def calibrationSpan : F := 0.40

/-- A number of the unit interval; one that is not finite counts as the greatest. -/
def unitOrGreatest (x : F) : F :=
  if Scalar.isFinite x then Scalar.clamp x 0.0 1.0 else 1.0

def GovernanceMode.factor : GovernanceMode → F
  | .flexible => 1.0
  | .standard => 1.1
  | .strict => 1.2
  | .forbidden => 1.3

/-- Whether every measured part is finite. -/
def Uncertainty.isFinite (u : Uncertainty F) : Bool :=
  Scalar.isFinite u.total && Scalar.isFinite u.epistemic && Scalar.isFinite u.aleatoric

/-- The factor of an uncertainty. Only its epistemic share tightens, and it tightens more the
greater the total; an uncertainty that is not finite tightens most. -/
def Uncertainty.factor (u : Uncertainty F) : F :=
  let (total, ratio) : F × F :=
    if !u.isFinite then (1.0, 1.0)
    else if u.total ≤ 0.0 then (0.0, 0.0)
    else (unitOrGreatest u.total, unitOrGreatest u.ratio)
  uncertaintyRelaxed + ratio * (epistemicSlope + epistemicTotalSlope * total)

def Calibration.factor (c : Calibration F) : F :=
  calibrationRelaxed + calibrationSpan * unitOrGreatest c.ece

/-! ## Thresholds -/

/-- How the threshold of a gate came about. -/
structure Modulation (F : Type) where
  gate : Gate
  direction : Direction
  base : F
  modeFactor : F
  uncertaintyFactor : F
  calibrationFactor : F
  /-- The product of the three factors. -/
  tightening : F
  threshold : F
  min : F
  max : F
  /-- The floor that the vocabulary sets. -/
  floor : Option F
  mode : GovernanceMode
  uncertainty : F
  autonomy : Autonomy

/-- Whether an observed value is on the wrong side of the threshold; an undefined one is. -/
def Modulation.isViolatedBy (m : Modulation F) (observed : F) : Bool :=
  match m.direction with
  | .lowerIsStricter => !decide (observed ≤ m.threshold)
  | .higherIsStricter => !decide (m.threshold ≤ observed)

namespace GovernanceSettings

/-- The least review threshold for a size of the action vocabulary: level up to the reference size,
then rising with each doubling, up to a cap. -/
def vocabularyFloorOf (g : GovernanceSettings F) (size : Nat) : F :=
  let ratio : F := Scalar.ofNat size / Scalar.ofNat (max g.referenceVocabulary 1)
  if ratio ≤ 1.0 then g.vocabularyFloor
  else Scalar.least (g.vocabularyFloor + g.floorSlope * Scalar.log2 ratio) g.floorCap

/-- The floor for the gate, which only the review gate has, and only for a known vocabulary. -/
def floorFor (g : GovernanceSettings F) (gate : Gate) (vocabulary : Option Nat) : Option F :=
  if gate = .reviewAutoPass then
    vocabulary.map fun size => Scalar.least (g.vocabularyFloorOf size) (g.spec gate).max
  else none

def modulate (g : GovernanceSettings F) (gate : Gate) (mode : GovernanceMode) (u : Uncertainty F)
    (c : Calibration F) (vocabulary : Option Nat) : Modulation F :=
  let spec := g.spec gate
  let tightening : F := mode.factor * u.factor * c.factor
  let moved := match gate.direction with
    | .lowerIsStricter => spec.base / tightening
    | .higherIsStricter => spec.base * tightening
  let bounded := Scalar.clamp moved spec.min spec.max
  let floor := g.floorFor gate vocabulary
  { gate
    direction := gate.direction
    base := spec.base
    modeFactor := mode.factor
    uncertaintyFactor := u.factor
    calibrationFactor := c.factor
    tightening
    threshold := (floor.map (Scalar.greatest bounded)).getD bounded
    min := spec.min
    max := spec.max
    floor
    mode
    uncertainty := u.total
    autonomy := .ofTightening tightening }

def modulateAll (g : GovernanceSettings F) (mode : GovernanceMode) (u : Uncertainty F)
    (c : Calibration F) (vocabulary : Option Nat) : List (Modulation F) :=
  Gate.all.map fun gate => g.modulate gate mode u c vocabulary

end GovernanceSettings
end Mandate
