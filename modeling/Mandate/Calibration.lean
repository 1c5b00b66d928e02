import Mandate.Scalar
import Mandate.Instant

/-!
# Calibration

How well the confidence of an agent's predictions agrees with how often they came true.
-/

namespace Mandate

/-- The predictions whose confidence lies in one of several intervals of equal width. -/
structure Bucket (F : Type) where
  lower : F
  upper : F
  count : Nat
  meanConfidence : F
  accuracy : F
deriving DecidableEq

/-- The calibration of an agent over a window of predictions. -/
structure Calibration (F : Type) where
  /-- Expected calibration error. -/
  ece : F
  /-- Maximum calibration error. -/
  mce : F
  brier : F
  windowSize : Nat
  windowStart : Instant
  windowEnd : Instant
  buckets : List (Bucket F)
deriving DecidableEq

/-- A confidence and whether the prediction came true. -/
structure Prediction (F : Type) where
  confidence : F
  correct : Bool

/-- What a bucket has gathered. -/
structure Tally (F : Type) where
  count : Nat
  confidence : F
  correct : Nat

namespace Calibration

variable {F : Type} [Scalar F]

/-- A calibration of which only the expected error is known; the maximum is taken to be the same. -/
def ofError (ece : F) (now : Instant) : Calibration F :=
  ⟨ece, ece, 0.0, 0, now, now, []⟩

/-- The confidence in the unit interval; one that is not finite counts as none. -/
def settled (confidence : F) : F :=
  if Scalar.isFinite confidence then Scalar.clamp confidence 0.0 1.0 else 0.0

/-- The bucket that a settled confidence belongs to. -/
def bucketIndex (count : Nat) (width c : F) : Nat :=
  min (Scalar.toCount (c / width)) (count - 1)

/-- A tally with one more prediction. -/
def Tally.add (t : Tally F) (c : F) (correct : Bool) : Tally F :=
  ⟨t.count + 1, t.confidence + c, t.correct + if correct then 1 else 0⟩

/-- The tallies of all buckets with one more prediction. -/
def tally (count : Nat) (width : F) (tallies : List (Tally F)) (p : Prediction F) :
    List (Tally F) :=
  let c := settled p.confidence
  tallies.modify (bucketIndex count width c) fun t => Tally.add t c p.correct

def bucket (width : F) (index : Nat) (t : Tally F) : Bucket F :=
  { lower := Scalar.ofNat index * width
    upper := Scalar.ofNat (index + 1) * width
    count := t.count
    meanConfidence := if t.count = 0 then 0.0 else t.confidence / Scalar.ofNat t.count
    accuracy := if t.count = 0 then 0.0 else Scalar.share t.correct t.count }

/-- How far a bucket's accuracy is from its mean confidence. -/
def gap (b : Bucket F) : F :=
  Scalar.magnitude (b.accuracy - b.meanConfidence)

/-- Adds a bucket's part of the expected error: its gap, weighted by its share of the window. -/
def addError (n : Nat) (ece : F) (b : Bucket F) : F :=
  if b.count = 0 then ece else ece + gap b * Scalar.ofNat b.count / Scalar.ofNat n

/-- The larger of an error and a bucket's gap. -/
def raiseError (mce : F) (b : Bucket F) : F :=
  if b.count = 0 then mce else Scalar.greatest mce (gap b)

/-- Adds the squared distance of a confidence from what came true. -/
def addBrier (brier : F) (p : Prediction F) : F :=
  brier + Scalar.square (settled p.confidence - Scalar.indicator p.correct)

/-- The calibration of a window of predictions, in buckets of equal width, of which there is at
least one. -/
def ofPredictions (predictions : List (Prediction F)) (bucketCount : Nat)
    (windowStart windowEnd : Instant) : Calibration F :=
  let count := max bucketCount 1
  let n := predictions.length
  let width : F := 1.0 / Scalar.ofNat count
  let tallies := predictions.foldl (tally count width) (List.replicate count ⟨0, 0.0, 0⟩)
  let buckets := tallies.zipIdx.map fun t => bucket width t.2 t.1
  { ece := buckets.foldl (addError n) 0.0
    mce := buckets.foldl raiseError 0.0
    brier := if n = 0 then 0.0 else predictions.foldl addBrier 0.0 / Scalar.ofNat n
    windowSize := n
    windowStart
    windowEnd
    buckets }

end Calibration
end Mandate
