import Mandate.Scalar

/-!
# Gates

The named gates that an operation passes, the side of a threshold on which each of them is strict,
and the modes of governance.
-/

namespace Mandate

/-- Which side of a threshold is the strict side. -/
inductive Direction where
  /-- Values stay at or below the threshold; tightening lowers it. -/
  | lowerIsStricter
  /-- Values reach the threshold; tightening raises it. -/
  | higherIsStricter
deriving DecidableEq

inductive Gate where
  | driftThreshold
  | conformanceDeviation
  | sayDoGap
  | reviewAutoPass
  | knowledgePromotion
  | threatActivation
deriving DecidableEq

/-- How strictly an agent is governed, from the least strict mode to the strictest. -/
inductive GovernanceMode where
  | flexible
  | standard
  | strict
  | forbidden
deriving DecidableEq

/-- How much latitude an agent is left. -/
inductive Autonomy where
  | supervised
  | guided
  | autonomous
deriving DecidableEq

def Direction.name : Direction → String
  | .lowerIsStricter => "lower_is_stricter"
  | .higherIsStricter => "higher_is_stricter"

/-- How a message shows a direction. -/
def Direction.label : Direction → String
  | .lowerIsStricter => "LowerIsStricter"
  | .higherIsStricter => "HigherIsStricter"

namespace Gate

def all : List Gate :=
  [.driftThreshold, .conformanceDeviation, .sayDoGap, .reviewAutoPass, .knowledgePromotion,
    .threatActivation]

def name : Gate → String
  | .driftThreshold => "drift_threshold"
  | .conformanceDeviation => "conformance_deviation"
  | .sayDoGap => "say_do_gap"
  | .reviewAutoPass => "review_auto_pass"
  | .knowledgePromotion => "knowledge_promotion"
  | .threatActivation => "threat_activation"

def named? (name : String) : Option Gate :=
  all.find? fun g => g.name = name

/-- The strict side of a gate's threshold. -/
def direction : Gate → Direction
  | .driftThreshold | .conformanceDeviation | .sayDoGap => .lowerIsStricter
  | .reviewAutoPass | .knowledgePromotion | .threatActivation => .higherIsStricter

theorem named?_name (g : Gate) : named? g.name = some g := by
  cases g <;> decide

end Gate

namespace GovernanceMode

/-- The modes, the least strict first. -/
def all : List GovernanceMode :=
  [.flexible, .standard, .strict, .forbidden]

def name : GovernanceMode → String
  | .flexible => "flexible"
  | .standard => "standard"
  | .strict => "strict"
  | .forbidden => "forbidden"

/-- The place of a mode among the others, the least strict first. -/
def rank : GovernanceMode → Nat
  | .flexible => 0
  | .standard => 1
  | .strict => 2
  | .forbidden => 3

/-- The mode that the name of a frame's mode implies; any unknown name governs as standard. -/
def ofFrameMode (name : String) : GovernanceMode :=
  if name = "strict" then .strict
  else if name = "flexible" then .flexible
  else if name = "forbidden" then .forbidden
  else .standard

/-- Reads a mode in either letter case; neutral is another word for standard. -/
def read? (text : String) : Option GovernanceMode :=
  let word := String.ofList (text.toList.map Char.toLower)
  if word = "neutral" then some .standard else all.find? fun m => m.name = word

end GovernanceMode

def Autonomy.name : Autonomy → String
  | .supervised => "supervised"
  | .guided => "guided"
  | .autonomous => "autonomous"

/-- The latitude that a combined tightening factor leaves. -/
def Autonomy.ofTightening {F : Type} [Scalar F] (t : F) : Autonomy :=
  if 1.2 ≤ t then .supervised else if 0.95 < t then .guided else .autonomous

end Mandate
