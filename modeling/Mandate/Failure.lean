import Mandate.Ontology
import Mandate.Overlay
import Mandate.Settings

/-!
# Failures

Why an engine could not be made from its parts. A failure may be put into contexts, the innermost
first.
-/

namespace Mandate

/-- Why a part is missing or of no use. -/
inductive Failure (F : Type) where
  | ontology (e : Ontology.Error)
  | settings (e : Settings.Error F)
  | overlay (e : Overlay.Error)
  /-- A text is no JSON document of the right shape. -/
  | json
  /-- A text is no TOML document of the right shape. -/
  | toml
  /-- A value has no written form in TOML. -/
  | tomlWriting
  /-- A file could not be read or written. -/
  | file
  | within (context : String) (cause : Failure F)

/-- The wording of a failure. What the reading or writing of a document or file says of its cause is
left out. -/
def Failure.message {F : Type} [Scalar F] : Failure F → String
  | .ontology e => "Ontology error: " ++ e.message
  | .settings e => "Config error: " ++ e.message
  | .overlay e => "Overlay error: " ++ e.message
  | .json => "Serialization error:"
  | .toml => "TOML error:"
  | .tomlWriting => "TOML encoding error:"
  | .file => "IO error:"
  | .within context cause => context ++ ": " ++ cause.message

/-- Puts the failure of a result into a context. -/
def inContext {F α : Type} (context : String) : Except (Failure F) α → Except (Failure F) α
  | .ok a => .ok a
  | .error e => .error (.within context e)

end Mandate
