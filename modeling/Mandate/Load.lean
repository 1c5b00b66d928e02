import Mandate.Document.Overlay
import Mandate.Document.Settings
import Mandate.Document.Symbol
import Mandate.Failure
import Mandate.Json.Reader
import Mandate.Toml.Printer

/-!
# Loading

Reads settings, ontologies and overlays from the texts of documents and from files, and writes
settings and ontologies as documents.
-/

namespace Mandate

variable {F : Type} [Scalar F]

/-- What is to be had of the files: the text behind a path, if it can be read. -/
abbrev Files := String → Option String

/-- The value that was read, or the failure. -/
def orFail {α : Type} (e : Failure F) : Option α → Except (Failure F) α
  | some a => .ok a
  | none => .error e

/-- Reads a file, and makes something of its text. -/
def loadFile {α : Type} (files : Files) (kind path : String)
    (read : String → Except (Failure F) α) : Except (Failure F) α := do
  let text ← inContext ("Failed to read " ++ kind ++ " " ++ path) (orFail .file (files path))
  inContext ("Invalid " ++ kind ++ " " ++ path) (read text)

/-! ## Settings -/

namespace Settings

/-- Refuses settings that cannot be used. -/
def checked (s : Settings F) : Except (Failure F) (Settings F) :=
  match s.check with
  | .ok () => .ok s
  | .error e => .error (.settings e)

/-- Reads settings from TOML and checks them. -/
def ofToml (text : String) : Except (Failure F) (Settings F) :=
  orFail .toml (Toml.read? text >>= Settings.ofDatum? .toml) >>= checked

def load (files : Files) (path : String) : Except (Failure F) (Settings F) :=
  loadFile files "config" path ofToml

def toToml (s : Settings F) : Except (Failure F) String :=
  orFail .tomlWriting (Toml.write? s.toDatum)

end Settings

/-! ## Ontologies -/

namespace Ontology

def made (symbols : List Symbol) : Except (Failure F) Ontology :=
  match ofSymbols symbols with
  | .ok o => .ok o
  | .error e => .error (.ontology e)

def symbolsOf? (d : Datum F) : Option (List Symbol) := do
  let f ← d.fields? .toml ["symbols"]
  f.required "symbols" (Datum.list? (Symbol.ofDatum? .toml))

def ofToml (text : String) : Except (Failure F) Ontology :=
  orFail .toml (Toml.read? (F := F) text >>= symbolsOf?) >>= made

def load (files : Files) (path : String) : Except (Failure F) Ontology :=
  loadFile files "ontology" path ofToml

def toToml (o : Ontology) : Except (Failure F) String :=
  orFail .tomlWriting
    (Toml.write? (F := F) (.record [("symbols", .ofList Symbol.toDatum o.symbols)]))

end Ontology

/-! ## Overlays -/

namespace Overlay

/-- How deep a metadata value of a JSON document may nest. -/
def metadataDepth : Nat :=
  123

/-- The metadata values in the document of an override. -/
def metadataIn (d : Datum F) : List (Datum F) :=
  match d.fields? .json ["description", "metadata", "tools", "blocked"] with
  | some f =>
    match f.entries.lookup "metadata" with
    | some (.record fs) => fs.map (·.2)
    | _ => []
  | none => []

/-- The metadata values in the document of an overlay. -/
def allMetadataIn (d : Datum F) : List (Datum F) :=
  match d.fields? .json ["name", "symbols"] with
  | some f =>
    match f.entries.lookup "symbols" with
    | some (.record fs) => fs.flatMap fun f => metadataIn f.2
    | _ => []
  | none => []

def ofJson (text : String) : Except (Failure F) (Overlay F) :=
  orFail .json do
    let d ← Json.read? text
    if (allMetadataIn d).all fun m => m.depth ≤ metadataDepth then Overlay.ofDatum? .json d
    else none

def ofToml (text : String) : Except (Failure F) (Overlay F) :=
  orFail .toml (Toml.read? text >>= Overlay.ofDatum? .toml)

/-- Whether the name of a file ends in a point and `json`, with something before the point. -/
def isJsonPath (path : String) : Bool :=
  let name := (path.toList.reverse.takeWhile (· ≠ '/')).reverse
  ".json".toList.isSuffixOf name && name.length > ".json".length

def load (files : Files) (path : String) : Except (Failure F) (Overlay F) :=
  loadFile files "overlay" path (if isJsonPath path then ofJson else ofToml)

end Overlay
end Mandate
