import Mandate.Datum.Fields
import Mandate.Overlay

/-!
# Overlays as documents

The written forms of overlays, as JSON and TOML documents hold them. Every field but the name has a
default. Metadata may be any tree and is kept in its settled form.
-/

namespace Mandate

variable {F : Type}

def ToolBinding.toDatum (t : ToolBinding) : Datum F :=
  .record [("allow", .ofList .text t.allow), ("block", .ofList .text t.block)]

def ToolBinding.ofDatum? (dialect : Dialect) (d : Datum F) : Option ToolBinding := do
  let f ← d.fields? dialect ["allow", "block"]
  let allow ← f.withDefault "allow" [] (Datum.list? Datum.text?)
  let block ← f.withDefault "block" [] (Datum.list? Datum.text?)
  return { allow, block }

def Override.toDatum (v : Override F) : Datum F :=
  .record <|
    Datum.fieldIf "description" .text v.description
      ++ [("metadata", .ofKeyed id v.metadata), ("tools", v.tools.toDatum),
          ("blocked", .bool v.blocked)]

def Override.ofDatum? [Scalar F] (dialect : Dialect) (d : Datum F) : Option (Override F) := do
  let f ← d.fields? dialect ["description", "metadata", "tools", "blocked"]
  let description ← f.withDefault "description" none (Datum.option? Datum.text?)
  let metadata ← f.withDefault "metadata" ∅ (Datum.keyed? fun d => some d.settle)
  let tools ← f.withDefault "tools" ⟨[], []⟩ (ToolBinding.ofDatum? dialect)
  let blocked ← f.withDefault "blocked" false Datum.bool?
  return { description, metadata, tools, blocked }

def Overlay.toDatum (o : Overlay F) : Datum F :=
  .record [("name", .text o.name), ("symbols", .ofKeyed Override.toDatum o.symbols)]

def Overlay.ofDatum? [Scalar F] (dialect : Dialect) (d : Datum F) : Option (Overlay F) := do
  let f ← d.fields? dialect ["name", "symbols"]
  let name ← f.required "name" Datum.text?
  let symbols ← f.withDefault "symbols" ∅ (Datum.keyed? (Override.ofDatum? dialect))
  return { name, symbols }

end Mandate
