import Mandate.Document.Symbol
import Mandate.Resolution

/-!
# Frames as documents

The written forms of frame identities, frames and resolved frames. Frames can be read as well.
-/

namespace Mandate

variable {F : Type}

def Identity.toDatum (i : Identity) : Datum F :=
  .text i.toHex

def Identity.ofDatum? (d : Datum F) : Option Identity :=
  d.text? >>= fun s => (Identity.ofHex s).toOption

variable [Scalar F]

def Frame.toDatum (f : Frame F) : Datum F :=
  .record
    [("raw", .text f.raw),
      ("symbols", .ofList Symbol.toDatum f.symbols),
      ("mode", .ofOption Symbol.toDatum f.mode),
      ("domain", .ofOption Symbol.toDatum f.domain),
      ("constraints", .ofList Symbol.toDatum f.constraints),
      ("action", .ofOption Symbol.toDatum f.action),
      ("modifiers", .ofList Symbol.toDatum f.modifiers),
      ("source", .ofOption Symbol.toDatum f.source),
      ("entity", .ofOption Symbol.toDatum f.entity),
      ("unrecognized", .ofList .text f.unrecognized),
      ("total_tokens", .ofNat f.totalTokens),
      ("confidence", .ofScalar f.confidence),
      ("identity", f.identity.toDatum)]

def Frame.fieldNames : List String :=
  ["raw", "symbols", "mode", "domain", "constraints", "action", "modifiers", "source", "entity",
    "unrecognized", "total_tokens", "confidence", "identity"]

def Frame.ofDatum? (d : Datum F) : Option (Frame F) := do
  let f ← d.fields? .json Frame.fieldNames
  let symbol := Symbol.ofDatum? (F := F) .json
  let raw ← f.required "raw" Datum.text?
  let symbols ← f.required "symbols" (Datum.list? symbol)
  let mode ← f.optional "mode" symbol
  let domain ← f.optional "domain" symbol
  let constraints ← f.required "constraints" (Datum.list? symbol)
  let action ← f.optional "action" symbol
  let modifiers ← f.required "modifiers" (Datum.list? symbol)
  let source ← f.optional "source" symbol
  let entity ← f.optional "entity" symbol
  let unrecognized ← f.required "unrecognized" (Datum.list? Datum.text?)
  let totalTokens ← f.required "total_tokens" (Datum.count? UInt64.size)
  let confidence ← f.required "confidence" Datum.scalar?
  let identity ← f.required "identity" Identity.ofDatum?
  return { raw, symbols, mode, domain, constraints, action, modifiers, source, entity, unrecognized,
           totalTokens, confidence, identity }

def EffectiveSymbol.toDatum (s : EffectiveSymbol F) : Datum F :=
  .record
    [("symbol", s.symbol.toDatum),
      ("description", .text s.description),
      ("metadata", .ofKeyed id s.metadata),
      ("overridden", .bool s.overridden),
      ("defaulted", .bool s.defaulted)]

def Resolution.toDatum (r : Resolution F) : Datum F :=
  .record
    [("frame", r.frame.toDatum),
      ("mode", r.mode.toDatum),
      ("domain", r.domain.toDatum),
      ("constraints", .ofList EffectiveSymbol.toDatum r.constraints),
      ("action", r.action.toDatum),
      ("blocked_symbols", .ofList .text r.blockedSymbols),
      ("allowed_tools", .ofList .text r.allowedTools),
      ("blocked_tools", .ofList .text r.blockedTools),
      ("overlay", .ofOption .text r.overlay)]

end Mandate
