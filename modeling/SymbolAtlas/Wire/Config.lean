import SymbolAtlas.Config
import SymbolAtlas.Json.Decode
import SymbolAtlas.Toml.Reader

/-!
# Configuration files

A configuration is JSON text or, where it is not that, TOML. Unknown fields are refused.
-/

namespace SymbolAtlas

open Json

namespace ScopeRelations

def toJson (r : ScopeRelations) : Json :=
  .obj [("calls", .bool r.calls), ("lexical_parent", .bool r.lexicalParent),
    ("namespace_parent", .bool r.namespaceParent), ("inheritance", .bool r.inheritance),
    ("overrides", .bool r.overrides), ("children", .bool r.children)]

def decode : Decoder ScopeRelations :=
  asRecord ⟨"ScopeRelations",
    ["calls", "lexical_parent", "namespace_parent", "inheritance", "overrides", "children"], true⟩
    fun r =>
      ScopeRelations.mk <$> r.withDefault "calls" asBool true
        <*> r.withDefault "lexical_parent" asBool true
        <*> r.withDefault "namespace_parent" asBool true
        <*> r.withDefault "inheritance" asBool true <*> r.withDefault "overrides" asBool true
        <*> r.withDefault "children" asBool true

end ScopeRelations

namespace Config

def toJson (c : Config) : Json :=
  .obj [("project_root", orNull .str c.projectRoot),
    ("drop_unlocated_symbols", .bool c.dropUnlocated),
    ("synthesize_unmatched_spans", .bool c.synthesizeUnmatched),
    ("emit_reverse_call_index", .bool c.reverseCalls),
    ("require_seeds_present", .bool c.requireSeeds), ("relations", c.relations.toJson)]

def decode : Decoder Config :=
  asRecord ⟨"EngineConfig",
    ["project_root", "drop_unlocated_symbols", "synthesize_unmatched_spans",
     "emit_reverse_call_index", "require_seeds_present", "relations"], true⟩ fun r =>
    Config.mk <$> r.optional "project_root" asText
      <*> r.withDefault "drop_unlocated_symbols" asBool true
      <*> r.withDefault "synthesize_unmatched_spans" asBool true
      <*> r.withDefault "emit_reverse_call_index" asBool false
      <*> r.withDefault "require_seeds_present" asBool false
      <*> r.withDefault "relations" ScopeRelations.decode {}

/-- The value of a configuration text. -/
def readValue (s : String) : Except ConfigError Json :=
  match parse? s with
  | some j => .ok j
  | none =>
    match Toml.parse? s with
    | some t => .ok t.toJson
    | none => .error .unreadable

/-- The valid configuration that bytes hold. -/
def parse (bytes : List UInt8) : Except ConfigError Config := do
  let some s := Text.ofUtf8? bytes | .error .unreadable
  match decode (← readValue s) with
  | .error e => .error (.undecodable e.message)
  | .ok c =>
    c.validate
    return c

end Config

end SymbolAtlas
