import SymbolAtlas.Index
import SymbolAtlas.Wire.Location

/-!
# JSON form of symbols and indexes
-/

namespace SymbolAtlas

open Json

def SymbolKind.toJson (k : SymbolKind) : Json := .str k.text

def SymbolKind.decode : Decoder SymbolKind := fun j => (asText j).map SymbolKind.ofText

namespace Reference

def toJson (r : Reference) : Json :=
  .obj ([("kind", wordJson r.kind.bits), ("location", r.location.toJson)] ++
    Json.optional "container_id" .str r.containerId)

def decode : Decoder Reference :=
  asRecord ⟨"Reference", ["kind", "location", "container_id"], false⟩ fun r =>
    (fun kind location container => ⟨⟨kind⟩, location, container⟩)
      <$> r.required "kind" asWord <*> r.required "location" Location.decode
      <*> r.optional "container_id" asText

end Reference

namespace Symbol

def toJson (s : Symbol) : Json :=
  .obj ([("id", .str s.id), ("name", .str s.name), ("kind", s.kind.toJson)] ++
    Json.optional "declaration" Location.toJson s.declaration ++
    Json.optional "definition" Location.toJson s.definition ++
    [("references", .arr (s.references.map Reference.toJson)), ("scope", .str s.scope),
     ("language", .str s.language), ("signature", .str s.signature),
     ("return_type", .str s.returnType), ("type_name", .str s.typeName)] ++
    Json.optional "body_location" Range.toJson s.body ++
    Json.optional "parent_id" .str s.parentId ++
    Json.optional "aliased_type_id" .str s.aliasedId ++
    Json.optional "aliased_type_kind" .str s.aliasedKind ++
    Json.optional "aliased_canonical_spelling" .str s.aliasedSpelling)

def decode : Decoder Symbol :=
  asRecord ⟨"Symbol",
    ["id", "name", "kind", "declaration", "definition", "references", "scope", "language",
     "signature", "return_type", "type_name", "body_location", "parent_id", "aliased_type_id",
     "aliased_type_kind", "aliased_canonical_spelling"], false⟩ fun r =>
    Symbol.mk <$> r.required "id" asText <*> r.required "name" asText
      <*> r.required "kind" SymbolKind.decode <*> r.optional "declaration" Location.decode
      <*> r.optional "definition" Location.decode
      <*> r.withDefault "references" (asList Reference.decode) []
      <*> r.withDefault "scope" asText "" <*> r.withDefault "language" asText ""
      <*> r.withDefault "signature" asText "" <*> r.withDefault "return_type" asText ""
      <*> r.withDefault "type_name" asText "" <*> r.optional "body_location" Range.decode
      <*> r.optional "parent_id" asText <*> r.optional "aliased_type_id" asText
      <*> r.optional "aliased_type_kind" asText
      <*> r.optional "aliased_canonical_spelling" asText

end Symbol

def KeySet.toJson (s : KeySet String) : Json := strs s.toList

def KeySet.decode : Decoder (KeySet String) := fun j => (asList asText j).map KeySet.ofList

namespace Relation

def toJson (r : Relation) : Json := strs [r.base, r.derived]

def decode : Decoder Relation := fun j => (asPair asText asText j).map fun p => ⟨p.1, p.2⟩

end Relation

namespace Index

def toJson (ix : Index) : Json :=
  .obj [("symbols", ofTable Symbol.toJson ix.symbols), ("callables", ix.callables.toJson),
    ("has_container_field", .bool ix.hasContainers), ("has_call_kind", .bool ix.hasCallKind),
    ("inheritance_relations", .arr (ix.inheritance.map Relation.toJson)),
    ("override_relations", .arr (ix.overrides.map Relation.toJson))]

/-- The index as it was written: neither the keys nor the callables are checked against the
symbols. -/
def decode : Decoder Index :=
  asRecord ⟨"SymbolIndex",
    ["symbols", "callables", "has_container_field", "has_call_kind", "inheritance_relations",
     "override_relations"], false⟩ fun r =>
    Index.mk <$> r.required "symbols" (asTable Symbol.decode)
      <*> r.required "callables" KeySet.decode <*> r.required "has_container_field" asBool
      <*> r.required "has_call_kind" asBool
      <*> r.required "inheritance_relations" (asList Relation.decode)
      <*> r.required "override_relations" (asList Relation.decode)

end Index

end SymbolAtlas
