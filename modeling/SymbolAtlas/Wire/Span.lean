import SymbolAtlas.Span
import SymbolAtlas.Wire.Location
import SymbolAtlas.Worker.Output

/-!
# JSON form of spans and parse outputs

Of several spans in one list with the same id the first is read.
-/

namespace SymbolAtlas

open Json

namespace Span

def toJson (s : Span) : Json :=
  .obj ([("name", .str s.name), ("kind", .str s.kind), ("language", .str s.language),
    ("name_location", s.nameRange.toJson), ("body_location", s.body.toJson), ("id", .str s.id)] ++
    Json.optional "parent_id" .str s.parentId)

def decode : Decoder Span :=
  asRecord ⟨"SourceSpan",
    ["name", "kind", "language", "name_location", "body_location", "id", "parent_id"], false⟩
    fun r =>
      Span.mk <$> r.required "name" asText <*> r.required "kind" asText
        <*> r.required "language" asText <*> r.required "name_location" Range.decode
        <*> r.required "body_location" Range.decode <*> r.required "id" asText
        <*> r.optional "parent_id" asText

end Span

def SpanSet.toJson (s : SpanSet) : Json := .arr (s.toList.map Span.toJson)

def SpanSet.decode : Decoder SpanSet := fun j =>
  (asList Span.decode j).map SpanSet.ofListKeepFirst

namespace ParseOutput

def toJson (o : ParseOutput) : Json :=
  .obj [("source_spans", ofTable SpanSet.toJson o.spans),
    ("include_relations",
      .arr (o.includes.toList.map fun i => strs [i.including, i.included]))]

def decode : Decoder ParseOutput :=
  asRecord ⟨"SpanParseOutput", ["source_spans", "include_relations"], false⟩ fun r =>
    (fun spans pairs => ⟨spans, .ofList (pairs.map fun p => ⟨p.1, p.2⟩)⟩)
      <$> r.required "source_spans" (asTable SpanSet.decode)
      <*> r.required "include_relations" (asList (asPair asText asText))

end ParseOutput

end SymbolAtlas
