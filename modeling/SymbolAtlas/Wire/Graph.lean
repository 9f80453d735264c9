import SymbolAtlas.Graph
import SymbolAtlas.Wire.Symbol

/-!
# JSON form of graph nodes and relationships
-/

namespace SymbolAtlas

open Json

namespace NodeLabel

def toJson (l : NodeLabel) : Json := .str l.text

def decode : Decoder NodeLabel := asChoice text all

end NodeLabel

namespace Relationship

def toJson (r : Relationship) : Json := .str r.text

def decode : Decoder Relationship := asChoice text all

end Relationship

namespace Node

/-- The fields of a node as members of an object. -/
def members (n : Node) : List (String × Json) :=
  [("id", .str n.id), ("name", .str n.name), ("kind", n.kind.toJson),
   ("label", orNull NodeLabel.toJson n.label), ("file_uri", orNull .str n.file),
   ("body_location", orNull Range.toJson n.body)]

def toJson (n : Node) : Json := .obj n.members

def decode : Decoder Node :=
  asRecord ⟨"GraphNode", ["id", "name", "kind", "label", "file_uri", "body_location"], false⟩
    fun r =>
      Node.mk <$> r.required "id" asText <*> r.required "name" asText
        <*> r.required "kind" SymbolKind.decode <*> r.optional "label" NodeLabel.decode
        <*> r.optional "file_uri" asText <*> r.optional "body_location" Range.decode

end Node

end SymbolAtlas
