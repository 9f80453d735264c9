import SymbolAtlas.Forest
import SymbolAtlas.Wire.Span

/-!
# JSON form of span forests
-/

namespace SymbolAtlas

open Json

namespace SpanTree

mutual

def toJson : SpanTree → Json
  | node s ts => .obj [("span", s.toJson), ("children", .arr (listJson ts))]

def listJson : List SpanTree → List Json
  | [] => []
  | t :: ts => toJson t :: listJson ts

end

/-- A tree of at most `depth` levels. -/
def decodeWithin : Nat → Decoder SpanTree
  | 0 => fun j => mismatch j "struct SpanTreeNode"
  | depth + 1 =>
    asRecord ⟨"SpanTreeNode", ["span", "children"], false⟩ fun r =>
      node <$> r.required "span" Span.decode
        <*> r.required "children" (asList (decodeWithin depth))

/-- A tree as deep as JSON text can nest. -/
def decode : Decoder SpanTree := decodeWithin 128

end SpanTree

def SpanForest.decode : Decoder SpanForest := asTable (asList SpanTree.decode)

end SymbolAtlas
