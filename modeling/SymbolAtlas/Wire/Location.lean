import SymbolAtlas.Json.Decode
import SymbolAtlas.Location

/-!
# JSON form of coordinates
-/

namespace SymbolAtlas

open Json

def wordJson (w : UInt32) : Json := .int w.toNat

def Position.toJson (p : Position) : Json :=
  .obj [("line", wordJson p.line), ("column", wordJson p.column)]

namespace Range

def ofCoordinates (startLine startColumn stopLine stopColumn : UInt32) : Range :=
  ⟨⟨startLine, startColumn⟩, ⟨stopLine, stopColumn⟩⟩

/-- The four coordinates as members of an object. -/
def members (r : Range) : List (String × Json) :=
  [("start_line", wordJson r.start.line), ("start_column", wordJson r.start.column),
   ("end_line", wordJson r.stop.line), ("end_column", wordJson r.stop.column)]

def toJson (r : Range) : Json := .obj r.members

def coordinateNames : List String := ["start_line", "start_column", "end_line", "end_column"]

def fields (r : Fields) : Checked Range :=
  ofCoordinates <$> r.required "start_line" asWord <*> r.required "start_column" asWord
    <*> r.required "end_line" asWord <*> r.required "end_column" asWord

def decode : Decoder Range := asRecord ⟨"RelativeLocation", coordinateNames, false⟩ fields

end Range

namespace Location

def toJson (l : Location) : Json := .obj (("file_uri", .str l.file) :: l.range.members)

def decode : Decoder Location :=
  asRecord ⟨"Location", "file_uri" :: Range.coordinateNames, false⟩ fun r =>
    Location.mk <$> r.required "file_uri" asText <*> Range.fields r

end Location

end SymbolAtlas
