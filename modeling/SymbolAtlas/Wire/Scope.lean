import SymbolAtlas.Scope
import SymbolAtlas.Wire.Symbol

/-!
# JSON form of scopes
-/

namespace SymbolAtlas.Scope

open Json

def toJson (s : Scope) : Json :=
  .obj [("seeds", s.seeds.toJson), ("direct_dependencies", s.dependencies.toJson),
    ("index", s.index.toJson)]

end SymbolAtlas.Scope
