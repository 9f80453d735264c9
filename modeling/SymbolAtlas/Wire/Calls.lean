import SymbolAtlas.Calls.Stats
import SymbolAtlas.Wire.Symbol

/-!
# JSON form of call graphs
-/

namespace SymbolAtlas

open Json

namespace Adjacency

def toJson (a : Adjacency) : Json := ofTable KeySet.toJson a

def decode : Decoder Adjacency := asTable KeySet.decode

end Adjacency

namespace CallGraph

def toJson (g : CallGraph) : Json :=
  .obj (("caller_to_callees", Adjacency.toJson g.callees) ::
    Json.optional "callee_to_callers" Adjacency.toJson g.callers)

/-- The graph as it was written: the two directions are not checked against each other. -/
def decode : Decoder CallGraph :=
  asRecord ⟨"CallGraph", ["caller_to_callees", "callee_to_callers"], false⟩ fun r =>
    CallGraph.mk <$> r.required "caller_to_callees" Adjacency.decode
      <*> r.optional "callee_to_callers" Adjacency.decode

end CallGraph

def CallStats.toJson (s : CallStats) : Json :=
  .obj [("functions_in_index", nat s.functions), ("functions_with_bodies", nat s.functionsWithBodies),
    ("functions_in_graph", nat s.functionsInGraph), ("callers", nat s.callers),
    ("callees", nat s.callees), ("total_calls", nat s.calls), ("recursive_calls", nat s.recursive),
    ("entry_points", nat s.entryPoints), ("leaf_functions", nat s.leaves)]

end SymbolAtlas
