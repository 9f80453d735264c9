import SymbolAtlas.Error
import SymbolAtlas.Graph
import SymbolAtlas.Graph.Search

/-!
# Questions to the graph

Neighbours come in id order. Related nodes are found along edges in either direction, paths along
their direction.
-/

namespace SymbolAtlas.Graph

def successors (g : Graph) (r : Relationship) (id : String) : KeySet String :=
  .ofList ((g.edges.toList.filter fun e => e.relationship = r && e.source = id).map (·.target))

def predecessors (g : Graph) (r : Relationship) (id : String) : KeySet String :=
  .ofList ((g.edges.toList.filter fun e => e.relationship = r && e.target = id).map (·.source))

def callees (g : Graph) (id : String) : KeySet String := g.successors .calls id

def callers (g : Graph) (id : String) : KeySet String := g.predecessors .calls id

def children (g : Graph) (id : String) : KeySet String := g.successors .contains id

/-- The enclosing node; of several the first by id. -/
def parent? (g : Graph) (id : String) : Option String := (g.predecessors .contains id).toList.head?

def bases (g : Graph) (id : String) : KeySet String := g.successors .inherits id

/-! ## Related nodes -/

def stepOrder (a b : String × Relationship) : Bool :=
  (compare a.1 b.1).then (compare a.2 b.2) ≠ .gt

/-- The steps from a node along its edges in either direction, by target and then by relationship. -/
def steps (g : Graph) (id : String) : List (String × Relationship) :=
  let out := (g.edges.toList.filter (·.source = id)).map fun e => (e.target, e.relationship)
  let back := (g.edges.toList.filter (·.target = id)).map fun e => (e.source, e.relationship)
  (out ++ back).mergeSort stepOrder

/-- The nodes at most `depth` steps away, each once, at its shortest distance. -/
def related (g : Graph) (id : String) (depth : Nat) : List (Reached Relationship) :=
  Search.around g.steps id depth

/-- The id of a node and of what is related to it. -/
def neighbourhood (g : Graph) (id : String) (depth : Nat) : Except AtlasError (List String) :=
  if g.contains id then .ok (id :: (g.related id depth).map (·.id)) else .error (.nodeNotFound id)

/-! ## Paths -/

/-- The steps along the edges from a node, each labelled by where it leads. -/
def onward (g : Graph) (id : String) : List (String × String) :=
  (g.edges.toList.filter (·.source = id)).map fun e => (e.target, e.target)

/-- The nodes on a shortest path, both ends included. -/
def path? (g : Graph) (source target : String) : Option (List String) :=
  if source = target then some [source]
  else
    ((Search.around g.onward source g.nodes.size).find? (·.id = target)).map fun r =>
      source :: r.trail

end SymbolAtlas.Graph
