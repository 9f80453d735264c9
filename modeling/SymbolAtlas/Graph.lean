import SymbolAtlas.Calls
import SymbolAtlas.Graph.Relationship
import SymbolAtlas.Table.Group

/-!
# The symbol graph

Symbols as nodes, in the order they were added, and their relationships as directed edges. A node is
known by its id; an id has one node, the first that was added, and an edge is added once.
-/

namespace SymbolAtlas

structure Node where
  id : String
  name : String
  kind : SymbolKind
  label : Option NodeLabel
  /-- The file of the definition, or else of the declaration. -/
  file : Option String
  body : Option Range
  deriving DecidableEq, Repr, Inhabited

namespace Node

def ofSymbol (s : Symbol) : Node where
  id := s.id
  name := s.name
  kind := s.kind
  label := s.label
  file := s.file
  body := s.body

/-- The lines of the body. -/
def lineCount (n : Node) : Nat :=
  match n.body with
  | some r => r.lineCount
  | none => 0

end Node

structure Edge where
  source : String
  target : String
  relationship : Relationship
  deriving DecidableEq, Repr, Inhabited

structure Graph where
  nodes : Array Node := #[]
  /-- Where the node of an id stands. -/
  position : Table String Nat := ∅
  /-- Where the nodes of a file stand. -/
  byFile : Table String (List Nat) := ∅
  edges : Array Edge := #[]

namespace Graph

instance : EmptyCollection Graph := ⟨{}⟩

instance : Inhabited Graph := ⟨∅⟩

/-! ## Reading -/

def contains (g : Graph) (id : String) : Bool := g.position.contains id

def find? (g : Graph) (id : String) : Option Node := (g.position.get? id).bind (g.nodes[·]?)

/-- The nodes of a file in the order they were added. -/
def nodesIn (g : Graph) (file : String) : List Node :=
  (g.byFile.getD file []).filterMap (g.nodes[·]?)

def hasEdge (g : Graph) (e : Edge) : Bool := g.edges.contains e

/-- How often each relationship occurs, of those that do. -/
def histogram (g : Graph) : List (Relationship × Nat) :=
  (Relationship.all.map fun r => (r, g.edges.countP (·.relationship = r))).filter (·.2 ≠ 0)

/-! ## Building -/

def fileAway (t : Table String (List Nat)) (file : Option String) (position : Nat) :
    Table String (List Nat) :=
  match file with
  | some f => t.push f position
  | none => t

/-- Add a node unless its id has one. -/
def addNode (g : Graph) (n : Node) : Graph :=
  if g.contains n.id then g
  else
    { g with
      nodes := g.nodes.push n
      position := g.position.insert n.id g.nodes.size
      byFile := fileAway g.byFile n.file g.nodes.size }

/-- Whether both ends of an edge are nodes. -/
def joins (g : Graph) (e : Edge) : Bool := g.contains e.source && g.contains e.target

/-- Add an edge between nodes unless it is there. -/
def addEdge (g : Graph) (e : Edge) : Graph :=
  if g.joins e && !g.hasEdge e then { g with edges := g.edges.push e } else g

end Graph

/-! ## The graph of an index -/

namespace Symbol

/-- The edges that a symbol's own fields stand for. -/
def edges (namespaces : Table String String) (s : Symbol) : List Edge :=
  (s.parentId.map fun p => ⟨p, s.id, .contains⟩).toList ++
    ((namespaces.get? s.scope).map fun n => ⟨n, s.id, .scopeContains⟩).toList ++
    (s.aliasedId.map fun a => ⟨s.id, a, .aliasOf⟩).toList

end Symbol

/-- The edges that an index and its calls stand for. -/
def Index.edges (ix : Index) (calls : CallGraph) : List Edge :=
  let namespaces := ix.namespaces
  ix.all.flatMap (Symbol.edges namespaces) ++
    ix.inheritance.map (fun r => ⟨r.derived, r.base, .inherits⟩) ++
    ix.overrides.map (fun r => ⟨r.base, r.derived, .overrides⟩) ++
    calls.calls.map fun c => ⟨c.caller, c.callee, .calls⟩

/-- The graph of an index; a symbol has no edge to itself. -/
def Graph.ofIndex (ix : Index) (calls : CallGraph) : Graph :=
  let bare := ix.all.foldl (fun g s => g.addNode (.ofSymbol s)) (∅ : Graph)
  ((ix.edges calls).filter fun e => e.source ≠ e.target).foldl Graph.addEdge bare

end SymbolAtlas
