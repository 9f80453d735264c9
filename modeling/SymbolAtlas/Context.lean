import SymbolAtlas.Graph.Query
import SymbolAtlas.Total

/-!
# Context of a symbol

The symbols related to a symbol, best first. The score of a related symbol falls with its distance
and rises with the weights of the relationships that lead to it.
-/

namespace SymbolAtlas

/-- How far context reaches. -/
inductive Reach where
  | direct
  | extended
  | deep
  | custom (depth : Nat)
  deriving DecidableEq, Repr

def Reach.depth : Reach → Nat
  | direct => 1
  | extended => 2
  | deep => 3
  | custom depth => depth

structure RelatedNode where
  node : Node
  /-- The relationships that lead to the node. -/
  trail : List Relationship
  distance : Nat
  score : Float32

structure Context where
  primary : Node
  related : List RelatedNode
  /-- The lines of all bodies. -/
  totalLines : Nat

namespace RelatedNode

/-- The mean weight of a trail, divided by one more than the distance. -/
def relevance (distance : Nat) (trail : List Relationship) : Float32 :=
  let decay := 1.0 / (Float32.ofNat distance + 1.0)
  let weights := trail.foldl (fun sum r => sum + r.weight) 0.0
  decay * (weights / Float32.ofNat (max trail.length 1))

/-- The order of scores. They are positive, so it is that of their bits. -/
def key (r : RelatedNode) : UInt32 := r.score.toBits

/-- Higher scores first, and of one score the smaller id. -/
def rankOrder (a b : RelatedNode) : Bool :=
  (compare b.key a.key).then (compare a.node.id b.node.id) ≠ .gt

def ofReached (g : Graph) (r : Reached Relationship) : Option RelatedNode :=
  (g.find? r.id).map fun node =>
    { node, trail := r.trail, distance := r.distance, score := relevance r.distance r.trail }

end RelatedNode

namespace Graph

def context (g : Graph) (id : String) (reach : Reach) : Except AtlasError Context :=
  match g.find? id with
  | none => .error (.nodeNotFound id)
  | some primary =>
    let related := ((g.related id reach.depth).filterMap (RelatedNode.ofReached g)).mergeSort
      RelatedNode.rankOrder
    .ok
      { primary, related
        totalLines := primary.lineCount + total (related.map (·.node.lineCount)) }

/-- The context of every symbol of a file. -/
def fileContexts (g : Graph) (file : String) (reach : Reach) : Except AtlasError (List Context) :=
  match g.nodesIn file with
  | [] => .error (.nodeNotFound file)
  | ns => ns.mapM fun n => g.context n.id reach

end Graph

end SymbolAtlas
