import SymbolAtlas.Nesting

/-!
# Span forests

The spans of a file as trees of lexical nesting. The spans are put in source order, outer spans
before the spans they enclose; then each span takes the following spans as long as they lie within
it, and those that lie within one of its children go there. `FileForest.innermostWhere` asks for the
smallest span around a target.
-/

namespace SymbolAtlas

inductive SpanTree where
  | node (span : Span) (children : List SpanTree)
  deriving Inhabited, Repr

/-- The trees of a file, in source order. -/
abbrev FileForest := List SpanTree

/-- The trees of each file. -/
abbrev SpanForest := Table String FileForest

namespace SpanTree

def span : SpanTree → Span
  | node s _ => s

def children : SpanTree → List SpanTree
  | node _ ts => ts

def leaf (s : Span) : SpanTree := node s []

def isLeaf (t : SpanTree) : Bool := t.children.isEmpty

mutual

/-- The spans of a tree, each before what it encloses, with their depths. -/
def walk (depth : Nat) : SpanTree → List (Nat × Span)
  | node s ts => (depth, s) :: walkAll (depth + 1) ts

def walkAll (depth : Nat) : List SpanTree → List (Nat × Span)
  | [] => []
  | t :: ts => walk depth t ++ walkAll depth ts

end

mutual

/-- The number of spans in a tree. -/
def size : SpanTree → Nat
  | node _ ts => 1 + sizeAll ts

def sizeAll : List SpanTree → Nat
  | [] => 0
  | t :: ts => size t + sizeAll ts

end

end SpanTree

namespace FileForest

/-- The spans of a file's forest, each before what it encloses. -/
def spans (f : FileForest) : List Span := (SpanTree.walkAll 0 f).map (·.2)

/-! ## Building -/

/-- Earlier starts first, and of one start the later end first. -/
def sourceOrder (a b : Span) : Bool :=
  (compare a.body.start b.body.start).then (compare b.body.stop a.body.stop) ≠ .gt

/-- The trees of the spans at the front that lie within `outer`, and the spans after them. -/
def under (outer : Span) :
    (l : List Span) → List SpanTree × { rest : List Span // rest.length ≤ l.length }
  | [] => ([], ⟨[], Nat.le_refl _⟩)
  | s :: l =>
    if s.within outer then
      let (children, ⟨rest, h⟩) := under s l
      let (siblings, ⟨rest', h'⟩) := under outer rest
      (.node { s with parentId := some outer.id } children :: siblings,
        ⟨rest', by simp only [List.length_cons]; omega⟩)
    else ([], ⟨s :: l, Nat.le_refl _⟩)
  termination_by l => l.length
  decreasing_by all_goals simp_wf <;> omega

/-- The trees of spans in source order. -/
def grow : List Span → FileForest
  | [] => []
  | s :: l =>
    let (children, ⟨rest, _⟩) := under s l
    .node { s with parentId := none } children :: grow rest
  termination_by l => l.length
  decreasing_by simp_wf; omega

/-- The forest of a file's spans. Spans with one body and one extent come in id order. -/
def build (spans : SpanSet) : FileForest := grow (spans.toList.mergeSort sourceOrder)

/-! ## Asking for a container -/

/-- A span and its depth, ranked as a container: the smaller extent first, then the deeper span,
then the smaller id. -/
def rank (a b : Nat × Span) : Ordering :=
  (compare a.2.body.extent b.2.body.extent).then
    ((compare b.1 a.1).then (compare a.2.id b.2.id))

def best (a b : Nat × Span) : Nat × Span := if rank b a = .lt then b else a

/-- The innermost accepted span around `target`, other than the target itself. -/
def innermostWhere (f : FileForest) (target : Span) (accept : Span → Bool) : Option Span :=
  let around := (SpanTree.walkAll 0 f).filter fun d =>
    d.2.id ≠ target.id && accept d.2 && target.within d.2
  match around with
  | [] => none
  | d :: ds => some (ds.foldl best d).2

def innermost (f : FileForest) (target : Span) : Option Span := f.innermostWhere target fun _ => true

end FileForest

/-- The forest of every file of a table. -/
def SpanForest.build (table : SpanTable) : SpanForest := table.map FileForest.build

end SymbolAtlas
