import SymbolAtlas.Calls
import SymbolAtlas.Config

/-!
# Update scopes

What has to be built again with changed symbols: the changed symbols themselves and whatever lies
one step away along the relations that are followed. One step only, so the size of a scope depends
on the neighbours of a symbol and not on the depth of the calls.
-/

namespace SymbolAtlas

/-- The relations of an index, in both directions. -/
structure RelationTables where
  callees : Adjacency := ∅
  callers : Adjacency := ∅
  lexicalParent : Table String String := ∅
  children : Adjacency := ∅
  namespaceParent : Table String String := ∅
  bases : Adjacency := ∅
  derived : Adjacency := ∅
  overridden : Adjacency := ∅
  overriding : Adjacency := ∅

namespace RelationTables

/-- The namespace that a symbol's scope names, if it is another symbol. -/
def namespaceOf (namespaces : Table String String) (s : Symbol) : Option String :=
  (namespaces.get? s.scope).filter (· ≠ s.id)

/-- Everything linked to its other end. -/
def linkAll (l : List (String × String)) : Adjacency := l.foldl (fun a e => a.link e.1 e.2) ∅

def build (ix : Index) (g : CallGraph) : RelationTables :=
  let calls := g.calls
  let parents := ix.all.filterMap fun s => s.parentId.map (s.id, ·)
  let namespaces := ix.namespaces
  { callees := linkAll (calls.map fun c => (c.caller, c.callee))
    callers := linkAll (calls.map fun c => (c.callee, c.caller))
    lexicalParent := Table.ofList parents
    children := linkAll (parents.map Prod.swap)
    namespaceParent :=
      Table.ofList (ix.all.filterMap fun s => (namespaceOf namespaces s).map (s.id, ·))
    bases := linkAll (ix.inheritance.map fun r => (r.derived, r.base))
    derived := linkAll (ix.inheritance.map fun r => (r.base, r.derived))
    overridden := linkAll (ix.overrides.map fun r => (r.derived, r.base))
    overriding := linkAll (ix.overrides.map fun r => (r.base, r.derived)) }

/-- The ids one step from `id` along the relations that are followed. -/
def neighbours (t : RelationTables) (r : ScopeRelations) (id : String) : KeySet String :=
  let sets (followed : Bool) (l : List Adjacency) : List String :=
    if followed then l.flatMap fun a => (a.of id).toList else []
  let one (followed : Bool) (t : Table String String) : List String :=
    if followed then (t.get? id).toList else []
  .ofList (sets r.calls [t.callees, t.callers] ++ sets r.inheritance [t.bases, t.derived] ++
    sets r.overrides [t.overridden, t.overriding] ++ sets r.children [t.children] ++
    one r.lexicalParent t.lexicalParent ++ one r.namespaceParent t.namespaceParent)

end RelationTables

structure Scope where
  /-- The changed symbols that the index knows. -/
  seeds : KeySet String
  /-- Known symbols one step from a seed, other than seeds. -/
  dependencies : KeySet String
  /-- The index restricted to both. -/
  index : Index
  deriving DecidableEq

namespace Scope

/-- The known symbols one step from the seeds, other than the seeds. -/
def dependenciesOf (ix : Index) (t : RelationTables) (r : ScopeRelations) (seeds : KeySet String) :
    KeySet String :=
  .ofList ((seeds.toList.flatMap fun s => (t.neighbours r s).toList).filter fun id =>
    !seeds.contains id && ix.contains id)

/-- The scope of the seeds in an index whose relations are given. -/
def around (ix : Index) (t : RelationTables) (r : ScopeRelations) (seeds : KeySet String) : Scope :=
  let seeds := seeds.filter ix.contains
  let dependencies := dependenciesOf ix t r seeds
  { seeds, dependencies, index := ix.restrict (seeds.union dependencies) }

/-- The relations of an index with the calls found in it; calls that are not followed are not
looked for. -/
def tables (ix : Index) (r : ScopeRelations) : RelationTables :=
  .build ix (if r.calls then ix.callGraph false else ∅)

def build (ix : Index) (r : ScopeRelations) (seeds : KeySet String) : Scope :=
  around ix (tables ix r) r seeds

end Scope

end SymbolAtlas
