import SymbolAtlas.Index

/-!
# Merging partial indexes

A symbol of both indexes keeps the smaller of two locations, bodies, parents or alias targets and
the references of either, in order; where only one index has a symbol, it is taken as it is.
Relation pairs are merged, sorted and listed once.
-/

namespace SymbolAtlas

/-- The smaller of two optional values; an absent one gives way. -/
def keepMin {α : Type} [Ord α] : Option α → Option α → Option α
  | a, none => a
  | none, b => b
  | some a, some b => if compare a b = .gt then some b else some a

/-- The references of `extra` that are not in the list yet, after those that are. -/
def addReferences (known : List Reference) (extra : List Reference) : List Reference :=
  extra.foldl (fun l r => if l.contains r then l else l ++ [r]) known

def notAfter {α : Type} [Ord α] (a b : α) : Bool := compare a b ≠ .gt

/-- Take over what another description of the same symbol adds. -/
def Symbol.absorb (s incoming : Symbol) : Symbol :=
  { s with
    definition := keepMin s.definition incoming.definition
    declaration := keepMin s.declaration incoming.declaration
    body := keepMin s.body incoming.body
    parentId := keepMin s.parentId incoming.parentId
    aliasedId := keepMin s.aliasedId incoming.aliasedId
    references := (addReferences s.references incoming.references).mergeSort notAfter }

/-- Both lists of pairs, sorted and without repetitions. -/
def mergeRelations (a b : List Relation) : List Relation :=
  ((a ++ b).mergeSort notAfter).eraseReps

namespace Index

/-- Take over one symbol of another index, listed there under `id`. -/
def absorb (ix : Index) (id : String) (s : Symbol) : Index :=
  if ix.contains id then ix.modify id (·.absorb s) else ix.insert s

def merge (a b : Index) : Index :=
  let both := b.symbols.entries.foldl (fun ix e => ix.absorb e.1 e.2) a
  { both with
    hasContainers := a.hasContainers || b.hasContainers
    hasCallKind := a.hasCallKind || b.hasCallKind
    inheritance := mergeRelations a.inheritance b.inheritance
    overrides := mergeRelations a.overrides b.overrides }

end Index

end SymbolAtlas
