import SymbolAtlas.Index

/-!
# Cycles of parents

Following parents from a symbol may come back to where it has been. `Index.breakCycles` follows
them from every id in order, never twice over the same ground, and cuts the link that closes each
loop.
-/

namespace SymbolAtlas

namespace Index

def parent? (ix : Index) (id : String) : Option String := (ix.get? id).bind (·.parentId)

/-- Where a walk along parents has been, last first, and the id whose parent closed a loop. -/
structure Trail where
  visited : List String
  cut : Option String
  deriving DecidableEq, Repr

/-- Follow parents from `id` until they end, reach settled ground or come back. Each step adds an
id to the trail, so a trail is no longer than the ids there are. -/
def follow (ix : Index) (settled : KeySet String) : Nat → List String → String → Trail
  | 0, path, _ => ⟨path, none⟩
  | fuel + 1, path, id =>
    if settled.contains id then ⟨path, none⟩
    else if path.contains id then ⟨path, path.head?⟩
    else
      match ix.parent? id with
      | none => ⟨id :: path, none⟩
      | some p => follow ix settled fuel (id :: path) p

/-- The ground covered so far, and the ids to cut off from their parents. -/
structure Survey where
  settled : KeySet String
  cuts : List String

def surveyFrom (ix : Index) (s : Survey) (start : String) : Survey :=
  let trail := ix.follow s.settled (ix.size + 2) [] start
  ⟨s.settled.insertAll trail.visited, s.cuts ++ trail.cut.toList⟩

/-- The ids whose parents close a loop. -/
def cycleCuts (ix : Index) : List String := (ix.ids.foldl ix.surveyFrom ⟨∅, []⟩).cuts

def orphan (ix : Index) (id : String) : Index := ix.modify id fun s => { s with parentId := none }

def breakCycles (ix : Index) : Index := ix.cycleCuts.foldl orphan ix

end Index

end SymbolAtlas
