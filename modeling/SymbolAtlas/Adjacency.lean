import SymbolAtlas.KeySet

/-!
# Adjacency between ids

A relation between ids, as the set of ids that each id is linked to.
-/

namespace SymbolAtlas

abbrev Adjacency := Table String (KeySet String)

namespace Adjacency

/-- The ids that `id` is linked to. -/
def of (a : Adjacency) (id : String) : KeySet String := a.getD id ∅

def link (a : Adjacency) (source target : String) : Adjacency :=
  a.insert source ((of a source).insert target)

/-- The linked pairs, by source and then by target. -/
def pairs (a : Adjacency) : List (String × String) :=
  a.entries.flatMap fun e => e.2.toList.map (e.1, ·)

@[simp] theorem of_empty (id : String) : of ∅ id = ∅ := rfl

theorem of_link (a : Adjacency) (source target id : String) :
    of (link a source target) id = if id = source then (of a source).insert target else of a id := by
  simp only [of, link, Table.getD, Table.get?_insert]
  split <;> rfl

theorem mem_of_link {a : Adjacency} {source target x y : String} :
    y ∈ of (link a source target) x ↔ (x = source ∧ y = target) ∨ y ∈ of a x := by
  rw [of_link]
  split
  · next h => subst h; simp [KeySet.mem_insert]
  · next h => simp [h]

end Adjacency

end SymbolAtlas
