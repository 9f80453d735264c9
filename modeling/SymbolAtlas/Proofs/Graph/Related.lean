import SymbolAtlas.Graph.Query
import SymbolAtlas.Proofs.Graph
import SymbolAtlas.Proofs.Graph.Search

/-!
# Related nodes are those at a distance

`g.Linked a r b` says that an edge with the relationship `r` joins `a` and `b`, whichever way it goes.
The steps of a graph are its links (`mem_steps`), so the nodes that are related to a node are those
at a distance from it along links (`related_exact`).
-/

namespace SymbolAtlas.Graph

open Search

/-- An edge with this relationship joins `a` and `b`, one way or the other. -/
def Linked (g : Graph) (a : String) (r : Relationship) (b : String) : Prop :=
  ∃ e ∈ g.edges, e.relationship = r ∧ e.Between a b

theorem mem_steps {g : Graph} (a b : String) (r : Relationship) :
    (b, r) ∈ g.steps a ↔ g.Linked a r b := by
  simp only [steps, List.mem_mergeSort, List.mem_append, List.mem_map, List.mem_filter,
    Array.mem_toList_iff, decide_eq_true_eq, Prod.mk.injEq, Linked, Edge.Between]
  refine ⟨?_, ?_⟩
  · rintro (⟨e, ⟨he, hs⟩, ht, hr⟩ | ⟨e, ⟨he, ht⟩, hs, hr⟩)
    · exact ⟨e, he, hr, .inl ⟨hs, ht⟩⟩
    · exact ⟨e, he, hr, .inr ⟨hs, ht⟩⟩
  · rintro ⟨e, he, hr, ⟨hs, ht⟩ | ⟨hs, ht⟩⟩
    · exact .inl ⟨e, ⟨he, hs⟩, ht, hr⟩
    · exact .inr ⟨e, ⟨he, ht⟩, hs, hr⟩

/-- The nodes that are related to a node up to a depth are those other than itself at a distance along
links between 1 and the depth, each once and with its distance. With each comes a trail of as many
relationships as it is away, along which links lead from the start to it. Nearer nodes come
first. -/
theorem related_exact (g : Graph) (start : String) (depth : Nat) :
    let found := g.related start depth
    (∀ id n, (∃ r ∈ found, r.id = id ∧ r.distance = n) ↔
        id ≠ start ∧ 1 ≤ n ∧ n ≤ depth ∧ AtDistance g.Linked start n id) ∧
      (found.map (·.id)).Nodup ∧
      (∀ r ∈ found, r.trail.length = r.distance ∧ Leads g.Linked start r.trail r.id) ∧
      (found.map (·.distance)).Pairwise (· ≤ ·) := by
  have h : Covers g.Linked start 0 depth (g.related start depth) :=
    covers_around mem_steps start depth
  refine ⟨fun id n => ?_, h.nodup, h.found, h.nearest⟩
  rw [h.mem id n]
  refine ⟨fun ⟨hpos, hle, hd⟩ => ⟨?_, hpos, hle, hd⟩, And.right⟩
  rintro rfl
  have := (atDistance_zero.2 rfl).unique hd
  omega

end SymbolAtlas.Graph
