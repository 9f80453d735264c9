import SymbolAtlas.Proofs.Graph
import SymbolAtlas.Proofs.Scope

/-!
# Edges and steps

The graph of an index and its relation tables are two readings of the same relations: the graph has
them as edges with a direction, the tables as steps either way. An edge other than to an alias
target is a step from one of its ends to the other (`Index.GivesEdge.near`) and a step is such an
edge one way or the other (`Index.Near.exists_edge`), so both know the same neighbours
(`Graph.exists_edge_iff_near`).
-/

namespace SymbolAtlas

namespace ScopeRelations

/-- Every relation is followed. -/
def every : ScopeRelations := ⟨true, true, true, true, true, true⟩

end ScopeRelations

namespace Index

variable {ix : Index} {calls : List Call} {r : ScopeRelations} {s d : String} {e : Edge}

/-- A step along whatever relations is an edge one way or the other. -/
theorem Near.exists_edge (h : ix.Near calls r s d) :
    ∃ e, ix.GivesEdge calls e ∧ e.relationship ≠ .aliasOf ∧ e.Between s d := by
  cases h with
  | callee _ h => exact ⟨_, .calls h, nofun, .inl ⟨rfl, rfl⟩⟩
  | caller _ h => exact ⟨_, .calls h, nofun, .inr ⟨rfl, rfl⟩⟩
  | base _ h => exact ⟨_, .inherits h, nofun, .inl ⟨rfl, rfl⟩⟩
  | derived _ h => exact ⟨_, .inherits h, nofun, .inr ⟨rfl, rfl⟩⟩
  | overridden _ h => exact ⟨_, .overrides h, nofun, .inr ⟨rfl, rfl⟩⟩
  | overriding _ h => exact ⟨_, .overrides h, nofun, .inl ⟨rfl, rfl⟩⟩
  | child _ hx hp =>
    exact ⟨_, .contains (Option.bind_eq_some_iff.2 ⟨_, hx, hp⟩), nofun, .inl ⟨rfl, rfl⟩⟩
  | parent _ hx hp =>
    exact ⟨_, .contains (Option.bind_eq_some_iff.2 ⟨_, hx, hp⟩), nofun, .inr ⟨rfl, rfl⟩⟩
  | namespaceParent _ hx hn =>
    exact ⟨_, .scopeContains hx (RelationTables.namespaceOf_eq_some.1 hn).1, nofun,
      .inr ⟨rfl, rfl⟩⟩

/-- An edge other than to an alias target is a step from one of its ends to the other. The step to a
namespace goes only one way, so the ends cannot be chosen. -/
theorem GivesEdge.near (hk : ix.Keyed) (h : ix.GivesEdge calls e)
    (hrel : e.relationship ≠ .aliasOf) (hne : e.source ≠ e.target) :
    ix.Near calls .every e.source e.target ∨ ix.Near calls .every e.target e.source := by
  cases h with
  | contains h =>
    obtain ⟨x, hx, hp⟩ := Option.bind_eq_some_iff.1 h
    exact .inl (.child rfl hx hp)
  | scopeContains hx h =>
    rw [← hk.id_of_get? hx] at hne
    exact .inr (.namespaceParent rfl hx (RelationTables.namespaceOf_eq_some.2 ⟨h, hne⟩))
  | aliasOf => exact absurd rfl hrel
  | inherits h => exact .inl (.base rfl h)
  | overrides h => exact .inl (.overriding rfl h)
  | calls h => exact .inl (.callee rfl h)

end Index

/-- Two symbols have an edge between them other than to an alias target if and only if one of them is
a step from the other along some relation. -/
theorem Graph.exists_edge_iff_near {ix : Index} (hk : ix.Keyed) (g : CallGraph) {s d : String}
    (hs : ix.contains s = true) (hd : ix.contains d = true) (hne : s ≠ d) :
    (∃ e ∈ (Graph.ofIndex ix g).edges, e.relationship ≠ .aliasOf ∧ e.Between s d) ↔
      d ∈ (RelationTables.build ix g).neighbours .every s ∨
        s ∈ (RelationTables.build ix g).neighbours .every d := by
  rw [RelationTables.mem_neighbours hk, RelationTables.mem_neighbours hk]
  refine ⟨?_, fun h => ?_⟩
  · rintro ⟨e, he, hrel, hends⟩
    obtain ⟨hgiven, hends', -⟩ := (mem_edges_ofIndex hk).1 he
    have hnear := hgiven.near hk hrel hends'
    rcases hends with ⟨rfl, rfl⟩ | ⟨rfl, rfl⟩
    · exact hnear
    · exact hnear.symm
  · obtain ⟨e, he, hrel, hends⟩ : ∃ e, ix.GivesEdge g.calls e ∧ e.relationship ≠ .aliasOf ∧
        e.Between s d := by
      rcases h with h | h
      · exact h.exists_edge
      · obtain ⟨e, he, hrel, hends⟩ := h.exists_edge
        exact ⟨e, he, hrel, hends.symm⟩
    refine ⟨e, (mem_edges_ofIndex hk).2 ⟨he, ?_⟩, hrel, hends⟩
    rcases hends with ⟨rfl, rfl⟩ | ⟨rfl, rfl⟩
    · exact ⟨hne, hs, hd⟩
    · exact ⟨hne.symm, hd, hs⟩

/-- A namespace with a class, a method of it, and an alias of the class. -/
def Graph.aliasIndex : Index := .ofSymbols
  [{ id := "a", name := "A", kind := .typeAlias, aliasedId := some "c" },
    { id := "c", name := "C", kind := .classType, scope := "geo::" },
    { id := "m", name := "m", kind := .instanceMethod, parentId := some "c" },
    { id := "n", name := "geo", kind := .nameSpace }]

/-- The class is a step from its method and its namespace is a step from it, so there are edges; the
alias is no step from the class. -/
theorem Graph.exists_edge_aliasIndex :
    let graph := Graph.ofIndex aliasIndex ∅
    (∃ e ∈ graph.edges, e.relationship ≠ .aliasOf ∧ e.Between "c" "m") ∧
      (∃ e ∈ graph.edges, e.relationship ≠ .aliasOf ∧ e.Between "n" "c") ∧
      ¬∃ e ∈ graph.edges, e.relationship ≠ .aliasOf ∧ e.Between "a" "c" := by
  have hk : aliasIndex.Keyed := by decide
  refine ⟨?method, ?outer, ?named⟩
  case method =>
    exact (exists_edge_iff_near hk ∅ (by decide) (by decide) (by decide)).2 (.inl (by decide))
  case outer =>
    exact (exists_edge_iff_near hk ∅ (by decide) (by decide) (by decide)).2 (.inr (by decide))
  case named =>
    rw [exists_edge_iff_near hk ∅ (by decide) (by decide) (by decide)]
    decide

end SymbolAtlas
