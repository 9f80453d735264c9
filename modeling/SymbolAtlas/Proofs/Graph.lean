import Mathlib.Data.List.Nodup
import SymbolAtlas.Graph
import SymbolAtlas.Proofs.Calls
import SymbolAtlas.Proofs.Index
import SymbolAtlas.Reconcile.Cycle

/-!
# What a graph holds

What adding a node or an edge does is said by what can be read afterwards. The positions of a graph
are those of its nodes (`Graph.Placed`), so the node of an id is found; an edge that was added is
there if both of its ends are (`mem_edges_foldl_addEdge`), and no edge is there twice
(`nodup_edges_foldl_addEdge`). The graph of an index has a node for each of its symbols
(`find?_ofIndex`) and between them the edges that `Index.GivesEdge` lists (`mem_edges_ofIndex`).
-/

namespace SymbolAtlas

namespace Edge

/-- The edge has these two ends, one way or the other. -/
def Between (e : Edge) (s d : String) : Prop :=
  (e.source = s ∧ e.target = d) ∨ (e.source = d ∧ e.target = s)

theorem Between.symm {e : Edge} {s d : String} (h : e.Between s d) : e.Between d s := Or.symm h

end Edge

namespace Graph

variable {g : Graph} {n : Node} {d e : Edge} {id : String}

/-! ## Nodes -/

/-- The position of an id is that of the one node that has it. -/
def Placed (g : Graph) : Prop :=
  ∀ id i, g.position.get? id = some i ↔ ∃ n, g.nodes[i]? = some n ∧ n.id = id

theorem contains_addNode : (g.addNode n).contains id = true ↔ id = n.id ∨ g.contains id = true := by
  unfold addNode
  split
  · next h => exact (or_iff_right_of_imp fun e => e ▸ h).symm
  · show (g.position.insert n.id g.nodes.size).contains id = true ↔ _
    rw [Table.contains, Table.get?_insert]
    by_cases h : id = n.id
    · simp [h]
    · simp [h, contains, Table.contains]

theorem edges_addNode (g : Graph) (n : Node) : (g.addNode n).edges = g.edges := by
  unfold addNode
  split <;> rfl

theorem placed_empty : (∅ : Graph).Placed := fun id i => by
  refine iff_of_false nofun ?_
  rintro ⟨n, hn, -⟩
  cases hn

theorem Placed.addNode (h : g.Placed) (n : Node) : (g.addNode n).Placed := by
  unfold Graph.addNode
  split
  · exact h
  · next hnew =>
    intro id i
    show (g.position.insert n.id g.nodes.size).get? id = some i ↔
      ∃ m, (g.nodes.push n)[i]? = some m ∧ m.id = id
    rw [Table.get?_insert, Array.getElem?_push]
    by_cases hi : i = g.nodes.size
    · subst hi
      have hfree : g.position.get? id ≠ some g.nodes.size := fun hid => by
        obtain ⟨m, hm, -⟩ := (h id _).1 hid
        simp at hm
      by_cases hid : id = n.id
      · simp [hid]
      · simp [hid, hfree, Ne.symm hid]
    · by_cases hid : id = n.id
      · subst hid
        have hnone : ¬∃ m, g.nodes[i]? = some m ∧ m.id = n.id := fun hm =>
          hnew (Table.contains_iff.2 ⟨i, (h n.id i).2 hm⟩)
        simp [hi, Ne.symm hi, hnone]
      · simp [hi, hid, h id i]

theorem Placed.find?_eq_some_iff (h : g.Placed) :
    g.find? id = some n ↔ n ∈ g.nodes ∧ n.id = id := by
  rw [find?, Option.bind_eq_some_iff]
  refine ⟨?_, ?_⟩
  · rintro ⟨i, hi, hn⟩
    obtain ⟨m, hm, hid⟩ := (h id i).1 hi
    rw [hn] at hm
    cases hm
    exact ⟨Array.mem_of_getElem? hn, hid⟩
  · rintro ⟨hn, hid⟩
    obtain ⟨i, hi⟩ := Array.getElem?_of_mem hn
    exact ⟨i, (h id i).2 ⟨n, hi, hid⟩, hi⟩

theorem nodes_addNode (h : g.contains n.id = false) : (g.addNode n).nodes = g.nodes.push n := by
  rw [addNode, h]
  rfl

/-! ## Edges -/

theorem joins_iff : g.joins e = true ↔ g.contains e.source = true ∧ g.contains e.target = true :=
  Bool.and_eq_true_iff

theorem position_addEdge (g : Graph) (d : Edge) : (g.addEdge d).position = g.position := by
  unfold addEdge
  split <;> rfl

theorem nodes_addEdge (g : Graph) (d : Edge) : (g.addEdge d).nodes = g.nodes := by
  unfold addEdge
  split <;> rfl

theorem joins_addEdge (g : Graph) (d e : Edge) : (g.addEdge d).joins e = g.joins e := by
  unfold joins contains
  rw [position_addEdge]

theorem mem_edges_addEdge :
    e ∈ (g.addEdge d).edges ↔ e ∈ g.edges ∨ (e = d ∧ g.joins e = true) := by
  unfold addEdge
  split
  · next h =>
    have hjoins : g.joins d = true := (Bool.and_eq_true_iff.1 h).1
    show e ∈ g.edges.push d ↔ _
    rw [Array.mem_push]
    exact or_congr_right ⟨fun he => ⟨he, he ▸ hjoins⟩, And.left⟩
  · next h =>
    refine (or_iff_left_of_imp ?_).symm
    rintro ⟨rfl, hjoins⟩
    simpa [hjoins, hasEdge] using h

theorem nodup_edges_addEdge (h : g.edges.toList.Nodup) : (g.addEdge d).edges.toList.Nodup := by
  unfold addEdge
  split
  · next hnew =>
    have hfree : d ∉ g.edges.toList := by
      simpa [hasEdge] using (Bool.and_eq_true_iff.1 hnew).2
    show (g.edges.push d).toList.Nodup
    rw [Array.toList_push]
    exact List.nodup_append.2 ⟨h, List.nodup_singleton d, fun a ha b hb hab =>
      hfree (List.mem_singleton.1 hb ▸ hab ▸ ha)⟩
  · exact h

theorem mem_edges_foldl_addEdge (l : List Edge) : ∀ g : Graph,
    e ∈ (l.foldl addEdge g).edges ↔ e ∈ g.edges ∨ (e ∈ l ∧ g.joins e = true) := by
  induction l with
  | nil => simp
  | cons d l ih =>
    intro g
    rw [List.foldl_cons, ih, mem_edges_addEdge, joins_addEdge, List.mem_cons, or_and_right,
      or_assoc]

theorem nodup_edges_foldl_addEdge (l : List Edge) : ∀ {g : Graph}, g.edges.toList.Nodup →
    (l.foldl addEdge g).edges.toList.Nodup := by
  induction l with
  | nil => exact id
  | cons d l ih => exact fun h => ih (nodup_edges_addEdge h)

theorem nodes_foldl_addEdge (l : List Edge) : ∀ g : Graph,
    (l.foldl addEdge g).nodes = g.nodes := by
  induction l with
  | nil => exact fun _ => rfl
  | cons d l ih => exact fun g => (ih _).trans (nodes_addEdge g d)

theorem position_foldl_addEdge (l : List Edge) : ∀ g : Graph,
    (l.foldl addEdge g).position = g.position := by
  induction l with
  | nil => exact fun _ => rfl
  | cons d l ih => exact fun g => (ih _).trans (position_addEdge g d)

/-! ## Nodes of symbols -/

/-- Add a node for each symbol of a list. -/
def addSymbols (g : Graph) (l : List Symbol) : Graph := l.foldl (fun g s => g.addNode (.ofSymbol s)) g

theorem edges_addSymbols (l : List Symbol) : ∀ g : Graph, (g.addSymbols l).edges = g.edges := by
  induction l with
  | nil => exact fun _ => rfl
  | cons s l ih => exact fun g => (ih _).trans (edges_addNode g _)

theorem Placed.addSymbols (l : List Symbol) : ∀ {g : Graph}, g.Placed → (g.addSymbols l).Placed := by
  induction l with
  | nil => exact id
  | cons s l ih => exact fun h => ih (h.addNode _)

theorem contains_addSymbols (l : List Symbol) : ∀ g : Graph,
    (g.addSymbols l).contains id = true ↔ (∃ s ∈ l, s.id = id) ∨ g.contains id = true := by
  induction l with
  | nil => simp [addSymbols]
  | cons s l ih =>
    intro g
    refine (ih _).trans ?_
    rw [contains_addNode, or_left_comm, ← or_assoc, List.exists_mem_cons_iff, eq_comm (a := id)]
    rfl

/-- Symbols whose ids are new and distinct get their nodes in the order of the list. -/
theorem nodes_addSymbols {l : List Symbol} (hids : (l.map (·.id)).Nodup) : ∀ {g : Graph},
    (∀ s ∈ l, g.contains s.id = false) →
      (g.addSymbols l).nodes.toList = g.nodes.toList ++ l.map .ofSymbol := by
  induction l with
  | nil => simp [addSymbols]
  | cons s l ih =>
    intro g hnew
    obtain ⟨hs, hids⟩ := List.nodup_cons.1 hids
    have hnode : (g.addNode (.ofSymbol s)).nodes = g.nodes.push (.ofSymbol s) :=
      nodes_addNode (hnew s (List.mem_cons_self ..))
    have hrest : ∀ t ∈ l, (g.addNode (.ofSymbol s)).contains t.id = false := by
      intro t ht
      rw [Bool.eq_false_iff, Ne, contains_addNode]
      rintro (hid | hold)
      · exact hs (List.mem_map.2 ⟨t, ht, hid⟩)
      · simp [hnew t (List.mem_cons_of_mem _ ht)] at hold
    refine (ih hids hrest).trans ?_
    rw [hnode, Array.toList_push, List.append_assoc, List.map_cons, List.singleton_append]

end Graph

/-! ## The graph of an index -/

namespace Index

/-- An index and its calls give an edge for a parent, for a namespace that a scope names, for an alias
target, for an inheritance or an override pair, and for a call. -/
inductive GivesEdge (ix : Index) (calls : List Call) : Edge → Prop where
  | contains {p id : String} (h : ix.parent? id = some p) : GivesEdge ix calls ⟨p, id, .contains⟩
  | scopeContains {n id : String} {x : Symbol} (hx : ix.get? id = some x)
      (h : ix.namespaces.get? x.scope = some n) : GivesEdge ix calls ⟨n, id, .scopeContains⟩
  | aliasOf {id a : String} {x : Symbol} (hx : ix.get? id = some x) (h : x.aliasedId = some a) :
      GivesEdge ix calls ⟨id, a, .aliasOf⟩
  | inherits {base derived : String} (h : ⟨base, derived⟩ ∈ ix.inheritance) :
      GivesEdge ix calls ⟨derived, base, .inherits⟩
  | overrides {base derived : String} (h : ⟨base, derived⟩ ∈ ix.overrides) :
      GivesEdge ix calls ⟨base, derived, .overrides⟩
  | calls {caller callee : String} (h : ⟨caller, callee⟩ ∈ calls) :
      GivesEdge ix calls ⟨caller, callee, .calls⟩

variable {ix : Index} {g : CallGraph} {e : Edge} {a b : String}

theorem mem_edges_iff (hk : ix.Keyed) : e ∈ ix.edges g ↔ ix.GivesEdge g.calls e := by
  have hget : ∀ {s}, s ∈ ix.all → ix.get? s.id = some s := hk.get?_of_mem
  unfold edges
  simp only [List.mem_append, List.mem_flatMap, Symbol.edges, List.mem_map, Option.mem_toList,
    Option.map_eq_some_iff]
  refine ⟨?_, fun h => ?_⟩
  · rintro (((⟨s, hs, (⟨p, hp, rfl⟩ | ⟨n, hn, rfl⟩) | ⟨t, ht, rfl⟩⟩ | ⟨r, hr, rfl⟩) | ⟨r, hr, rfl⟩) |
      ⟨c, hc, rfl⟩)
    · exact .contains (Option.bind_eq_some_iff.2 ⟨s, hget hs, hp⟩)
    · exact .scopeContains (hget hs) hn
    · exact .aliasOf (hget hs) ht
    · exact .inherits hr
    · exact .overrides hr
    · exact .calls hc
  · have hmem : ∀ {id x}, ix.get? id = some x → x ∈ ix.all ∧ x.id = id := fun hx =>
      ⟨mem_all.2 ⟨_, hx⟩, hk.id_of_get? hx⟩
    cases h with
    | contains h =>
      obtain ⟨x, hx, hp⟩ := Option.bind_eq_some_iff.1 h
      obtain ⟨hm, rfl⟩ := hmem hx
      exact .inl (.inl (.inl ⟨x, hm, .inl (.inl ⟨_, hp, rfl⟩)⟩))
    | scopeContains hx h =>
      obtain ⟨hm, rfl⟩ := hmem hx
      exact .inl (.inl (.inl ⟨_, hm, .inl (.inr ⟨_, h, rfl⟩)⟩))
    | aliasOf hx h =>
      obtain ⟨hm, rfl⟩ := hmem hx
      exact .inl (.inl (.inl ⟨_, hm, .inr ⟨_, h, rfl⟩⟩))
    | inherits h => exact .inl (.inl (.inr ⟨_, h, rfl⟩))
    | overrides h => exact .inl (.inr ⟨_, h, rfl⟩)
    | calls h => exact .inr ⟨_, h, rfl⟩

theorem givesEdge_contains_iff {calls : List Call} :
    ix.GivesEdge calls ⟨a, b, .contains⟩ ↔ ix.parent? b = some a :=
  ⟨fun h => by cases h; assumption, .contains⟩

theorem givesEdge_calls_iff {calls : List Call} :
    ix.GivesEdge calls ⟨a, b, .calls⟩ ↔ ⟨a, b⟩ ∈ calls :=
  ⟨fun h => by cases h; assumption, .calls⟩

end Index

namespace Graph

variable {ix : Index} {calls : CallGraph} {e : Edge}

theorem contains_ofIndex (hk : ix.Keyed) (id : String) :
    (ofIndex ix calls).contains id = ix.contains id := by
  have hposition : (ofIndex ix calls).position = ((∅ : Graph).addSymbols ix.all).position :=
    position_foldl_addEdge ..
  have hcontains : (ofIndex ix calls).contains id = ((∅ : Graph).addSymbols ix.all).contains id :=
    congrArg (Table.contains · id) hposition
  rw [hcontains, Bool.eq_iff_iff, contains_addSymbols, Index.contains_iff]
  refine ⟨?_, ?_⟩
  · rintro (⟨s, hs, rfl⟩ | h)
    · exact ⟨s, hk.get?_of_mem hs⟩
    · cases h
  · rintro ⟨s, hs⟩
    exact .inl ⟨s, Index.mem_all.2 ⟨id, hs⟩, hk.id_of_get? hs⟩

/-- The node of an id is that of the symbol. -/
theorem find?_ofIndex (hk : ix.Keyed) (id : String) :
    (ofIndex ix calls).find? id = (ix.get? id).map .ofSymbol := by
  have hnodes : (ofIndex ix calls).nodes.toList = ix.all.map .ofSymbol := by
    refine (congrArg Array.toList (nodes_foldl_addEdge ..)).trans ?_
    exact nodes_addSymbols (nodup_map_of_ascending hk.pairwise_id) fun _ _ => rfl
  have hplaced : (ofIndex ix calls).Placed := by
    have h : ((∅ : Graph).addSymbols ix.all).Placed := placed_empty.addSymbols _
    unfold Placed ofIndex
    rw [position_foldl_addEdge, nodes_foldl_addEdge]
    exact h
  refine Option.ext fun n => ?_
  rw [hplaced.find?_eq_some_iff, ← Array.mem_toList_iff, hnodes, List.mem_map,
    Option.map_eq_some_iff]
  refine ⟨?_, ?_⟩
  · rintro ⟨⟨s, hs, rfl⟩, rfl⟩
    exact ⟨s, hk.get?_of_mem hs, rfl⟩
  · rintro ⟨s, hs, rfl⟩
    exact ⟨⟨s, Index.mem_all.2 ⟨id, hs⟩, rfl⟩, hk.id_of_get? hs⟩

/-- The edges of the graph are what the index and its calls stand for between different symbols. -/
theorem mem_edges_ofIndex (hk : ix.Keyed) : e ∈ (ofIndex ix calls).edges ↔
    ix.GivesEdge calls.calls e ∧ e.source ≠ e.target ∧ ix.contains e.source = true ∧
      ix.contains e.target = true := by
  have hjoins : ((∅ : Graph).addSymbols ix.all).joins e = (ofIndex ix calls).joins e := by
    unfold joins contains ofIndex
    rw [position_foldl_addEdge]
    rfl
  refine (mem_edges_foldl_addEdge ..).trans ?_
  show e ∈ ((∅ : Graph).addSymbols ix.all).edges ∨
    _ ∧ ((∅ : Graph).addSymbols ix.all).joins e = true ↔ _
  rw [edges_addSymbols, hjoins, joins_iff, contains_ofIndex hk, contains_ofIndex hk,
    List.mem_filter, Index.mem_edges_iff hk, decide_eq_true_eq, and_assoc]
  exact or_iff_right (Array.not_mem_empty e)

theorem nodup_edges_ofIndex : (ofIndex ix calls).edges.toList.Nodup := by
  refine nodup_edges_foldl_addEdge _ ?_
  show ((∅ : Graph).addSymbols ix.all).edges.toList.Nodup
  rw [edges_addSymbols]
  exact List.nodup_nil

end Graph

end SymbolAtlas
