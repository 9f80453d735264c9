import Mathlib
import SymbolAtlas.Context
import SymbolAtlas.Proofs.Graph
import SymbolAtlas.Proofs.Order

/-!
# Graphs that were built

`Built ns es g` says that `g` was built by adding the nodes `ns` and the edges `es`, each list in the
order in which its items came. What can be read from such a graph is told by the lists: the node of
an id is the first that came with it (`Built.find?_eq`), and the edges are those that came, each once
(`Built.mem_edges`, `Built.nodup_edges`). The steps out of a node come sorted, so they are told by
the set of the edges (`steps_eq_of_perm`), and with them what is related to a node and its context
(`Built.context_eq`).
-/

namespace SymbolAtlas.Graph

open Std

variable {g g' : Graph} {n : Node} {e : Edge} {id : String}

/-! ## Finding nodes -/

theorem Placed.isSome_find? (h : g.Placed) (id : String) : (g.find? id).isSome = g.contains id := by
  rw [Bool.eq_iff_iff, contains, Table.contains_iff, Option.isSome_iff_exists]
  refine ⟨?_, ?_⟩
  · rintro ⟨n, hn⟩
    obtain ⟨i, hi, -⟩ := Option.bind_eq_some_iff.1 hn
    exact ⟨i, hi⟩
  · rintro ⟨i, hi⟩
    obtain ⟨n, hn, -⟩ := (h id i).1 hi
    exact ⟨n, Option.bind_eq_some_iff.2 ⟨i, hi, hn⟩⟩

theorem Placed.addEdge (h : g.Placed) (e : Edge) : (g.addEdge e).Placed := by
  unfold Placed
  rw [position_addEdge, nodes_addEdge]
  exact h

theorem find?_addEdge (g : Graph) (e : Edge) : (g.addEdge e).find? id = g.find? id := by
  unfold find?
  rw [position_addEdge, nodes_addEdge]

/-- The node of an id stays when another comes with the id. -/
theorem Placed.find?_addNode (h : g.Placed) (n : Node) :
    (g.addNode n).find? id = (g.find? id).or (if n.id = id then some n else none) := by
  by_cases hn : g.contains n.id = true
  · rw [Graph.addNode, if_pos hn]
    by_cases hid : n.id = id
    · subst hid
      rw [← h.isSome_find?] at hn
      rw [Option.or_of_isSome hn]
    · rw [if_neg hid, Option.or_none]
  · have hnone : g.find? n.id = none := by
      rwa [← Option.not_isSome_iff_eq_none, h.isSome_find?]
    refine Option.ext fun m => ?_
    rw [(h.addNode n).find?_eq_some_iff, nodes_addNode (Bool.eq_false_iff.2 hn), Array.mem_push,
      or_and_right, ← h.find?_eq_some_iff]
    by_cases hid : n.id = id
    · subst hid
      rw [hnone, if_pos rfl, Option.none_or]
      refine ⟨?_, fun hm => .inr ?_⟩
      · rintro (hm | ⟨rfl, -⟩)
        · cases hm
        · rfl
      · cases hm
        exact ⟨rfl, rfl⟩
    · rw [if_neg hid, Option.or_none]
      refine or_iff_left ?_
      rintro ⟨rfl, hm⟩
      exact hid hm

/-! ## Building -/

/-- The graph was built by adding these nodes and these edges, each between nodes that were there. -/
inductive Built : List Node → List Edge → Graph → Prop
  | empty : Built [] [] ∅
  | addNode {ns : List Node} {es : List Edge} {g : Graph} (h : Built ns es g) (n : Node) :
    Built (ns ++ [n]) es (g.addNode n)
  | addEdge {ns : List Node} {es : List Edge} {g : Graph} (h : Built ns es g) {e : Edge}
    (he : g.joins e = true) : Built ns (es ++ [e]) (g.addEdge e)

namespace Built

variable {ns ns' : List Node} {es es' : List Edge}

theorem placed (h : Built ns es g) : g.Placed := by
  induction h with
  | empty => exact placed_empty
  | addNode _ n ih => exact ih.addNode n
  | addEdge _ _ ih => exact ih.addEdge _

/-- The node of an id is the first that came with it. -/
theorem find?_eq (h : Built ns es g) (id : String) : g.find? id = ns.find? (·.id = id) := by
  induction h with
  | empty => rfl
  | addNode h n ih =>
    rw [h.placed.find?_addNode, ih, List.find?_append, List.find?_singleton]
    simp
  | addEdge _ _ ih => rw [find?_addEdge, ih]

theorem mem_edges (h : Built ns es g) : e ∈ g.edges ↔ e ∈ es := by
  induction h with
  | empty => simp [EmptyCollection.emptyCollection]
  | addNode _ n ih => rw [edges_addNode, ih]
  | addEdge _ he ih =>
    rw [mem_edges_addEdge, ih, List.mem_append, List.mem_singleton]
    refine or_congr_right ⟨And.left, ?_⟩
    rintro rfl
    exact ⟨rfl, he⟩

theorem nodup_edges (h : Built ns es g) : g.edges.toList.Nodup := by
  induction h with
  | empty => exact List.nodup_nil
  | addNode _ n ih => rwa [edges_addNode]
  | addEdge _ _ ih => exact nodup_edges_addEdge ih

/-- Where ids are distinct it does not matter in which order the nodes came. -/
theorem find?_congr (h : Built ns es g) (h' : Built ns' es' g') (hnodes : ∀ n, n ∈ ns ↔ n ∈ ns')
    (hids : ∀ n ∈ ns, ∀ m ∈ ns, n.id = m.id → n = m) : g.find? = g'.find? := by
  have hfind : ∀ {l : List Node}, (∀ n, n ∈ ns ↔ n ∈ l) → ∀ {id n},
      l.find? (·.id = id) = some n ↔ n ∈ ns ∧ n.id = id := by
    intro l hl id n
    refine ⟨fun hn => ⟨(hl n).2 (List.mem_of_find?_eq_some hn), by simpa using List.find?_some hn⟩, ?_⟩
    rintro ⟨hn, rfl⟩
    have hsome : (l.find? (·.id = n.id)).isSome = true :=
      List.find?_isSome.2 ⟨n, (hl n).1 hn, by simp⟩
    obtain ⟨m, hm⟩ := Option.isSome_iff_exists.1 hsome
    have hid : m.id = n.id := by simpa using List.find?_some hm
    rw [hm, hids m ((hl m).2 (List.mem_of_find?_eq_some hm)) n hn hid]
  refine funext fun id => Option.ext fun n => ?_
  rw [h.find?_eq, h'.find?_eq, hfind fun _ => Iff.rfl, hfind hnodes]

theorem perm_edges (h : Built ns es g) (h' : Built ns' es' g') (hedges : ∀ e, e ∈ es ↔ e ∈ es') :
    g.edges.toList.Perm g'.edges.toList := by
  refine (List.perm_ext_iff_of_nodup h.nodup_edges h'.nodup_edges).2 fun e => ?_
  rw [Array.mem_toList_iff, Array.mem_toList_iff, h.mem_edges, h'.mem_edges, hedges]

end Built

/-! ## Steps -/

/-- The order in which edges were added does not show in the steps, which are sorted by id and
relationship. -/
theorem steps_eq_of_perm (h : g.edges.toList.Perm g'.edges.toList) : g.steps = g'.steps := by
  funext id
  have hout := (h.filter (·.source = id)).map fun e => (e.target, e.relationship)
  have hback := (h.filter (·.target = id)).map fun e => (e.source, e.relationship)
  let _ : Ord (String × Relationship) := lexOrd
  exact mergeSort_eq_of_perm (hout.append hback)

/-! ## Context -/

/-- Context is told by what is found under ids and by the steps. -/
theorem context_congr (hfind : g.find? = g'.find?) (hsteps : g.steps = g'.steps) (id : String)
    (reach : Reach) : g.context id reach = g'.context id reach := by
  have hnode : RelatedNode.ofReached g = RelatedNode.ofReached g' := by
    funext r
    rw [RelatedNode.ofReached, RelatedNode.ofReached, hfind]
  unfold context related
  rw [hfind, hsteps, hnode]

/-- Graphs that were built from the same nodes, with distinct ids, and the same edges, in whatever
order and however often each came, give the same related nodes in the same order, with distances and
trails, and the same context. -/
theorem Built.context_eq {ns ns' : List Node} {es es' : List Edge} (h : Built ns es g)
    (h' : Built ns' es' g') (hnodes : ∀ n, n ∈ ns ↔ n ∈ ns')
    (hids : ∀ n ∈ ns, ∀ m ∈ ns, n.id = m.id → n = m) (hedges : ∀ e, e ∈ es ↔ e ∈ es')
    (id : String) :
    (∀ depth, g.related id depth = g'.related id depth) ∧
      ∀ reach, g.context id reach = g'.context id reach := by
  have hfind : g.find? = g'.find? := h.find?_congr h' hnodes hids
  have hsteps : g.steps = g'.steps := steps_eq_of_perm (h.perm_edges h' hedges)
  refine ⟨fun depth => ?_, fun reach => context_congr hfind hsteps id reach⟩
  rw [related, related, hsteps]

/-- A function with a body of so many lines. -/
def sizedNode (id : String) (lines : UInt32) : Node :=
  { id, name := id, kind := .function, label := none, file := none, body := some (.lines 1 lines) }

/-- A function that calls one of the two which it contains. -/
def callsFirst : Graph :=
  ((((((∅ : Graph).addNode (sizedNode "f" 9)).addNode (sizedNode "g" 3)).addNode
    (sizedNode "h" 4)).addEdge ⟨"f", "h", .calls⟩).addEdge ⟨"f", "h", .contains⟩).addEdge
    ⟨"f", "g", .contains⟩

/-- The same graph, built the other way round and with an edge that comes twice. -/
def containsFirst : Graph :=
  (((((((∅ : Graph).addNode (sizedNode "h" 4)).addNode (sizedNode "g" 3)).addNode
    (sizedNode "f" 9)).addEdge ⟨"f", "g", .contains⟩).addEdge ⟨"f", "h", .contains⟩).addEdge
    ⟨"f", "h", .calls⟩).addEdge ⟨"f", "h", .contains⟩

/-- The function that is only contained. One step away its score is half the weight of the step. -/
def containedNode : RelatedNode := ⟨sizedNode "g" 3, [.contains], 1, 0.35⟩

/-- The function that is called too. Of its two edges the trail has the call. -/
def calledNode : RelatedNode := ⟨sizedNode "h" 4, [.calls], 1, 0.5⟩

/-- The function that is called comes first, although its id is the greater. -/
theorem context_ranked : callsFirst.context "f" .direct =
    .ok ⟨sizedNode "f" 9, [calledNode, containedNode], 16⟩ := by
  have hfind : callsFirst.find? "f" = some (sizedNode "f" 9) := by cbv
  have hrelated : callsFirst.related "f" 1 = [⟨"g", 1, [.contains]⟩, ⟨"h", 1, [.calls]⟩] := by cbv
  have hcontained :
      RelatedNode.ofReached callsFirst ⟨"g", 1, [.contains]⟩ = some containedNode := by
    have hg : callsFirst.find? "g" = some (sizedNode "g" 3) := by cbv
    have hscore : RelatedNode.relevance 1 [.contains] = 0.35 := by decide +kernel
    rw [RelatedNode.ofReached, hg, Option.map_some, hscore, containedNode]
  have hcalled : RelatedNode.ofReached callsFirst ⟨"h", 1, [.calls]⟩ = some calledNode := by
    have hh : callsFirst.find? "h" = some (sizedNode "h" 4) := by cbv
    have hscore : RelatedNode.relevance 1 [.calls] = 0.5 := by decide +kernel
    rw [RelatedNode.ofReached, hh, Option.map_some, hscore, calledNode]
  have hrank : RelatedNode.rankOrder containedNode calledNode = false := by decide +kernel
  have hsort : [containedNode, calledNode].mergeSort RelatedNode.rankOrder =
      [calledNode, containedNode] := by
    simp [List.mergeSort, List.MergeSort.Internal.splitInTwo, hrank]
  have htotal : (sizedNode "f" 9).lineCount +
      total ([calledNode, containedNode].map (·.node.lineCount)) = 16 := by decide
  simp only [context, hfind, Reach.depth, hrelated, List.filterMap_cons, hcontained, hcalled,
    List.filterMap_nil, hsort, htotal]

/-- Whichever edge came first, the trail takes the call of two parallel ones, the function that is
called comes before the other with the higher score, and the lines of three bodies are counted. -/
theorem context_callsFirst :
    callsFirst.edges =
        #[⟨"f", "h", .calls⟩, ⟨"f", "h", .contains⟩, ⟨"f", "g", .contains⟩] ∧
      containsFirst.edges =
        #[⟨"f", "g", .contains⟩, ⟨"f", "h", .contains⟩, ⟨"f", "h", .calls⟩] ∧
      callsFirst.related "f" 1 = [⟨"g", 1, [.contains]⟩, ⟨"h", 1, [.calls]⟩] ∧
      callsFirst.related "f" 1 = containsFirst.related "f" 1 ∧
      callsFirst.context "f" .direct = .ok ⟨sizedNode "f" 9, [calledNode, containedNode], 16⟩ ∧
      callsFirst.context "f" .direct = containsFirst.context "f" .direct := by
  have h : Built [sizedNode "f" 9, sizedNode "g" 3, sizedNode "h" 4]
      [⟨"f", "h", .calls⟩, ⟨"f", "h", .contains⟩, ⟨"f", "g", .contains⟩] callsFirst :=
    (((((Built.empty.addNode _).addNode _).addNode _).addEdge (by cbv)).addEdge (by cbv)).addEdge
      (by cbv)
  have h' : Built [sizedNode "h" 4, sizedNode "g" 3, sizedNode "f" 9]
      [⟨"f", "g", .contains⟩, ⟨"f", "h", .contains⟩, ⟨"f", "h", .calls⟩, ⟨"f", "h", .contains⟩]
      containsFirst :=
    ((((((Built.empty.addNode _).addNode _).addNode _).addEdge (by cbv)).addEdge (by cbv)).addEdge
      (by cbv)).addEdge (by cbv)
  have hnodes : ∀ n, n ∈ [sizedNode "f" 9, sizedNode "g" 3, sizedNode "h" 4] ↔
      n ∈ [sizedNode "h" 4, sizedNode "g" 3, sizedNode "f" 9] := fun n =>
    (List.reverse_perm [sizedNode "h" 4, sizedNode "g" 3, sizedNode "f" 9]).mem_iff
  have hsame := h.context_eq h' hnodes (by decide) (by grind) "f"
  exact ⟨by cbv, by cbv, by cbv, hsame.1 1, context_ranked, hsame.2 .direct⟩

end SymbolAtlas.Graph
