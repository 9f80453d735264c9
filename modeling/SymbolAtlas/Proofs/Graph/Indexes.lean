import Mathlib
import SymbolAtlas.Proofs.Graph.Built

/-!
# The indexes of a graph

A graph keeps its nodes in a row, and beside it where each id and each file has its nodes. A node
that is added goes to the end of the row and into both indexes, or nowhere if its id has come
before, so that the row holds the first node of each id (`Built.nodes_eq`) and the indexes find what
a search of the row would find (`ofChanges_exact`).
-/

namespace SymbolAtlas.Graph

variable {g : Graph} {n : Node} {file : String}

/-! ## The first node of each id -/

/-- The nodes that came when none before them had their id. -/
def firstOfEach : List Node → List Node
  | [] => []
  | n :: ns => n :: (firstOfEach ns).filter (·.id ≠ n.id)

theorem firstOfEach_concat_of_new {ns : List Node} (h : ∀ m ∈ ns, m.id ≠ n.id) :
    firstOfEach (ns ++ [n]) = firstOfEach ns ++ [n] := by
  induction ns with
  | nil => rfl
  | cons m ns ih =>
    obtain ⟨hm, hns⟩ := List.forall_mem_cons.1 h
    rw [List.cons_append, firstOfEach, ih hns, List.filter_append, firstOfEach, List.cons_append,
      List.filter_singleton, decide_eq_true hm.symm]
    rfl

theorem firstOfEach_concat_of_mem {ns : List Node} (h : ∃ m ∈ ns, m.id = n.id) :
    firstOfEach (ns ++ [n]) = firstOfEach ns := by
  induction ns with
  | nil => exact absurd h (by simp)
  | cons m ns ih =>
    rw [List.cons_append, firstOfEach, firstOfEach]
    by_cases hns : ∃ x ∈ ns, x.id = n.id
    · rw [ih hns]
    · have hid : m.id = n.id := ((List.exists_mem_cons_iff _ _ _).1 h).resolve_right hns
      rw [firstOfEach_concat_of_new fun x hx hxn => hns ⟨x, hx, hxn⟩, List.filter_append]
      simp [hid]

theorem nodup_firstOfEach (ns : List Node) : ((firstOfEach ns).map (·.id)).Nodup := by
  induction ns with
  | nil => exact List.nodup_nil
  | cons n ns ih =>
    rw [firstOfEach, List.map_cons, List.nodup_cons]
    refine ⟨?_, ih.sublist (List.filter_sublist.map _)⟩
    rw [List.mem_map]
    rintro ⟨m, hm, hid⟩
    simpa [hid] using (List.mem_filter.1 hm).2

/-! ## Nodes of a file -/

/-- The positions of files are positions of nodes. -/
def Filed (g : Graph) : Prop := ∀ file, ∀ i ∈ g.byFile.getD file [], i < g.nodes.size

theorem getD_fileAway (t : Table String (List Nat)) (f : Option String) (i : Nat) :
    (fileAway t f i).getD file [] = t.getD file [] ++ if f = some file then [i] else [] := by
  cases f with
  | none => simp [fileAway]
  | some f =>
    rw [fileAway, Table.getD_push]
    by_cases h : file = f
    · simp [h]
    · simp [h, Ne.symm h]

theorem byFile_addNode (h : g.contains n.id = false) :
    (g.addNode n).byFile = fileAway g.byFile n.file g.nodes.size := by
  rw [addNode, h]
  rfl

theorem addNode_of_contains (h : g.contains n.id = true) : g.addNode n = g := by
  rw [addNode, h]
  rfl

theorem Filed.addNode (h : g.Filed) (n : Node) : (g.addNode n).Filed := by
  cases hnew : g.contains n.id with
  | true => rwa [addNode_of_contains hnew]
  | false =>
    intro file i hi
    rw [byFile_addNode hnew, getD_fileAway, List.mem_append] at hi
    rw [nodes_addNode hnew, Array.size_push]
    rcases hi with hi | hi
    · exact Nat.lt_succ_of_lt (h file i hi)
    · split at hi
      · rw [List.mem_singleton.1 hi]
        exact Nat.lt_succ_self _
      · cases hi

/-- A new node comes last in its file, and the positions filed before it hold what they held. -/
theorem Filed.nodesIn_addNode (h : g.Filed) (hnew : g.contains n.id = false) (file : String) :
    (g.addNode n).nodesIn file = g.nodesIn file ++ if n.file = some file then [n] else [] := by
  have hold : (g.byFile.getD file []).filterMap ((g.nodes.push n)[·]?) = g.nodesIn file :=
    List.filterMap_congr fun i hi => by
      rw [Array.getElem?_push, if_neg (h file i hi).ne]
  rw [nodesIn, byFile_addNode hnew, getD_fileAway, nodes_addNode hnew, List.filterMap_append, hold]
  split
  · simp
  · rfl

theorem byFile_addEdge (g : Graph) (e : Edge) : (g.addEdge e).byFile = g.byFile := by
  unfold addEdge
  split <;> rfl

/-! ## Graphs that were built -/

namespace Built

variable {ns : List Node} {es : List Edge}

theorem contains_iff (h : Built ns es g) (id : String) :
    g.contains id = true ↔ ∃ n ∈ ns, n.id = id := by
  rw [← h.placed.isSome_find?, h.find?_eq, List.find?_isSome]
  simp

theorem nodes_eq (h : Built ns es g) : g.nodes.toList = firstOfEach ns := by
  induction h with
  | empty => rfl
  | @addNode ns _ g h n ih =>
    cases hnew : g.contains n.id with
    | true =>
      rw [addNode_of_contains hnew, firstOfEach_concat_of_mem ((h.contains_iff _).1 hnew), ih]
    | false =>
      have hfirst : ∀ m ∈ ns, m.id ≠ n.id := fun m hm hid =>
        Bool.eq_false_iff.1 hnew ((h.contains_iff _).2 ⟨m, hm, hid⟩)
      rw [nodes_addNode hnew, Array.toList_push, firstOfEach_concat_of_new hfirst, ih]
  | addEdge _ _ ih => rw [nodes_addEdge, ih]

theorem filed (h : Built ns es g) : g.Filed := by
  induction h with
  | empty => exact fun _ _ hi => nomatch hi
  | addNode _ n ih => exact ih.addNode n
  | addEdge _ _ ih =>
    unfold Filed
    rwa [byFile_addEdge, nodes_addEdge]

theorem nodesIn_eq (h : Built ns es g) (file : String) :
    g.nodesIn file = g.nodes.toList.filter (·.file = some file) := by
  induction h with
  | empty => rfl
  | @addNode _ _ g h n ih =>
    cases hnew : g.contains n.id with
    | true => rw [addNode_of_contains hnew, ih]
    | false =>
      rw [h.filed.nodesIn_addNode hnew, nodes_addNode hnew, Array.toList_push, List.filter_append,
        ih]
      congr 1
      split <;> simp_all
  | addEdge _ _ ih =>
    unfold nodesIn
    rwa [byFile_addEdge, nodes_addEdge]

end Built

/-! ## Sequences of changes -/

/-- A node or an edge that is to be added. -/
inductive Change where
  | node (n : Node)
  | edge (e : Edge)

def Change.node? : Change → Option Node
  | .node n => some n
  | .edge _ => none

def change (g : Graph) : Change → Graph
  | .node n => g.addNode n
  | .edge e => g.addEdge e

/-- The graph after the changes, in their order. -/
def ofChanges (changes : List Change) : Graph := changes.foldl change ∅

/-- The nodes among the changes. -/
def nodesOf (changes : List Change) : List Node := changes.filterMap Change.node?

variable {e : Edge}

theorem ofChanges_concat (changes : List Change) (c : Change) :
    ofChanges (changes ++ [c]) = (ofChanges changes).change c := List.foldl_concat ..

/-- Edges that do not join nodes are left out, so what is added makes a graph that was built. -/
theorem exists_built (changes : List Change) :
    ∃ es, Built (nodesOf changes) es (ofChanges changes) := by
  induction changes using List.reverseRecOn with
  | nil => exact ⟨[], .empty⟩
  | append_singleton changes c ih =>
    obtain ⟨es, h⟩ := ih
    rw [ofChanges_concat, nodesOf, List.filterMap_append, ← nodesOf]
    cases c with
    | node n => exact ⟨es, h.addNode n⟩
    | edge e =>
      rw [show [Change.edge e].filterMap Change.node? = [] from rfl, List.append_nil]
      cases he : (ofChanges changes).joins e with
      | true => exact ⟨es ++ [e], h.addEdge he⟩
      | false =>
        refine ⟨es, ?_⟩
        rwa [change, addEdge, he]

/-- An item of a list is the last one or one of those before it. -/
theorem exists_split_concat_iff {α : Type} {l : List α} {a x : α} {P : List α → Prop} :
    (∃ before after, l ++ [a] = before ++ x :: after ∧ P before) ↔
      (∃ before after, l = before ++ x :: after ∧ P before) ∨ (a = x ∧ P l) := by
  refine ⟨?_, ?_⟩
  · rintro ⟨before, after, heq, hP⟩
    rcases List.eq_nil_or_concat after with rfl | ⟨rest, b, rfl⟩
    · obtain ⟨rfl, ha⟩ := List.append_inj' heq rfl
      exact .inr ⟨List.singleton_inj.1 ha, hP⟩
    · rw [List.concat_eq_append, ← List.cons_append, ← List.append_assoc] at heq
      exact .inl ⟨before, rest, (List.append_inj' heq rfl).1, hP⟩
  · rintro (⟨before, after, rfl, hP⟩ | ⟨rfl, hP⟩)
    · exact ⟨before, after ++ [a], by rw [List.append_assoc, List.cons_append], hP⟩
    · exact ⟨l, [], rfl, hP⟩

/-- The edges are those that came when both of their ends had. -/
theorem mem_edges_ofChanges (changes : List Change) :
    e ∈ (ofChanges changes).edges ↔ ∃ before after, changes = before ++ .edge e :: after ∧
      (ofChanges before).joins e = true := by
  induction changes using List.reverseRecOn with
  | nil => simp [ofChanges, EmptyCollection.emptyCollection]
  | append_singleton changes c ih =>
    rw [exists_split_concat_iff, ← ih, ofChanges_concat]
    cases c with
    | node n => simp [change, edges_addNode]
    | edge d => rw [change, mem_edges_addEdge, Change.edge.injEq, eq_comm (a := d)]

/-- Whatever is added in whatever order, ids of nodes are distinct; what is found under an id is the
one node that has it, and under a file the nodes that are in it in the order in which they came; a
node is the first that came with its id; and no two edges agree in their ends and relationship. -/
theorem ofChanges_exact (changes : List Change) :
    let g := ofChanges changes
    (g.nodes.toList.map (·.id)).Nodup ∧
      (∀ id n, g.find? id = some n ↔ n ∈ g.nodes ∧ n.id = id) ∧
      (∀ id, g.find? id = none ↔ ∀ n ∈ g.nodes, n.id ≠ id) ∧
      (∀ file, g.nodesIn file = g.nodes.toList.filter (·.file = some file)) ∧
      g.nodes.toList = firstOfEach (nodesOf changes) ∧
      (∀ id, g.find? id = (nodesOf changes).find? (·.id = id)) ∧
      g.edges.toList.Pairwise (fun d e =>
        ¬(d.source = e.source ∧ d.target = e.target ∧ d.relationship = e.relationship)) ∧
      ∀ e, e ∈ g.edges ↔ ∃ before after, changes = before ++ .edge e :: after ∧
        (ofChanges before).joins e = true := by
  intro g
  obtain ⟨es, h⟩ := exists_built changes
  have hfind : ∀ {id n}, g.find? id = some n ↔ n ∈ g.nodes ∧ n.id = id :=
    h.placed.find?_eq_some_iff
  refine ⟨?_, fun _ _ => hfind, fun id => ?_, h.nodesIn_eq, h.nodes_eq, h.find?_eq, ?_,
    fun _ => mem_edges_ofChanges changes⟩
  · rw [h.nodes_eq]
    exact nodup_firstOfEach _
  · rw [Option.eq_none_iff_forall_ne_some]
    exact ⟨fun hnone n hn hid => hnone n (hfind.2 ⟨hn, hid⟩),
      fun hnone n hn => hnone n (hfind.1 hn).1 (hfind.1 hn).2⟩
  · refine h.nodup_edges.imp ?_
    rintro ⟨_, _, _⟩ ⟨_, _, _⟩ hne ⟨rfl, rfl, rfl⟩
    exact hne rfl

end SymbolAtlas.Graph
