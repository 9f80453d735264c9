import SymbolAtlas.Atlas
import SymbolAtlas.Graph.Query
import SymbolAtlas.Proofs.Calls.Stats
import SymbolAtlas.Proofs.Graph
import SymbolAtlas.Proofs.Reconcile.Frame

/-!
# Answers of the graph and of the tables

What the graph of a run answers is what the tables of the run say. A symbol has one parent and, as
chains of parents do not come back, not itself, so the graph knows it exactly if the index does
(`parent?_ofIndex`, `toList_children_ofIndex`). Calls join callables of the index, and the graph has
those of them that lead to another function (`callers_ofIndex`, `callees_ofIndex`,
`histogram_calls_add_recursive`). `Atlas.run_answers` says all of this of a run.
-/

namespace SymbolAtlas

/-- A set with at most one member begins with it. -/
theorem KeySet.head?_toList {s : KeySet String} {o : Option String}
    (h : ∀ k, k ∈ s ↔ o = some k) : s.toList.head? = o := by
  cases hl : s.toList with
  | nil =>
    symm
    refine Option.eq_none_iff_forall_ne_some.2 fun k hk => ?_
    have hmem := KeySet.mem_toList.2 ((h k).2 hk)
    rw [hl] at hmem
    cases hmem
  | cons k l =>
    have hmem : k ∈ s := KeySet.mem_toList.1 (hl ▸ List.mem_cons_self ..)
    exact ((h k).1 hmem).symm

namespace Graph

variable {g : Graph} {r : Relationship} {a b id : String}

theorem mem_successors : b ∈ g.successors r a ↔ ⟨a, b, r⟩ ∈ g.edges := by
  simp only [successors, KeySet.mem_ofList, List.mem_map, List.mem_filter, Array.mem_toList_iff,
    Bool.and_eq_true, decide_eq_true_eq]
  refine ⟨?_, fun h => ⟨_, ⟨h, rfl, rfl⟩, rfl⟩⟩
  rintro ⟨e, ⟨he, rfl, rfl⟩, rfl⟩
  exact he

theorem mem_predecessors : a ∈ g.predecessors r b ↔ ⟨a, b, r⟩ ∈ g.edges := by
  simp only [predecessors, KeySet.mem_ofList, List.mem_map, List.mem_filter, Array.mem_toList_iff,
    Bool.and_eq_true, decide_eq_true_eq]
  refine ⟨?_, fun h => ⟨_, ⟨h, rfl, rfl⟩, rfl⟩⟩
  rintro ⟨e, ⟨he, rfl, rfl⟩, rfl⟩
  exact he

/-- Leaving out the keys that count nothing changes no count. -/
theorem lookup_counts {α : Type} [DecidableEq α] (count : α → Nat) (k : α) (l : List α) :
    (((l.map fun a => (a, count a)).filter (·.2 ≠ 0)).lookup k).getD 0 =
      if k ∈ l then count k else 0 := by
  induction l with
  | nil => rfl
  | cons a l ih =>
    rw [List.map_cons]
    by_cases hzero : count a = 0
    · rw [List.filter_cons_of_neg (by simpa using hzero), ih]
      by_cases hk : k = a
      · simp [hk, hzero]
      · simp [hk]
    · rw [List.filter_cons_of_pos (by simpa using hzero), List.lookup_cons]
      by_cases hk : k = a
      · simp [hk]
      · rw [beq_eq_false_iff_ne.2 hk]
        simpa [hk] using ih

theorem lookup_histogram (g : Graph) (r : Relationship) :
    (g.histogram.lookup r).getD 0 = g.edges.countP (·.relationship = r) :=
  (lookup_counts _ r Relationship.all).trans (if_pos (by cases r <;> decide))

/-! ## Parents and children -/

section OfIndex
variable {ix : Index} {calls : CallGraph} (hk : ix.Keyed)
include hk

section Parents
variable (hself : ∀ id, ¬ix.ParentLink id id)
include hself

/-- The node above is that of the parent, if the index knows it. -/
theorem parent?_ofIndex (id : String) :
    (ofIndex ix calls).parent? id = (ix.parent? id).filter ix.contains := by
  refine KeySet.head?_toList fun p => ?_
  rw [mem_predecessors, mem_edges_ofIndex hk, Index.givesEdge_contains_iff,
    Option.filter_eq_some_iff]
  refine ⟨fun h => ⟨h.1, h.2.2.1⟩, fun h => ⟨h.1, ?_, h.2, ?_⟩⟩
  · intro (heq : p = id)
    exact hself id (heq ▸ h.1)
  · obtain ⟨x, hx, -⟩ := Option.bind_eq_some_iff.1 h.1
    exact Index.contains_iff.2 ⟨x, hx⟩

/-- The nodes below are those of the symbols with this parent, in id order. -/
theorem toList_children_ofIndex (hid : ix.contains id = true) :
    ((ofIndex ix calls).children id).toList =
      (ix.all.filter fun s => s.parentId = some id).map (·.id) := by
  refine (KeySet.ascending_toList _).eq_of_mem_iff ?_ fun c => ?_
  · exact List.pairwise_map.2 (hk.pairwise_id.filter _)
  · rw [KeySet.mem_toList, children, mem_successors, mem_edges_ofIndex hk,
      Index.givesEdge_contains_iff, List.mem_map]
    simp only [List.mem_filter, decide_eq_true_eq]
    refine ⟨?_, ?_⟩
    · rintro ⟨hp, -⟩
      obtain ⟨s, hs, hp⟩ := Option.bind_eq_some_iff.1 hp
      exact ⟨s, ⟨Index.mem_all.2 ⟨c, hs⟩, hp⟩, hk.id_of_get? hs⟩
    · rintro ⟨s, ⟨hs, hp⟩, rfl⟩
      have hget := hk.get?_of_mem hs
      have hlink : ix.parent? s.id = some id := Option.bind_eq_some_iff.2 ⟨s, hget, hp⟩
      refine ⟨hlink, ?_, hid, Index.contains_iff.2 ⟨s, hget⟩⟩
      rintro rfl
      exact hself s.id hlink

end Parents

/-! ## Calls -/

section Calls
variable (hknown : ∀ c ∈ calls.calls, ix.contains c.caller = true ∧ ix.contains c.callee = true)
include hknown

/-- The graph has the calls that lead to another function. -/
theorem mem_edges_calls_iff :
    ⟨a, b, .calls⟩ ∈ (ofIndex ix calls).edges ↔ ⟨a, b⟩ ∈ calls.calls ∧ a ≠ b := by
  rw [mem_edges_ofIndex hk, Index.givesEdge_calls_iff]
  exact and_congr_right fun h => and_iff_left (hknown _ h)

theorem callees_ofIndex (a : String) :
    (ofIndex ix calls).callees a = (calls.calleesOf a).erase a := by
  refine KeySet.ext_mem fun b => ?_
  rw [callees, mem_successors, mem_edges_calls_iff hk hknown, CallGraph.mem_calls, KeySet.mem_erase,
    and_comm, ne_comm]
  rfl

theorem callers_ofIndex (ht : calls.Transposed) (b : String) :
    (ofIndex ix calls).callers b = (calls.callersOf b).erase b := by
  refine KeySet.ext_mem fun a => ?_
  rw [callers, mem_predecessors, mem_edges_calls_iff hk hknown, KeySet.mem_erase, ht.mem_callersOf,
    and_comm]

theorem countP_calls_ofIndex : (ofIndex ix calls).edges.countP (·.relationship = .calls) =
    calls.calls.countP fun c => c.caller ≠ c.callee := by
  have hperm : ((ofIndex ix calls).edges.toList.filter (·.relationship = .calls)).Perm
      ((calls.calls.filter fun c => c.caller ≠ c.callee).map fun c => ⟨c.caller, c.callee, .calls⟩) := by
    refine (List.perm_ext_iff_of_nodup (nodup_edges_ofIndex.filter _) ?_).2 fun e => ?_
    · refine (calls.nodup_calls.filter _).map fun c d h => ?_
      cases c
      cases d
      cases h
      rfl
    · simp only [List.mem_map, List.mem_filter, Array.mem_toList_iff, decide_eq_true_eq]
      refine ⟨?_, ?_⟩
      · rintro ⟨he, hrel⟩
        obtain ⟨a, b, r⟩ := e
        cases hrel
        exact ⟨⟨a, b⟩, (mem_edges_calls_iff hk hknown).1 he, rfl⟩
      · rintro ⟨c, hc, rfl⟩
        exact ⟨(mem_edges_calls_iff hk hknown).2 hc, rfl⟩
  have hlength := hperm.length_eq
  rw [List.length_map, ← List.countP_eq_length_filter, ← List.countP_eq_length_filter] at hlength
  rw [← Array.countP_toList, hlength]

/-- The edges of calls and the recursive calls are together as many as there are calls. -/
theorem histogram_calls_add_recursive :
    ((ofIndex ix calls).histogram.lookup .calls).getD 0 + (CallStats.of ix calls).recursive =
      (CallStats.of ix calls).calls := by
  have hrecursive : (CallStats.of ix calls).recursive =
      calls.calls.countP fun c => c.caller = c.callee := calls.countP_recursive
  have hsize : (CallStats.of ix calls).calls = calls.calls.length := calls.size_eq_length
  have hsplit := List.length_eq_countP_add_countP (fun c : Call => c.caller = c.callee)
    (l := calls.calls)
  rw [lookup_histogram, countP_calls_ofIndex hk hknown, hrecursive, hsize, hsplit, Nat.add_comm]
  simp

end Calls

end OfIndex

end Graph

/-! ## Runs -/

namespace Atlas

/-- The graph of a run answers what its tables say. A symbol has its node. Above it is the node of
its parent, if the index has that, and below it, in id order and each once, are the symbols that name
it as their parent. Its callers and callees are those of the call graph without itself. The edges of
calls and the recursive calls are together as many as there are calls. -/
theorem run_answers (c : Config) {ix : Index} (hk : ix.Keyed) (spans : SpanTable) :
    let a := run c ix spans
    (∀ id, a.graph.find? id = (a.index.get? id).map .ofSymbol) ∧
      (∀ x ∈ a.index.all,
        a.graph.parent? x.id = x.parentId.filter a.index.contains ∧
        (a.graph.children x.id).toList =
          (a.index.all.filter fun s => s.parentId = some x.id).map (·.id) ∧
        a.graph.callers x.id = (a.calls.callersOf x.id).erase x.id ∧
        a.graph.callees x.id = (a.calls.calleesOf x.id).erase x.id ∧
        Ascending (a.graph.children x.id).toList ∧ Ascending (a.graph.callers x.id).toList ∧
        Ascending (a.graph.callees x.id).toList) ∧
      (a.graph.histogram.lookup .calls).getD 0 + a.stats.recursive = a.stats.calls := by
  intro a
  have hout : a.index.Keyed := hk.reconcile c spans
  have hcontains : ∀ id, a.index.isCallable id = true → a.index.contains id = true := fun _ =>
    Index.contains_of_isCallable_reconcile
  have hself : ∀ id, ¬a.index.ParentLink id id := fun id h =>
    Index.breakCycles_acyclic (ix.resolved c spans) id (.single h)
  have hcalls : ∀ d, d ∈ a.calls.calls ↔ d ∈ a.index.callsFrom a.index.callerSource := fun _ =>
    CallGraph.mem_calls_ofCalls
  have htransposed : a.calls.Transposed := CallGraph.transposed_ofCalls _ _
  have hgraph : a.graph = .ofIndex a.index a.calls := rfl
  have hstats : a.stats = .of a.index a.calls := rfl
  clear_value a
  have hknown : ∀ d ∈ a.calls.calls,
      a.index.contains d.caller = true ∧ a.index.contains d.callee = true := fun d hd => by
    have h := hout.isCallable_of_mem_callsFrom ((hcalls d).1 hd)
    exact h.imp (hcontains d.caller) (hcontains d.callee)
  rw [hgraph, hstats]
  refine ⟨Graph.find?_ofIndex hout, fun x hx => ?_,
    Graph.histogram_calls_add_recursive hout hknown⟩
  have hget := hout.get?_of_mem hx
  have hparent : a.index.parent? x.id = x.parentId := by
    rw [Index.parent?, hget, Option.bind_some]
  refine ⟨?_, Graph.toList_children_ofIndex hout hself (Index.contains_iff.2 ⟨x, hget⟩),
    Graph.callers_ofIndex hout hknown htransposed x.id, Graph.callees_ofIndex hout hknown x.id,
    KeySet.ascending_toList _, KeySet.ascending_toList _, KeySet.ascending_toList _⟩
  rw [Graph.parent?_ofIndex hout hself, hparent]

/-- A class that declares a method, which calls itself, and a function that calls the method. -/
def methodIndex : Index :=
  let refer := fun (kind line : UInt32) (container : String) =>
    (⟨⟨kind⟩, ⟨"f", .lines line line⟩, some container⟩ : Reference)
  .withFormat (.ofSymbols
    [{ id := "c", name := "C", kind := .classType, definition := some ⟨"f", .lines 1 1⟩ },
      { id := "f", name := "f", kind := .function, definition := some ⟨"f", .lines 8 8⟩ },
      { id := "m", name := "m", kind := .instanceMethod, declaration := some ⟨"f", .lines 2 2⟩
        references := [refer 1 2 "c", refer 20 5 "m", refer 20 9 "f"] }]) true true

/-- The method has the class above it and the function as its caller; that it calls itself is counted
and no edge. -/
theorem run_methodIndex :
    let a := run {} methodIndex ∅
    methodIndex.WellFormed ∧ a.graph.parent? "m" = some "c" ∧
      (a.graph.children "c").toList = ["m"] ∧ (a.graph.callers "m").toList = ["f"] ∧
      a.stats.calls = 2 ∧ (a.graph.histogram.lookup .calls).getD 0 = 1 := by
  intro a
  have hw : methodIndex.WellFormed := (Index.WellFormed.ofSymbols _).withFormat true true
  have hall : a.index.all.map (fun s => (s.id, s.parentId)) =
      [("c", none), ("f", none), ("m", some "c")] := by decide
  obtain ⟨-, hanswers, hcount⟩ := run_answers {} hw.toKeyed ∅
  have hanswer : ∀ id parent, (id, parent) ∈ a.index.all.map (fun s => (s.id, s.parentId)) →
      ∃ x ∈ a.index.all, x.id = id ∧ x.parentId = parent := fun id parent h => by
    obtain ⟨x, hx, he⟩ := List.mem_map.1 h
    exact ⟨x, hx, (Prod.mk.inj he).1, (Prod.mk.inj he).2⟩
  obtain ⟨c, hc, hcid, -⟩ := hanswer "c" none (by rw [hall]; decide)
  obtain ⟨m, hm, hmid, hmparent⟩ := hanswer "m" (some "c") (by rw [hall]; decide)
  obtain ⟨-, hchildren, -⟩ := hanswers c hc
  obtain ⟨hparent, -, hcallers, -⟩ := hanswers m hm
  rw [hcid] at hchildren
  rw [hmid, hmparent] at hparent
  rw [hmid] at hcallers
  have hcallersOf : ((a.calls.callersOf "m").erase "m").toList = ["f"] := by decide
  have hcalls : a.stats.calls = 2 := by decide
  have hrecursive : a.stats.recursive = 1 := by decide
  have hedges : (a.graph.histogram.lookup .calls).getD 0 + a.stats.recursive = a.stats.calls := hcount
  exact ⟨hw, hparent.trans (by decide), hchildren.trans (by decide),
    (congrArg KeySet.toList hcallers).trans hcallersOf, hcalls, by omega⟩

end Atlas

end SymbolAtlas
