import Mathlib
import SymbolAtlas.Proofs.Calls.Callers

/-!
# Counts of a call graph

The counts of a call graph are sizes of the set of its callers, of the set of its callees, and of
what these share and leave each other (`KeySet.size_union`, `KeySet.size_inter_add_diff`), so they
add up for every graph. Two bounds need more: that a graph lists no caller without calls
(`CallGraph.Filled.callers_le_calls`), and where its callers and callees come from. Calls found by
place start in functions with bodies (`Index.callers_le_functionsWithBodies`), and all calls of an
index join callables of it, whose number bounds the rest (`Index.counts_callGraphFrom`).
-/

namespace SymbolAtlas

open Std

/-! ## Sizes of sets -/

namespace KeySet

variable {κ : Type} [Ord κ]

theorem size_inter_add_diff (s t : KeySet κ) : (s.inter t).size + (s.diff t).size = s.size := by
  simp only [← length_toList, inter, diff, toList_filter]
  exact (List.length_eq_length_filter_add t.contains).symm

variable [LawfulEqOrd κ] {s t : KeySet κ} {l : List κ}

/-- A list that has all members of a set is at least as long. -/
theorem size_le_length (h : ∀ k, k ∈ s → k ∈ l) : s.size ≤ l.length := by
  rw [← length_toList]
  refine (List.subperm_of_subset s.nodup_toList fun k hk => ?_).length_le
  exact h k (mem_toList.1 hk)

/-- A list of members of a set, each listed once, is at most as long. -/
theorem length_le_size (hl : l.Nodup) (h : ∀ k ∈ l, k ∈ s) : l.length ≤ s.size := by
  rw [← length_toList]
  refine (List.subperm_of_subset hl fun k hk => ?_).length_le
  exact mem_toList.2 (h k hk)

theorem mem_diff {k : κ} : k ∈ s.diff t ↔ k ∈ s ∧ k ∉ t := by
  rw [diff, mem_filter, Bool.not_eq_true', ← Bool.not_eq_true, contains_iff]

variable [TransOrd κ]

theorem inter_comm (s t : KeySet κ) : s.inter t = t.inter s := by
  refine ext_mem fun k => ?_
  rw [← contains_iff, ← contains_iff, contains_inter, contains_inter, Bool.and_comm]

variable [DecidableEq κ]

theorem union_comm (s t : KeySet κ) : s.union t = t.union s := by
  refine ext_mem fun k => ?_
  rw [mem_union, mem_union, or_comm]

theorem size_union (s t : KeySet κ) : (s.union t).size = s.size + (t.diff s).size := by
  have happart : (s.toList ++ (t.diff s).toList).Nodup := by
    rw [List.nodup_append]
    refine ⟨s.nodup_toList, nodup_toList _, ?_⟩
    rintro k hk _ hd rfl
    exact (mem_diff.1 (mem_toList.1 hd)).2 (mem_toList.1 hk)
  have hperm : (s.union t).toList.Perm (s.toList ++ (t.diff s).toList) := by
    refine (List.perm_ext_iff_of_nodup (nodup_toList _) happart).2 fun k => ?_
    rw [List.mem_append, mem_toList, mem_toList, mem_toList, mem_union, mem_diff]
    by_cases hk : k ∈ s <;> simp [hk]
  rw [← length_toList, hperm.length_eq, List.length_append, length_toList, length_toList]

end KeySet

/-! ## Counts of any graph -/

theorem Adjacency.mem_of_iff {a : Adjacency} {x y : String} :
    y ∈ a.of x ↔ ∃ ys, a.get? x = some ys ∧ y ∈ ys := by
  unfold Adjacency.of Table.getD
  cases a.get? x <;> simp

namespace CallStats

variable {g : CallGraph} {a b : String}

theorem mem_callerSet : a ∈ callerSet g ↔ g.callees.contains a = true := KeySet.mem_ofKeys

theorem mem_calleeSet : b ∈ calleeSet g ↔ ∃ a, ⟨a, b⟩ ∈ g.calls := by
  rw [calleeSet, KeySet.mem_ofList, List.mem_map]
  refine ⟨?_, fun ⟨_, h⟩ => ⟨_, h, rfl⟩⟩
  rintro ⟨c, hc, rfl⟩
  exact ⟨c.caller, hc⟩

theorem mem_callerSet_of_mem (h : ⟨a, b⟩ ∈ g.calls) : a ∈ callerSet g := by
  obtain ⟨ids, hids, -⟩ := Adjacency.mem_of_iff.1 (CallGraph.mem_calls.1 h)
  exact mem_callerSet.2 (Table.contains_iff.2 ⟨ids, hids⟩)

variable (ix : Index) (g : CallGraph)

theorem callers_add_leaves : (of ix g).callers + (of ix g).leaves = (of ix g).functionsInGraph :=
  (KeySet.size_union (callerSet g) (calleeSet g)).symm

theorem callees_add_entryPoints :
    (of ix g).callees + (of ix g).entryPoints = (of ix g).functionsInGraph := by
  show (calleeSet g).size + _ = ((callerSet g).union (calleeSet g)).size
  rw [KeySet.union_comm, KeySet.size_union]
  rfl

/-- A function that calls itself is a caller and a callee. -/
theorem recursive_le : (of ix g).recursive ≤ ((callerSet g).inter (calleeSet g)).size := by
  have hkeys : ((g.callees.entries.filter fun e => e.2.contains e.1).map (·.1)).Nodup :=
    g.callees.nodup_keys.sublist (List.filter_sublist.map _)
  show g.callees.entries.countP _ ≤ _
  rw [List.countP_eq_length_filter, ← List.length_map (f := (·.1))]
  refine KeySet.length_le_size hkeys fun id hid => ?_
  obtain ⟨e, he, rfl⟩ := List.mem_map.1 hid
  obtain ⟨hmem, hself⟩ := List.mem_filter.1 he
  have hcall : ⟨e.1, e.1⟩ ∈ g.calls :=
    CallGraph.mem_calls.2 (Adjacency.mem_of_iff.2 ⟨e.2, Table.get?_eq_some_iff.2 hmem, hself⟩)
  rw [← KeySet.contains_iff, KeySet.contains_inter, Bool.and_eq_true]
  exact ⟨mem_callerSet_of_mem hcall, mem_calleeSet.2 ⟨e.1, hcall⟩⟩

theorem recursive_add_entryPoints_le :
    (of ix g).recursive + (of ix g).entryPoints ≤ (of ix g).callers := by
  have hrecursive := recursive_le ix g
  have hsplit := KeySet.size_inter_add_diff (callerSet g) (calleeSet g)
  show _ + ((callerSet g).diff (calleeSet g)).size ≤ (callerSet g).size
  omega

theorem recursive_add_leaves_le : (of ix g).recursive + (of ix g).leaves ≤ (of ix g).callees := by
  have hrecursive := recursive_le ix g
  have hsplit := KeySet.size_inter_add_diff (calleeSet g) (callerSet g)
  rw [KeySet.inter_comm] at hrecursive
  show _ + ((calleeSet g).diff (callerSet g)).size ≤ (calleeSet g).size
  omega

theorem callees_le_calls : (of ix g).callees ≤ (of ix g).calls := by
  show (calleeSet g).size ≤ g.size
  rw [CallGraph.size_eq_length, ← List.length_map (f := (·.callee))]
  refine KeySet.size_le_length fun id hid => ?_
  obtain ⟨a, h⟩ := mem_calleeSet.1 hid
  exact List.mem_map.2 ⟨_, h, rfl⟩

end CallStats

namespace CallGraph.Filled

open CallStats

variable {g : CallGraph} {a : String} (h : g.Filled)
include h

/-- A listed caller calls something. -/
theorem mem_callerSet_iff : a ∈ callerSet g ↔ ∃ b, ⟨a, b⟩ ∈ g.calls := by
  refine ⟨fun ha => ?_, fun ⟨_, hc⟩ => mem_callerSet_of_mem hc⟩
  obtain ⟨ids, hids⟩ := Table.contains_iff.1 (mem_callerSet.1 ha)
  have hne : ids ≠ ∅ := h.callees (a, ids) (Table.get?_eq_some_iff.1 hids)
  by_contra hnone
  refine hne (KeySet.ext_mem fun b => iff_of_false (fun hb => ?_) (KeySet.not_mem_empty b))
  exact hnone ⟨b, mem_calls.2 (Adjacency.mem_of_iff.2 ⟨ids, hids, hb⟩)⟩

theorem callers_le_calls (ix : Index) : (of ix g).callers ≤ (of ix g).calls := by
  show (callerSet g).size ≤ g.size
  rw [size_eq_length, ← List.length_map (f := (·.caller))]
  refine KeySet.size_le_length fun id hid => ?_
  obtain ⟨b, hc⟩ := h.mem_callerSet_iff.1 hid
  exact List.mem_map.2 ⟨_, hc, rfl⟩

end CallGraph.Filled

/-! ## Counts of the calls of an index -/

namespace Index

open CallStats

variable {ix : Index} {source : CallerSource} {reverse : Bool} {id : String}

theorem mem_callerSet_callGraphFrom : id ∈ callerSet (ix.callGraphFrom source reverse) ↔
    ∃ b, ⟨id, b⟩ ∈ ix.callsFrom source := by
  refine (CallGraph.filled_ofCalls reverse (ix.callsFrom source)).mem_callerSet_iff.trans ?_
  exact exists_congr fun _ => CallGraph.mem_calls_ofCalls

theorem mem_calleeSet_callGraphFrom : id ∈ calleeSet (ix.callGraphFrom source reverse) ↔
    ∃ a, ⟨a, id⟩ ∈ ix.callsFrom source := by
  rw [mem_calleeSet]
  exact exists_congr fun _ => CallGraph.mem_calls_ofCalls

/-- Callers that are found around places have bodies. -/
theorem callers_le_functionsWithBodies (ix : Index) (reverse : Bool) :
    (of ix (ix.callGraphFrom .place reverse)).callers ≤
      (of ix (ix.callGraphFrom .place reverse)).functionsWithBodies := by
  show (callerSet _).size ≤ ix.callableSymbols.countP _
  rw [List.countP_eq_length_filter, ← List.length_map (f := Symbol.id)]
  refine KeySet.size_le_length fun id hid => ?_
  obtain ⟨b, hc⟩ := mem_callerSet_callGraphFrom.1 hid
  obtain ⟨-, -, -, r, -, -, hcaller⟩ := mem_callsWhere.1 hc
  obtain ⟨f, ⟨hf, -, body, hbody, -⟩, hfid⟩ := functionAround_eq_some hcaller
  exact List.mem_map.2 ⟨f, List.mem_filter.2 ⟨hf, by rw [hbody]; rfl⟩, hfid⟩

/-- However calls are found in an index that files its symbols under their ids, they join callables
of it, and their counts fit: those that call and those that are only called are together those that
are called and those that only call, at most all callables; a function that calls itself is neither
only a caller nor only a callee; there are at least as many calls as callers and as callees; and
where callers are found by place, at most as many callers as functions with bodies. -/
theorem counts_callGraphFrom (hk : ix.Keyed) (source : CallerSource) (reverse : Bool) :
    let g := ix.callGraphFrom source reverse
    let counts := of ix g
    (∀ c ∈ g.calls, ix.isCallable c.caller = true ∧ ix.isCallable c.callee = true) ∧
      counts.callers + counts.leaves = counts.functionsInGraph ∧
      counts.callees + counts.entryPoints = counts.functionsInGraph ∧
      counts.functionsInGraph ≤ counts.functions ∧
      counts.recursive + counts.entryPoints ≤ counts.callers ∧
      counts.recursive + counts.leaves ≤ counts.callees ∧
      counts.callers ≤ counts.calls ∧ counts.callees ≤ counts.calls ∧
      (source = .place → counts.callers ≤ counts.functionsWithBodies) := by
  intro g counts
  have hcallable : ∀ c ∈ ix.callsFrom source,
      ix.isCallable c.caller = true ∧ ix.isCallable c.callee = true := fun c hc =>
    hk.isCallable_of_mem_callsFrom hc
  refine ⟨fun c hc => hcallable c (CallGraph.mem_calls_ofCalls.1 hc), callers_add_leaves ix g,
    callees_add_entryPoints ix g, ?inGraph, recursive_add_entryPoints_le ix g,
    recursive_add_leaves_le ix g, (CallGraph.filled_ofCalls _ _).callers_le_calls ix,
    callees_le_calls ix g, ?bodies⟩
  case inGraph =>
    show ((callerSet g).union (calleeSet g)).size ≤ ix.callables.size
    rw [← KeySet.length_toList ix.callables]
    refine KeySet.size_le_length fun id hid => KeySet.mem_toList.2 ?_
    rcases KeySet.mem_union.1 hid with h | h
    · obtain ⟨b, hc⟩ := mem_callerSet_callGraphFrom.1 h
      exact (hcallable _ hc).1
    · obtain ⟨a, hc⟩ := mem_calleeSet_callGraphFrom.1 h
      exact (hcallable _ hc).2
  case bodies =>
    rintro rfl
    exact callers_le_functionsWithBodies ix reverse

/-- A function that calls itself, one that calls it and another one, and that one; a call from
elsewhere and one out of an unknown function do not count. -/
def factorialIndex : Index := .withFormat (.ofSymbols
  [{ id := "f", name := "f", kind := .function, definition := some ⟨"a", .lines 1 1⟩
     body := some (.lines 1 4)
     references := [⟨⟨20⟩, ⟨"a", .lines 2 2⟩, some "f"⟩, ⟨⟨20⟩, ⟨"a", .lines 6 6⟩, some "m"⟩] },
    { id := "m", name := "m", kind := .function, definition := some ⟨"a", .lines 5 5⟩
      body := some (.lines 5 9), references := [⟨⟨20⟩, ⟨"b", .lines 1 1⟩, some "x"⟩] },
    { id := "n", name := "n", kind := .function
      references := [⟨⟨28⟩, ⟨"a", .lines 7 7⟩, some "m"⟩, ⟨⟨4⟩, ⟨"a", .lines 3 3⟩, some "f"⟩] }])
  true true

/-- Two callers and two callees, of which one is both, whichever way callers are found. -/
theorem counts_factorialIndex :
    let byPlace := of factorialIndex (factorialIndex.callGraphFrom .place true)
    let byContainer := of factorialIndex (factorialIndex.callGraphFrom .container false)
    factorialIndex.Keyed ∧ byPlace = ⟨3, 2, 3, 2, 2, 3, 1, 1, 1⟩ ∧ byContainer = byPlace ∧
      byContainer.callers + byContainer.leaves = byContainer.functionsInGraph ∧
      byPlace.callers ≤ byPlace.functionsWithBodies := by
  have hk : factorialIndex.Keyed := by decide
  have hplace : of factorialIndex (factorialIndex.callGraphFrom .place true) =
      ⟨3, 2, 3, 2, 2, 3, 1, 1, 1⟩ := by cbv
  have hcontainer : of factorialIndex (factorialIndex.callGraphFrom .container false) =
      ⟨3, 2, 3, 2, 2, 3, 1, 1, 1⟩ := by decide
  obtain ⟨-, hleaves, -⟩ := counts_callGraphFrom hk .container false
  obtain ⟨-, -, -, -, -, -, -, -, hbodies⟩ := counts_callGraphFrom hk .place true
  exact ⟨hk, hplace, hcontainer.trans hplace.symm, hleaves, hbodies rfl⟩

end Index

end SymbolAtlas
