import Mathlib.Data.List.Nodup
import SymbolAtlas.Calls.Stats
import SymbolAtlas.Proofs.Calls
import SymbolAtlas.Proofs.Index
import SymbolAtlas.Proofs.Order

/-!
# Callers, callees and counts

A call graph lists each of its calls once (`nodup_calls`), so its counts are counts of calls
(`size_eq_length`, `countP_recursive`). Where it keeps the calls by callee too, the two tables say the
same (`CallGraph.Transposed`), so the callers of a function are found by the one as by the other
(`Transposed.mem_callersOf`). Calls that are found in an index join callables of it
(`Keyed.isCallable_of_mem_callsFrom`).
-/

namespace SymbolAtlas

namespace KeySet

variable {κ : Type} [Ord κ]

theorem nodup_toList [Std.LawfulEqOrd κ] (s : KeySet κ) : s.toList.Nodup := s.table.nodup_keys

theorem mem_ofKeys [Std.LawfulEqOrd κ] {α : Type} {t : Table κ α} {k : κ} :
    k ∈ ofKeys t ↔ t.contains k = true := by
  rw [← contains_iff, contains, ofKeys, Table.map, Table.contains_mapWithKey]

end KeySet

/-! ## Counts -/

namespace Adjacency

theorem nodup_pairs (a : Adjacency) : a.pairs.Nodup := by
  refine List.nodup_flatMap.2 ⟨fun e _ => ?_, a.ascending.imp fun h => ?_⟩
  · exact (KeySet.nodup_toList e.2).map fun _ _ h => (Prod.mk.inj h).2
  · intro p hp hq
    obtain ⟨_, -, rfl⟩ := List.mem_map.1 hp
    obtain ⟨_, -, heq⟩ := List.mem_map.1 hq
    rw [(Prod.mk.inj heq).1] at h
    simp at h

theorem length_pairs (a : Adjacency) : a.pairs.length = total (a.values.map KeySet.size) := by
  have run : ∀ l : List (String × KeySet String),
      (l.flatMap fun e => e.2.toList.map (e.1, ·)).length = total ((l.map (·.2)).map KeySet.size) := by
    intro l
    induction l with
    | nil => rfl
    | cons e l ih =>
      rw [List.flatMap_cons, List.length_append, ih, List.length_map, KeySet.length_toList]
      rfl
  exact run a.entries

/-- The pairs of an id with itself are the ids that are linked to themselves. -/
theorem countP_pairs_self (a : Adjacency) :
    (a.pairs.countP fun p => p.1 = p.2) = a.entries.countP fun e => e.2.contains e.1 := by
  have run : ∀ l : List (String × KeySet String),
      ((l.flatMap fun e => e.2.toList.map (e.1, ·)).countP fun p => p.1 = p.2) =
        l.countP fun e => e.2.contains e.1 := by
    intro l
    induction l with
    | nil => rfl
    | cons e l ih =>
      have hself : (e.2.toList.map (e.1, ·)).countP (fun p => p.1 = p.2) =
          if e.2.contains e.1 then 1 else 0 := by
        have hcount : (e.2.toList.map (e.1, ·)).countP (fun p => p.1 = p.2) =
            e.2.toList.count e.1 := by
          rw [List.countP_map, List.count_eq_countP]
          refine List.countP_congr fun id _ => ?_
          rw [Function.comp_apply, decide_eq_true_eq, beq_iff_eq]
          exact eq_comm
        rw [hcount, (KeySet.nodup_toList e.2).count]
        exact if_congr KeySet.mem_toList rfl rfl
      rw [List.flatMap_cons, List.countP_append, ih, hself, List.countP_cons, Nat.add_comm]
  exact run a.entries

end Adjacency

namespace CallGraph

variable {g : CallGraph} {c : Call} {a b : String} {reverse : Bool} {l : List Call}

theorem nodup_calls (g : CallGraph) : g.calls.Nodup :=
  g.callees.nodup_pairs.map fun _ _ h => Prod.ext (Call.mk.inj h).1 (Call.mk.inj h).2

theorem size_eq_length (g : CallGraph) : g.size = g.calls.length := by
  rw [calls, List.length_map, Adjacency.length_pairs, size]

theorem countP_recursive (g : CallGraph) :
    (g.callees.entries.countP fun e => e.2.contains e.1) =
      g.calls.countP fun c => c.caller = c.callee := by
  rw [calls, List.countP_map, ← Adjacency.countP_pairs_self]
  rfl

/-! ## Callers -/

/-- The calls that are kept by callee are those that are kept by caller. -/
def Transposed (g : CallGraph) : Prop :=
  ∀ t, g.callers = some t → ∀ a b, a ∈ Adjacency.of t b ↔ b ∈ g.callees.of a

theorem transposed_start (reverse : Bool) : (start reverse).Transposed := by
  intro t ht a b
  cases reverse with
  | false => cases ht
  | true =>
    cases ht
    exact iff_of_false (KeySet.not_mem_empty a) (KeySet.not_mem_empty b)

theorem Transposed.add (h : g.Transposed) (c : Call) : (g.add c).Transposed := by
  intro t ht a b
  obtain ⟨t, hcallers, rfl⟩ := Option.map_eq_some_iff.1 ht
  rw [callees_add, Adjacency.mem_of_link, Adjacency.mem_of_link, h t hcallers, and_comm]

/-- What holds without calls and is kept by adding a call holds of every graph made from calls. -/
theorem ofCalls_induction {P : CallGraph → Prop} (hstart : P (start reverse))
    (hadd : ∀ g c, P g → P (g.add c)) (l : List Call) : P (ofCalls reverse l) := by
  have run : ∀ (l : List Call) (g : CallGraph), P g → P (l.foldl add g) := by
    intro l
    induction l with
    | nil => exact fun _ h => h
    | cons c l ih => exact fun g h => ih _ (hadd g c h)
  exact run l _ hstart

theorem transposed_ofCalls (reverse : Bool) (l : List Call) : (ofCalls reverse l).Transposed :=
  ofCalls_induction (transposed_start reverse) (fun _ c h => h.add c) l

/-- The callers of a function, looked up or searched for. -/
theorem Transposed.mem_callersOf (h : g.Transposed) : a ∈ g.callersOf b ↔ ⟨a, b⟩ ∈ g.calls := by
  rw [mem_calls]
  unfold callersOf
  split
  · next t ht => exact h t ht a b
  · rw [KeySet.mem_ofKeys, Table.contains_iff]
    simp only [Table.get?_filter, Option.filter_eq_some_iff]
    show _ ↔ b ∈ (g.callees.get? a).getD ∅
    cases g.callees.get? a with
    | none => simp
    | some ys => simp [KeySet.contains_iff]

end CallGraph

/-! ## Calls of an index -/

namespace Index

variable {ix : Index} {source : CallerSource} {c : Call}

theorem Keyed.isCallable_of_mem_callableSymbols (hk : ix.Keyed) {f : Symbol}
    (h : f ∈ ix.callableSymbols) : ix.isCallable f.id = true := by
  obtain ⟨id, hid, hf⟩ := List.mem_filterMap.1 h
  rw [hk.id_of_get? hf]
  exact KeySet.mem_toList.1 hid

/-- Callers and callees that are found are callables of the index. -/
theorem Keyed.isCallable_of_mem_callsFrom (hk : ix.Keyed) (h : c ∈ ix.callsFrom source) :
    ix.isCallable c.caller = true ∧ ix.isCallable c.callee = true := by
  cases source with
  | container =>
    obtain ⟨f, hf, hcallee, r, -, -, hcaller⟩ := mem_callsWhere.1 h
    exact ⟨(Option.filter_eq_some_iff.1 hcaller).2,
      hcallee ▸ hk.isCallable_of_mem_callableSymbols hf⟩
  | place =>
    obtain ⟨f, hf, hcallee, r, -, -, hcaller⟩ := mem_callsWhere.1 h
    obtain ⟨k, hplace, hid⟩ := functionAround_eq_some hcaller
    exact ⟨hid ▸ hk.isCallable_of_mem_callableSymbols hplace.1,
      hcallee ▸ hk.isCallable_of_mem_callableSymbols hf⟩

end Index

end SymbolAtlas
