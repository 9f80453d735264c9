import SymbolAtlas.Proofs.Calls.Stats

/-!
# Calls by callee

Where a call graph keeps its calls by callee too, that table is the transpose of the one by caller:
it links the same pairs the other way round (`Adjacency.length_pairs_eq` counts them), neither lists
an id without links (`CallGraph.Filled`), and keeping it changes nothing else
(`CallGraph.callees_ofCalls`). So callers that are looked up are those that a search finds, however
the calls of an index were found (`Index.callGraphFrom_transposed`).
-/

namespace SymbolAtlas

namespace Adjacency

variable {a b : Adjacency}

/-- No listed id is without links. -/
def Filled (a : Adjacency) : Prop := ∀ e ∈ a.entries, e.2 ≠ ∅

theorem filled_empty : Filled ∅ := fun _ h => absurd h List.not_mem_nil

theorem Filled.link (h : a.Filled) (source target : String) : (a.link source target).Filled := by
  rintro ⟨id, ids⟩ he
  have hget := Table.get?_eq_some_iff.2 he
  rw [Adjacency.link, Table.get?_insert] at hget
  split at hget
  · cases hget
    intro (hempty : (a.of source).insert target = ∅)
    have hmem : target ∈ (a.of source).insert target := KeySet.mem_insert.2 (.inl rfl)
    rw [hempty] at hmem
    exact KeySet.not_mem_empty target hmem
  · exact h _ (Table.get?_eq_some_iff.1 hget)

/-- Tables that link the same pairs, one the other way round, link as many pairs. -/
theorem length_pairs_eq (h : ∀ x y, y ∈ a.of x ↔ x ∈ b.of y) : a.pairs.length = b.pairs.length := by
  have hnodup : (a.pairs.map Prod.swap).Nodup := a.nodup_pairs.map fun _ _ => Prod.swap_inj.1
  have hperm : (a.pairs.map Prod.swap).Perm b.pairs := by
    refine (List.perm_ext_iff_of_nodup hnodup b.nodup_pairs).2 ?_
    rintro ⟨y, x⟩
    rw [mem_pairs, ← h x y, ← mem_pairs, List.mem_map]
    refine ⟨?_, fun hp => ⟨(x, y), hp, rfl⟩⟩
    rintro ⟨⟨x', y'⟩, hp, he⟩
    cases he
    exact hp
  rw [← hperm.length_eq, List.length_map]

end Adjacency

namespace CallGraph

variable {g : CallGraph} {reverse : Bool} {l : List Call}

/-- Keeping the calls by callee does not change how they are kept by caller. -/
theorem callees_ofCalls (reverse : Bool) (l : List Call) :
    (ofCalls reverse l).callees = (ofCalls false l).callees := by
  have run : ∀ (l : List Call) (g h : CallGraph), g.callees = h.callees →
      (l.foldl add g).callees = (l.foldl add h).callees := by
    intro l
    induction l with
    | nil => exact fun _ _ he => he
    | cons c l ih => exact fun g h he => ih _ _ (by rw [callees_add, callees_add, he])
  exact run l _ _ rfl

theorem isSome_callers_ofCalls (reverse : Bool) (l : List Call) :
    (ofCalls reverse l).callers.isSome = reverse := by
  refine ofCalls_induction (P := fun g => g.callers.isSome = reverse) ?_ (fun g c h => ?_) l
  · cases reverse <;> rfl
  · rwa [add, Option.isSome_map]

/-- The tables list only ids that call or are called. -/
structure Filled (g : CallGraph) : Prop where
  callees : g.callees.Filled
  callers : ∀ t, g.callers = some t → Adjacency.Filled t

theorem filled_start (reverse : Bool) : (start reverse).Filled where
  callees := Adjacency.filled_empty
  callers t ht := by
    cases reverse with
    | false => cases ht
    | true =>
      cases ht
      exact Adjacency.filled_empty

theorem Filled.add (h : g.Filled) (c : Call) : (g.add c).Filled where
  callees := h.callees.link c.caller c.callee
  callers t ht := by
    obtain ⟨t, hcallers, rfl⟩ := Option.map_eq_some_iff.1 ht
    exact (h.callers t hcallers).link c.callee c.caller

theorem filled_ofCalls (reverse : Bool) (l : List Call) : (ofCalls reverse l).Filled :=
  ofCalls_induction (filled_start reverse) (fun _ c h => h.add c) l

end CallGraph

/-- However the callers of an index are found, the calls by caller are the same whether they are kept
by callee too or not. Where they are, a call is kept by its caller exactly if it is kept by its
callee, neither table lists an id without calls, and both count the same calls. The callers of an
id are the same set, looked up in the table by callee or searched for in the one by caller. -/
theorem Index.callGraphFrom_transposed (ix : Index) (source : CallerSource) :
    let plain := ix.callGraphFrom source false
    let both := ix.callGraphFrom source true
    plain.callers = none ∧ both.callees = plain.callees ∧
      ∃ callers, both.callers = some callers ∧
        (∀ a b, b ∈ both.callees.of a ↔ a ∈ Adjacency.of callers b) ∧
        (∀ e ∈ both.callees.entries, e.2 ≠ ∅) ∧ (∀ e ∈ callers.entries, e.2 ≠ ∅) ∧
        total (callers.values.map KeySet.size) = both.size ∧
        ∀ id, both.callersOf id = plain.callersOf id := by
  intro plain both
  have hplain : plain.callers.isSome = false := CallGraph.isSome_callers_ofCalls false _
  have hboth : both.callers.isSome = true := CallGraph.isSome_callers_ofCalls true _
  have hcallees : both.callees = plain.callees := CallGraph.callees_ofCalls true _
  have hfilled : both.Filled := CallGraph.filled_ofCalls true _
  have htransposed : both.Transposed := CallGraph.transposed_ofCalls true _
  have htransposed' : plain.Transposed := CallGraph.transposed_ofCalls false _
  obtain ⟨callers, hcallers⟩ := Option.isSome_iff_exists.1 hboth
  have hlinks : ∀ a b, b ∈ both.callees.of a ↔ a ∈ Adjacency.of callers b := fun a b =>
    (htransposed callers hcallers a b).symm
  refine ⟨Option.not_isSome_iff_eq_none.1 (by simp [hplain]), hcallees, callers, hcallers, hlinks,
    hfilled.callees, hfilled.callers callers hcallers, ?size, fun id => KeySet.ext_mem fun a => ?_⟩
  case size =>
    rw [← Adjacency.length_pairs, ← Adjacency.length_pairs_eq hlinks, Adjacency.length_pairs,
      CallGraph.size]
  · rw [htransposed.mem_callersOf, htransposed'.mem_callersOf, CallGraph.mem_calls,
      CallGraph.mem_calls, hcallees]

/-- A function `f` that calls itself and, from two places, `g`. The function `h` calls `f`. -/
def twiceCalledIndex : Index :=
  let call := fun (line : UInt32) (container : String) =>
    (⟨⟨RefKind.reference ||| RefKind.call⟩, ⟨"m", .lines line line⟩, some container⟩ : Reference)
  .withFormat (.ofSymbols
    [{ id := "f", name := "f", kind := .function, references := [call 2 "f", call 9 "h"] },
      { id := "g", name := "g", kind := .function, references := [call 3 "f", call 4 "f"] },
      { id := "h", name := "h", kind := .function }]) true true

/-- The call from two places is one, the function that calls itself is in its own rows, and the one
that calls nothing is only in the table by callee. -/
example :
    let both := twiceCalledIndex.callGraphFrom .container true
    let rows := fun (t : Adjacency) => t.entries.map fun e => (e.1, e.2.toList)
    rows both.callees = [("f", ["f", "g"]), ("h", ["f"])] ∧
      both.callers.map rows = some [("f", ["f", "h"]), ("g", ["f"])] ∧ both.size = 3 ∧
      ((twiceCalledIndex.callGraphFrom .container false).callersOf "g").toList = ["f"] := by
  decide

end SymbolAtlas
