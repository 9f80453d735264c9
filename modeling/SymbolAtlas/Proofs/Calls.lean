import Mathlib.Data.List.Basic
import SymbolAtlas.Calls
import SymbolAtlas.Proofs.Table

/-!
# Which calls are found

`mem_callsWhere` reads a call off the references to its callee, and `mem_calls_ofCalls` says that a
call graph holds the calls it was made from. The search around a place finds a callable whose body
is there, if there is one (`functionAround_eq_some`, `functionAround_eq_none_iff`); where it finds
what the containers name, both ways to find callers give one graph (`callGraphFrom_eq`).
-/

namespace SymbolAtlas

/-! ## Calls in a graph -/

theorem Adjacency.mem_pairs {a : Adjacency} {x y : String} : (x, y) ∈ a.pairs ↔ y ∈ a.of x := by
  unfold pairs of
  rw [Table.mem_flatMap_pairs_iff_getD (f := KeySet.toList) (d := ∅) rfl, KeySet.mem_toList]

namespace CallGraph

variable {c : Call}

theorem mem_calls {g : CallGraph} : c ∈ g.calls ↔ c.callee ∈ g.callees.of c.caller := by
  rw [← Adjacency.mem_pairs, calls, List.mem_map]
  exact ⟨fun ⟨_, hp, e⟩ => e ▸ hp, fun h => ⟨_, h, rfl⟩⟩

theorem mem_calls_add {g : CallGraph} {d : Call} : c ∈ (g.add d).calls ↔ c = d ∨ c ∈ g.calls := by
  rw [mem_calls, callees_add, Adjacency.mem_of_link, mem_calls, Call.mk.injEq]

theorem mem_calls_foldl_add (l : List Call) : ∀ g : CallGraph,
    c ∈ (l.foldl add g).calls ↔ c ∈ l ∨ c ∈ g.calls := by
  induction l with
  | nil => simp
  | cons d l ih =>
    intro g
    rw [List.foldl_cons, ih, mem_calls_add, List.mem_cons, ← or_assoc, or_comm (a := c ∈ l)]

/-- A graph holds the calls it is made from. -/
theorem mem_calls_ofCalls {reverse : Bool} {l : List Call} :
    c ∈ (ofCalls reverse l).calls ↔ c ∈ l := by
  rw [ofCalls, mem_calls_foldl_add]
  exact or_iff_left fun h => absurd h List.not_mem_nil

end CallGraph

namespace Index

variable {ix : Index} {c : Call} {l : Location} {owner file : String}

theorem mem_callsWhere {m : CallMark} {caller? : Reference → Option String} :
    c ∈ ix.callsWhere m caller? ↔ ∃ f ∈ ix.callableSymbols, f.id = c.callee ∧
      ∃ r ∈ f.references, m.isCall r.kind = true ∧ caller? r = some c.caller := by
  simp only [callsWhere, List.mem_flatMap, List.mem_filterMap, List.mem_filter,
    Option.map_eq_some_iff]
  refine ⟨?_, ?_⟩
  · rintro ⟨f, hf, r, ⟨hr, hm⟩, d, hd, rfl⟩
    exact ⟨f, hf, rfl, r, hr, hm, hd⟩
  · rintro ⟨f, hf, he, r, hr, hm, hd⟩
    exact ⟨f, hf, r, ⟨hr, hm⟩, c.caller, hd, by rw [he]⟩

/-- Two ways to find callers that agree on the references to callables find the same calls. -/
theorem callsWhere_congr {m : CallMark} {find find' : Reference → Option String}
    (h : ∀ f ∈ ix.callableSymbols, ∀ r ∈ f.references, m.isCall r.kind = true → find r = find' r) :
    ix.callsWhere m find = ix.callsWhere m find' := by
  refine List.flatMap_congr fun f hf => List.filterMap_congr fun r hr => ?_
  obtain ⟨hr, hm⟩ := List.mem_filter.1 hr
  rw [h f hf r hr hm]

/-! ## Functions around a place -/

/-- The body of the callable `f`, which is defined in the file of `l`, is around `l`. -/
def BodyAround (ix : Index) (l : Location) (f : Symbol) : Prop :=
  f ∈ ix.callableSymbols ∧ (∃ d, f.definition = some d ∧ d.file = l.file) ∧
    ∃ body, f.body = some body ∧ l.range.within body true = true

theorem mem_functionBodies {b : FunctionBody} : (file, b) ∈ ix.functionBodies ↔
    ∃ f ∈ ix.callableSymbols, (∃ d, f.definition = some d ∧ d.file = file) ∧
      f.body = some b.body ∧ f.id = b.owner := by
  unfold functionBodies
  rw [List.mem_filterMap]
  refine exists_congr fun f => and_congr_right fun _ => ?_
  refine ⟨?_, ?_⟩
  · intro h
    obtain ⟨body, hb, h⟩ := Option.bind_eq_some_iff.1 h
    obtain ⟨d, hd, h⟩ := Option.bind_eq_some_iff.1 h
    cases h
    exact ⟨⟨d, hd, rfl⟩, hb, rfl⟩
  · rintro ⟨⟨d, hd, rfl⟩, hb, hid⟩
    simp [hb, hd, hid]

theorem earlierLine_trans (a b d : FunctionBody) (h : earlierLine a b = true)
    (h' : earlierLine b d = true) : earlierLine a d = true := by
  unfold earlierLine at *
  rw [decide_eq_true_eq] at *
  exact UInt32.le_trans h h'

theorem earlierLine_total (a b : FunctionBody) : (earlierLine a b || earlierLine b a) = true := by
  simp only [earlierLine, Bool.or_eq_true, decide_eq_true_eq]
  exact UInt32.le_total _ _

/-- The function bodies of a file, in id order of their owners but for their start lines. -/
theorem getD_bodiesByFile (file : String) : ix.bodiesByFile.getD file [] =
    ((ix.functionBodies.filter (·.1 = file)).map (·.2)).mergeSort earlierLine := by
  rw [bodiesByFile, Table.getD, Table.get?_map, ← Table.getD_group, Table.getD]
  cases (Table.group (·.1) ix.functionBodies).get? file <;> simp

theorem mem_bodiesByFile {b : FunctionBody} :
    b ∈ ix.bodiesByFile.getD file [] ↔ (file, b) ∈ ix.functionBodies := by
  rw [getD_bodiesByFile, List.mem_mergeSort, List.mem_map]
  refine ⟨?_, ?_⟩
  · rintro ⟨e, he, rfl⟩
    obtain ⟨hm, hf⟩ := List.mem_filter.1 he
    exact of_decide_eq_true hf ▸ hm
  · exact fun h => ⟨_, List.mem_filter.2 ⟨h, decide_eq_true rfl⟩, rfl⟩

theorem exists_bodyAround_iff : (∃ f, ix.BodyAround l f ∧ f.id = owner) ↔
    ∃ b ∈ ix.bodiesByFile.getD l.file [], l.range.within b.body true = true ∧ b.owner = owner := by
  refine ⟨?_, ?_⟩
  · rintro ⟨f, ⟨hf, hd, body, hb, hin⟩, rfl⟩
    exact ⟨⟨f.id, body⟩, mem_bodiesByFile.2 (mem_functionBodies.2 ⟨f, hf, hd, hb, rfl⟩), hin, rfl⟩
  · rintro ⟨b, hb, hin, rfl⟩
    obtain ⟨f, hf, hd, hbody, hid⟩ := mem_functionBodies.1 (mem_bodiesByFile.1 hb)
    exact ⟨f, ⟨hf, hd, b.body, hbody, hin⟩, hid⟩

/-- The function that is found around a place is there. -/
theorem functionAround_eq_some (h : functionAround ix.bodiesByFile l = some owner) :
    ∃ f, ix.BodyAround l f ∧ f.id = owner := by
  obtain ⟨b, hb, rfl⟩ := Option.map_eq_some_iff.1 h
  have hin := List.find?_some hb
  exact exists_bodyAround_iff.2 ⟨b, List.mem_of_find?_eq_some hb, hin, rfl⟩

/-- No function is found around a place only if none is there. -/
theorem functionAround_eq_none_iff :
    functionAround ix.bodiesByFile l = none ↔ ∀ f, ¬ix.BodyAround l f := by
  unfold functionAround
  rw [Option.map_eq_none_iff, List.find?_eq_none]
  refine ⟨?_, ?_⟩
  · intro h f hf
    obtain ⟨b, hb, hin, -⟩ := exists_bodyAround_iff.1 ⟨f, hf, rfl⟩
    exact h b hb hin
  · intro h b hb hin
    obtain ⟨f, hf, -⟩ := exists_bodyAround_iff.2 ⟨b, hb, hin, rfl⟩
    exact h f hf

/-! ## Containers and places -/

theorem isCall_callBit {k : RefKind} :
    CallMark.callBit.isCall k = true ↔ k.bits = 20 ∨ k.bits = 28 := by
  have hkinds : CallMark.callBit.kinds = [20, 28] := rfl
  unfold CallMark.isCall
  rw [hkinds]
  simp

/-- The container of a call, where it is a callable, is the one callable whose body is around it. -/
def ContainersNameBodies (ix : Index) : Prop :=
  ∀ d ∈ ix.callableSymbols, ∀ r ∈ d.references, (r.kind.bits = 20 ∨ r.kind.bits = 28) →
    ∀ owner, (r.container = some owner ∧ ix.isCallable owner = true) ↔
      ∃ f, ix.BodyAround r.location f ∧ f.id = owner

theorem callsFrom_eq (hkind : ix.hasCallKind = true) (h : ix.ContainersNameBodies) :
    ix.callsFrom .container = ix.callsFrom .place := by
  have hmark : ix.callMark = .callBit := by rw [callMark, hkind, CallMark.ofFormat, if_pos rfl]
  unfold callsFrom
  rw [hmark]
  refine callsWhere_congr fun d hd r hr hcall => ?_
  have hnames := h d hd r hr (isCall_callBit.1 hcall)
  cases hfound : functionAround ix.bodiesByFile r.location with
  | some owner =>
    rw [Option.filter_eq_some_iff]
    exact (hnames owner).2 (functionAround_eq_some hfound)
  | none =>
    rw [Option.filter_eq_none_iff]
    intro owner hc hcallable
    obtain ⟨f, hf, -⟩ := (hnames owner).1 ⟨hc, hcallable⟩
    exact functionAround_eq_none_iff.1 hfound f hf

/-- Where containers name the bodies around calls, callers found by container and callers found by
place make one graph. -/
theorem callGraphFrom_eq (hkind : ix.hasCallKind = true) (h : ix.ContainersNameBodies)
    (reverse : Bool) : ix.callGraphFrom .container reverse = ix.callGraphFrom .place reverse := by
  rw [callGraphFrom, callsFrom_eq hkind h, callGraphFrom]

/-- A call of `g` in the body of `f`. -/
def callInF : Reference := ⟨⟨20⟩, ⟨"a", .lines 3 3⟩, some "f"⟩

/-- A function with a body and one that is called in it. -/
def callIndex : Index := .withFormat (.ofSymbols
  [{ id := "f", name := "f", kind := .function, definition := some ⟨"a", .lines 1 1⟩
     body := some (.lines 1 9) },
    { id := "g", name := "g", kind := .function, references := [callInF] }]) true true

/-- The call is found by its container and by its place. -/
theorem callGraphFrom_callIndex :
    callIndex.ContainersNameBodies ∧
      callIndex.callGraphFrom .container true = callIndex.callGraphFrom .place true ∧
      (callIndex.callGraphFrom .place true).calls = [⟨"f", "g"⟩] := by
  have h : callIndex.ContainersNameBodies := by
    intro d hd r hr _ owner
    have hrefs : ∀ d ∈ callIndex.callableSymbols, ∀ r ∈ d.references, r = callInF := by decide
    have hfile : (callIndex.functionBodies.filter (·.1 = "a")).map (·.2) =
        [⟨"f", .lines 1 9⟩] := by decide
    have hbodies : callIndex.bodiesByFile.getD "a" [] = [⟨"f", .lines 1 9⟩] := by
      rw [getD_bodiesByFile, hfile, List.mergeSort_singleton]
    have hin : (Range.lines 3 3).within (.lines 1 9) true = true := by decide
    have hcallable : callIndex.isCallable "f" = true := by decide
    obtain rfl := hrefs d hd r hr
    rw [exists_bodyAround_iff, show callInF.location.file = "a" from rfl, hbodies]
    refine ⟨?_, ?_⟩
    · rintro ⟨hc, -⟩
      exact ⟨_, List.mem_singleton_self _, hin, Option.some.inj hc⟩
    · rintro ⟨b, hb, -, rfl⟩
      obtain rfl := List.mem_singleton.1 hb
      exact ⟨rfl, hcallable⟩
  have hgraph := callGraphFrom_eq rfl h true
  have hcalls : (callIndex.callGraphFrom .container true).calls = [⟨"f", "g"⟩] := by decide
  exact ⟨h, hgraph, hgraph ▸ hcalls⟩

end Index

end SymbolAtlas
