import Mathlib.Tactic.MkIffOfInductiveProp
import SymbolAtlas.Proofs.Calls.Restrict
import SymbolAtlas.Scope

/-!
# Scopes are sufficient

`ix.Near calls r s d` says that `d` is one step from `s`, which is what the relation tables hold
(`RelationTables.mem_neighbours`). A step between ids that a restriction keeps is a step in it, and
back (`Index.Near.restrict`, `Index.Near.of_restrict`). A scope keeps whatever is one step from its
seeds, so it knows their neighbours by itself (`Scope.build_sufficient`).
-/

namespace SymbolAtlas

namespace Index

/-- `d` is one step from `s` along the relations that are followed, where `calls` are the calls. -/
@[mk_iff] inductive Near (ix : Index) (calls : List Call) (r : ScopeRelations) (s d : String) :
    Prop where
  | callee (on : r.calls = true) (h : ⟨s, d⟩ ∈ calls)
  | caller (on : r.calls = true) (h : ⟨d, s⟩ ∈ calls)
  | base (on : r.inheritance = true) (h : ⟨d, s⟩ ∈ ix.inheritance)
  | derived (on : r.inheritance = true) (h : ⟨s, d⟩ ∈ ix.inheritance)
  | overridden (on : r.overrides = true) (h : ⟨d, s⟩ ∈ ix.overrides)
  | overriding (on : r.overrides = true) (h : ⟨s, d⟩ ∈ ix.overrides)
  | child (on : r.children = true) {x : Symbol} (hx : ix.get? d = some x)
      (hp : x.parentId = some s)
  | parent (on : r.lexicalParent = true) {x : Symbol} (hx : ix.get? s = some x)
      (hp : x.parentId = some d)
  | namespaceParent (on : r.namespaceParent = true) {x : Symbol} (hx : ix.get? s = some x)
      (hn : RelationTables.namespaceOf ix.namespaces x = some d)

end Index

/-! ## The tables -/

namespace RelationTables

variable {ix : Index} {x y id : String}

theorem mem_of_foldl_link (l : List (String × String)) : ∀ a : Adjacency,
    y ∈ (l.foldl (fun a e => a.link e.1 e.2) a).of x ↔ (x, y) ∈ l ∨ y ∈ a.of x := by
  induction l with
  | nil => simp
  | cons e l ih =>
    intro a
    rw [List.foldl_cons, ih, Adjacency.mem_of_link, List.mem_cons, Prod.ext_iff, ← or_assoc,
      or_comm (a := (x, y) ∈ l)]

theorem mem_linkAll {l : List (String × String)} : y ∈ (linkAll l).of x ↔ (x, y) ∈ l := by
  rw [linkAll, mem_of_foldl_link, Adjacency.of_empty]
  exact or_iff_left (KeySet.not_mem_empty y)

section Attributes
variable (hk : ix.Keyed) (f : Symbol → Option String)
include hk

theorem mem_attributes : (id, y) ∈ (ix.all.filterMap fun s => (f s).map (s.id, ·)) ↔
    ∃ s, ix.get? id = some s ∧ f s = some y := by
  rw [List.mem_filterMap]
  refine ⟨?_, ?_⟩
  · rintro ⟨s, hs, he⟩
    obtain ⟨v, hv, he⟩ := Option.map_eq_some_iff.1 he
    cases he
    exact ⟨s, hk.get?_of_mem hs, hv⟩
  · rintro ⟨s, hs, hv⟩
    exact ⟨s, Index.mem_all.2 ⟨id, hs⟩, by rw [hv, hk.id_of_get? hs]; rfl⟩

/-- A table of what each symbol has holds it under the symbol's id. -/
theorem get?_attributes :
    (Table.ofList (ix.all.filterMap fun s => (f s).map (s.id, ·))).get? id =
      (ix.get? id).bind f := by
  cases hid : (Table.ofList (ix.all.filterMap fun s => (f s).map (s.id, ·))).get? id with
  | some v =>
    obtain ⟨s, hs, hv⟩ := (mem_attributes hk f).1 (Table.mem_of_get?_ofList hid)
    rw [hs, Option.bind_some, hv]
  | none =>
    symm
    rw [Option.bind_eq_none_iff]
    intro s hs
    by_contra hf
    obtain ⟨v, hv⟩ := Option.ne_none_iff_exists'.1 hf
    exact Table.not_mem_of_get?_ofList hid v ((mem_attributes hk f).2 ⟨s, hs, hv⟩)

end Attributes

theorem mem_map_pair {α : Type} (f : α → String × String) (make : String → String → α)
    (hf : ∀ a, make (f a).1 (f a).2 = a) (hm : ∀ x y, f (make x y) = (x, y)) {l : List α} :
    (x, y) ∈ l.map f ↔ make x y ∈ l := by
  rw [List.mem_map]
  refine ⟨fun ⟨a, ha, e⟩ => ?_, fun h => ⟨_, h, hm x y⟩⟩
  rw [← hf a, e] at ha
  exact ha

/-- The tables hold the ids one step away. -/
theorem mem_neighbours (hk : ix.Keyed) {g : CallGraph} {r : ScopeRelations} {s d : String} :
    d ∈ (build ix g).neighbours r s ↔ ix.Near g.calls r s d := by
  have hcall : (s, d) ∈ g.calls.map (fun c => (c.caller, c.callee)) ↔ ⟨s, d⟩ ∈ g.calls :=
    mem_map_pair _ Call.mk (fun _ => rfl) fun _ _ => rfl
  have hcaller : (s, d) ∈ g.calls.map (fun c => (c.callee, c.caller)) ↔ ⟨d, s⟩ ∈ g.calls :=
    mem_map_pair _ (fun x y => Call.mk y x) (fun _ => rfl) fun _ _ => rfl
  have hup : ∀ l : List Relation, (s, d) ∈ l.map (fun r => (r.derived, r.base)) ↔ ⟨d, s⟩ ∈ l :=
    fun _ => mem_map_pair _ (fun x y => Relation.mk y x) (fun _ => rfl) fun _ _ => rfl
  have hdown : ∀ l : List Relation, (s, d) ∈ l.map (fun r => (r.base, r.derived)) ↔ ⟨s, d⟩ ∈ l :=
    fun _ => mem_map_pair _ Relation.mk (fun _ => rfl) fun _ _ => rfl
  have hchild : ∀ l : List (String × String), (s, d) ∈ l.map Prod.swap ↔ (d, s) ∈ l :=
    fun _ => mem_map_pair _ (fun x y => (y, x)) (fun _ => rfl) fun _ _ => rfl
  rw [Index.near_iff]
  simp only [neighbours, build, KeySet.mem_ofList, List.mem_append, List.mem_ite_nil_right,
    List.mem_flatMap, List.mem_cons, List.not_mem_nil, or_false, KeySet.mem_toList,
    Option.mem_toList, or_and_right, exists_or, exists_eq_left, mem_linkAll, hcall, hcaller, hup,
    hdown, hchild, mem_attributes hk, get?_attributes hk, Option.bind_eq_some_iff, and_or_left,
    or_assoc]

theorem namespaceOf_eq_some {namespaces : Table String String} {s : Symbol} :
    namespaceOf namespaces s = some id ↔ namespaces.get? s.scope = some id ∧ id ≠ s.id := by
  unfold namespaceOf
  rw [Option.filter_eq_some_iff, decide_eq_true_eq]

end RelationTables

/-! ## Steps in a restriction -/

namespace Index.Near

variable {ix : Index} {ids : KeySet String} {calls calls' : List Call} {r : ScopeRelations}
  {s d : String}

/-- The calls matter only where they are followed. -/
theorem mono_calls (h : ix.Near calls r s d)
    (hcalls : r.calls = true → ∀ c ∈ calls, c ∈ calls') : ix.Near calls' r s d := by
  cases h with
  | callee on h => exact .callee on (hcalls on _ h)
  | caller on h => exact .caller on (hcalls on _ h)
  | base on h => exact .base on h
  | derived on h => exact .derived on h
  | overridden on h => exact .overridden on h
  | overriding on h => exact .overriding on h
  | child on hx hp => exact .child on hx hp
  | parent on hx hp => exact .parent on hx hp
  | namespaceParent on hx hn => exact .namespaceParent on hx hn

theorem congr_calls (hcalls : r.calls = true → ∀ c, c ∈ calls ↔ c ∈ calls') :
    ix.Near calls r s d ↔ ix.Near calls' r s d :=
  ⟨fun h => h.mono_calls fun on c => (hcalls on c).1,
    fun h => h.mono_calls fun on c => (hcalls on c).2⟩

/-- A step between ids that are kept is a step in the restriction, if its calls are. -/
theorem restrict (hk : ix.Keyed)
    (hcalls : ∀ c ∈ calls, c.caller ∈ ids → c.callee ∈ ids → c ∈ calls')
    (h : ix.Near calls r s d) (hs : s ∈ ids) (hd : d ∈ ids) :
    (ix.restrict ids).Near calls' r s d := by
  have hget : ∀ {id x}, id ∈ ids → ix.get? id = some x → (ix.restrict ids).get? id = some x :=
    fun hid hx => (get?_restrict_iff hk ids).2 ⟨hid, hx⟩
  have hkept : ∀ {a b : String}, a ∈ ids → b ∈ ids → (ids.contains a && ids.contains b) = true :=
    fun ha hb => Bool.and_eq_true_iff.2 ⟨ha, hb⟩
  cases h with
  | callee on h => exact .callee on (hcalls _ h hs hd)
  | caller on h => exact .caller on (hcalls _ h hd hs)
  | base on h => exact .base on (List.mem_filter.2 ⟨h, hkept hd hs⟩)
  | derived on h => exact .derived on (List.mem_filter.2 ⟨h, hkept hs hd⟩)
  | overridden on h => exact .overridden on (List.mem_filter.2 ⟨h, hkept hd hs⟩)
  | overriding on h => exact .overriding on (List.mem_filter.2 ⟨h, hkept hs hd⟩)
  | child on hx hp => exact .child on (hget hd hx) hp
  | parent on hx hp => exact .parent on (hget hs hx) hp
  | namespaceParent on hx hn =>
    obtain ⟨hn, hne⟩ := RelationTables.namespaceOf_eq_some.1 hn
    exact .namespaceParent on (hget hs hx)
      (RelationTables.namespaceOf_eq_some.2 ⟨get?_namespaces_restrict hk hn hd, hne⟩)

/-- A step in the restriction is a step, if its calls are and the namespace that the scope of `s`
names is kept. -/
theorem of_restrict (hk : ix.Keyed) (hcalls : ∀ c ∈ calls', c ∈ calls)
    (hnamespace : r.namespaceParent = true → ∀ x n, ix.get? s = some x →
      ix.namespaces.get? x.scope = some n → n ∈ ids)
    (h : (ix.restrict ids).Near calls' r s d) : ix.Near calls r s d := by
  have hget : ∀ {id x}, (ix.restrict ids).get? id = some x → ix.get? id = some x :=
    fun hx => ((get?_restrict_iff hk ids).1 hx).2
  cases h with
  | callee on h => exact .callee on (hcalls _ h)
  | caller on h => exact .caller on (hcalls _ h)
  | base on h => exact .base on (List.mem_of_mem_filter h)
  | derived on h => exact .derived on (List.mem_of_mem_filter h)
  | overridden on h => exact .overridden on (List.mem_of_mem_filter h)
  | overriding on h => exact .overriding on (List.mem_of_mem_filter h)
  | child on hx hp => exact .child on (hget hx) hp
  | parent on hx hp => exact .parent on (hget hx) hp
  | @namespaceParent on x hx hn =>
    obtain ⟨hn, hne⟩ := RelationTables.namespaceOf_eq_some.1 hn
    cases hfull : ix.namespaces.get? x.scope with
    | none =>
      rw [get?_namespaces_restrict_of_none hk ids hfull] at hn
      cases hn
    | some n =>
      have hkept := hnamespace on x n (hget hx) hfull
      rw [get?_namespaces_restrict hk hfull hkept] at hn
      cases hn
      exact .namespaceParent on (hget hx) (RelationTables.namespaceOf_eq_some.2 ⟨hfull, hne⟩)

end Index.Near

theorem Index.contains_of_get?_namespaces {ix : Index} (hk : ix.Keyed) {name id : String}
    (h : ix.namespaces.get? name = some id) : ix.contains id = true := by
  obtain ⟨s, hs, he⟩ := List.mem_filterMap.1 (Table.mem_of_get?_ofList h)
  obtain ⟨_, -, he⟩ := Option.map_eq_some_iff.1 he
  cases he
  exact contains_iff.2 ⟨s, hk.get?_of_mem hs⟩

/-! ## Scopes -/

namespace Scope

/-- The symbols of the index that are one step from `id`. -/
def knownNeighbours (ix : Index) (r : ScopeRelations) (id : String) : KeySet String :=
  ((tables ix r).neighbours r id).filter ix.contains

/-- The ids that a scope keeps. -/
abbrev kept (scope : Scope) : KeySet String := scope.seeds.union scope.dependencies

section Around
variable {ix : Index} {t : RelationTables} {r : ScopeRelations} {seeds : KeySet String}
  {s d : String}

theorem around_index : (around ix t r seeds).index = ix.restrict (around ix t r seeds).kept := rfl

theorem mem_seeds_around :
    s ∈ (around ix t r seeds).seeds ↔ s ∈ seeds ∧ ix.contains s = true :=
  KeySet.mem_filter

theorem mem_dependencies_around : d ∈ (around ix t r seeds).dependencies ↔
    ix.contains d = true ∧ d ∉ (around ix t r seeds).seeds ∧
      ∃ s ∈ (around ix t r seeds).seeds, d ∈ t.neighbours r s := by
  simp only [around, dependenciesOf, KeySet.mem_ofList, List.mem_filter, List.mem_flatMap,
    KeySet.mem_toList, Bool.and_eq_true, Bool.not_eq_true', ← Bool.not_eq_true,
    KeySet.contains_iff]
  tauto

end Around

section Build
variable {ix : Index} {r : ScopeRelations} {seeds : KeySet String} {s d : String}

theorem build_index : (build ix r seeds).index = ix.restrict (build ix r seeds).kept := around_index

theorem mem_seeds : s ∈ (build ix r seeds).seeds ↔ s ∈ seeds ∧ ix.contains s = true :=
  mem_seeds_around

theorem mem_dependencies : d ∈ (build ix r seeds).dependencies ↔
    (∃ s ∈ (build ix r seeds).seeds, d ∈ knownNeighbours ix r s) ∧
      d ∉ (build ix r seeds).seeds := by
  rw [build, mem_dependencies_around]
  simp only [knownNeighbours, KeySet.mem_filter]
  tauto

/-- What is one step from a seed is kept. -/
theorem mem_kept (hs : s ∈ (build ix r seeds).seeds) (hd : d ∈ knownNeighbours ix r s) :
    d ∈ (build ix r seeds).kept := by
  rw [KeySet.mem_union]
  by_cases hseed : d ∈ (build ix r seeds).seeds
  · exact .inl hseed
  · exact .inr (mem_dependencies.2 ⟨⟨s, hs, hd⟩, hseed⟩)

theorem mem_knownNeighbours (hk : ix.Keyed) : d ∈ knownNeighbours ix r s ↔
    ix.Near (ix.callsFrom ix.callerSource) r s d ∧ ix.contains d = true := by
  rw [knownNeighbours, KeySet.mem_filter, tables, RelationTables.mem_neighbours hk]
  refine and_congr_left fun _ => Index.Near.congr_calls fun on c => ?_
  rw [if_pos on]
  exact CallGraph.mem_calls_ofCalls

theorem keyed_build (hk : ix.Keyed) : (build ix r seeds).index.Keyed :=
  (Index.restrict_wellFormed hk _).toKeyed

variable (hw : ix.WellFormed)
include hw

/-- What is one step from a seed is one step from it in the scope. -/
theorem mem_knownNeighbours_build (hs : s ∈ (build ix r seeds).seeds)
    (hd : d ∈ knownNeighbours ix r s) : d ∈ knownNeighbours (build ix r seeds).index r s := by
  have hkept := mem_kept hs hd
  obtain ⟨hnear, hknown⟩ := (mem_knownNeighbours hw.toKeyed).1 hd
  rw [mem_knownNeighbours (keyed_build hw.toKeyed), build_index]
  refine ⟨hnear.restrict hw.toKeyed ?_ (KeySet.mem_union.2 (.inl hs)) hkept, ?_⟩
  · exact fun c hc hcaller hcallee => Index.mem_callsFrom_restrict hw hc hcaller hcallee
  · exact (Index.contains_restrict hw.toKeyed _ d).2 ⟨hkept, hknown⟩

/-- Nothing else is, where callers come from containers or calls lie in one function each. The
namespace of a seed is a dependency, so no other one of its name takes its place. -/
theorem mem_of_knownNeighbours_build (hs : s ∈ (build ix r seeds).seeds)
    (hplaced : ix.callerSource = .container ∨ ix.CallsPlacedOnce)
    (hd : d ∈ knownNeighbours (build ix r seeds).index r s) : d ∈ knownNeighbours ix r s := by
  have hk := hw.toKeyed
  rw [mem_knownNeighbours (keyed_build hk), build_index] at hd
  refine (mem_knownNeighbours hk).2 ⟨hd.1.of_restrict hk ?calls ?outer, ?known⟩
  case calls => exact fun c hc => Index.mem_of_callsFrom_restrict hw hplaced hc
  case outer =>
    intro on x n hx hn
    by_cases hself : n = s
    · rw [hself]
      exact KeySet.mem_union.2 (.inl hs)
    · have hne : n ≠ x.id := by rwa [hk.id_of_get? hx]
      refine mem_kept hs ((mem_knownNeighbours hk).2 ⟨?_, Index.contains_of_get?_namespaces hk hn⟩)
      exact .namespaceParent on hx (RelationTables.namespaceOf_eq_some.2 ⟨hn, hne⟩)
  case known => exact ((Index.contains_restrict hk _ d).1 hd.2).2

/-- Whatever a scope knows besides its seeds are its dependencies. -/
theorem build_build : build (build ix r seeds).index r seeds = build ix r seeds := by
  have hseeds : (build (build ix r seeds).index r seeds).seeds = (build ix r seeds).seeds := by
    refine KeySet.ext_mem fun id => ?_
    rw [mem_seeds, mem_seeds, build_index, Index.contains_restrict hw.toKeyed]
    refine ⟨fun ⟨hid, _, hknown⟩ => ⟨hid, hknown⟩, fun ⟨hid, hknown⟩ => ⟨hid, ?_, hknown⟩⟩
    exact KeySet.mem_union.2 (.inl (mem_seeds.2 ⟨hid, hknown⟩))
  have hdependencies : (build (build ix r seeds).index r seeds).dependencies =
      (build ix r seeds).dependencies := by
    refine KeySet.ext_mem fun id => ?_
    rw [mem_dependencies, hseeds]
    refine ⟨fun ⟨⟨s, hs, hid⟩, hseed⟩ => ?_, fun h => ?_⟩
    · rw [mem_knownNeighbours (keyed_build hw.toKeyed), build_index,
        Index.contains_restrict hw.toKeyed, KeySet.mem_union] at hid
      exact hid.2.1.resolve_left hseed
    · obtain ⟨⟨s, hs, hid⟩, hseed⟩ := mem_dependencies.1 h
      exact ⟨⟨s, hs, mem_knownNeighbours_build hw hs hid⟩, hseed⟩
  have hindex : (build (build ix r seeds).index r seeds).index = (build ix r seeds).index := by
    rw [build_index, kept, hseeds, hdependencies, build_index, Index.restrict_restrict hw.toKeyed,
      KeySet.inter_self]
  exact (Scope.mk.injEq ..).mpr ⟨hseeds, hdependencies, hindex⟩

end Build

/-- A scope is sufficient: from its own index the neighbours of its seeds come out as from the whole
index, where callers come from containers or no call lies in two functions. Building the scope
again from its own index changes nothing. The index has to be in sync, its callables being the
symbols of callable kind. A scope counts its callables anew, so it may find other calls than a table
read back whose kinds have changed and whose callables have not. Which tables these are, says
`Index.decode_reconcile_ofDocuments`. -/
theorem build_sufficient {ix : Index} (hw : ix.WellFormed) (r : ScopeRelations)
    (seeds : KeySet String) :
    let scope := build ix r seeds
    ((ix.callerSource = .container ∨ ix.CallsPlacedOnce) →
      ∀ s ∈ scope.seeds, knownNeighbours scope.index r s = knownNeighbours ix r s) ∧
      build scope.index r seeds = scope := by
  refine ⟨fun hplaced s hs => KeySet.ext_mem fun d => ?_, build_build hw⟩
  exact ⟨mem_of_knownNeighbours_build hw hs hplaced, mem_knownNeighbours_build hw hs⟩

/-- The scope of a function that is called knows its caller. -/
theorem build_sufficient_callIndex :
    let scope := build Index.callIndex {} (.ofList ["g"])
    scope.dependencies = .ofList ["f"] ∧
      knownNeighbours scope.index {} "g" = knownNeighbours Index.callIndex {} "g" ∧
      build scope.index {} (.ofList ["g"]) = scope := by
  have hw : Index.callIndex.WellFormed := (Index.WellFormed.ofSymbols _).withFormat true true
  have h := build_sufficient hw {} (.ofList ["g"])
  exact ⟨by decide, h.1 (.inl rfl) "g" (by decide), h.2⟩

end Scope

end SymbolAtlas
