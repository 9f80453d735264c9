import SymbolAtlas.Proofs.Index.Restrict
import SymbolAtlas.Proofs.Scope
import SymbolAtlas.Reconcile.Cycle

/-!
# Scopes hold one step

`Scope.around_one_step` says what a scope is made of, whatever calls it is given: the seeds that the
index knows, what else it knows one step from them along the relations that are followed, and of
the index the part between these ids. Two steps away there is nothing. Only what the index knows is
asked for, so the pairs of a scope join symbols of it (`Scope.closed_around`).
-/

namespace SymbolAtlas

/-- The qualified name of a namespace ends in a separator, so no empty scope names one. -/
theorem Index.ne_empty_of_get?_namespaces {ix : Index} {name id : String}
    (h : ix.namespaces.get? name = some id) : name ≠ "" := by
  obtain ⟨s, -, he⟩ := List.mem_filterMap.1 (Table.mem_of_get?_ofList h)
  obtain ⟨qualified, hq, he⟩ := Option.map_eq_some_iff.1 he
  cases he
  unfold Symbol.qualifiedNamespace at hq
  split at hq
  · cases hq
    simp [String.append_eq_empty_iff]
  · cases hq

namespace Scope

variable {ix : Index} {t : RelationTables} {r : ScopeRelations} {seeds : KeySet String}
  {id : String}

theorem get?_around (hk : ix.Keyed) : (around ix t r seeds).index.get? id =
    if id ∈ (around ix t r seeds).seeds ∨ id ∈ (around ix t r seeds).dependencies
      then ix.get? id else none := by
  refine Option.ext fun s => ?_
  rw [around_index, Index.get?_restrict_iff hk, KeySet.mem_union]
  split
  · next h => exact and_iff_right h
  · next h => exact iff_of_false (fun hs => h hs.1) nofun

/-- All that is kept is known. -/
theorem contains_around (hk : ix.Keyed) : (around ix t r seeds).index.contains id =
    (around ix t r seeds).kept.contains id := by
  rw [Bool.eq_iff_iff, around_index, Index.contains_restrict hk, KeySet.contains_iff]
  refine and_iff_left_of_imp fun h => ?_
  rcases KeySet.mem_union.1 h with h | h
  · exact (mem_seeds_around.1 h).2
  · exact (mem_dependencies_around.1 h).1

/-- The pairs of a scope join symbols of it. -/
theorem closed_around (hk : ix.Keyed) : (around ix t r seeds).index.Closed := by
  have hkept : ∀ id ∈ (around ix t r seeds).kept, ix.contains id = true := fun id hid => by
    have hcontains := (contains_around hk).trans (KeySet.contains_iff.2 hid)
    rw [around_index, Index.contains_restrict hk] at hcontains
    exact hcontains.2
  rw [around_index]
  exact Index.closed_restrict_of_known hk hkept

/-- The steps along tables, with what each table holds written out. A symbol is no step from
itself, so its own namespace name is no case apart. -/
theorem mem_neighbours_build_iff (hk : ix.Keyed) {g : CallGraph} {s d : String} (hne : s ≠ d) :
    d ∈ (RelationTables.build ix g).neighbours r s ↔
      (r.calls = true ∧ (⟨s, d⟩ ∈ g.calls ∨ ⟨d, s⟩ ∈ g.calls)) ∨
        (r.lexicalParent = true ∧ ix.parent? s = some d) ∨
        (r.children = true ∧ ix.parent? d = some s) ∨
        (r.inheritance = true ∧ (⟨s, d⟩ ∈ ix.inheritance ∨ ⟨d, s⟩ ∈ ix.inheritance)) ∨
        (r.overrides = true ∧ (⟨s, d⟩ ∈ ix.overrides ∨ ⟨d, s⟩ ∈ ix.overrides)) ∨
        (r.namespaceParent = true ∧ ∃ x, ix.get? s = some x ∧ x.scope ≠ "" ∧
          ix.namespaces.get? x.scope = some d) := by
  have hparent : ∀ {a p}, ix.parent? a = some p ↔ ∃ x, ix.get? a = some x ∧ x.parentId = some p :=
    Option.bind_eq_some_iff
  rw [RelationTables.mem_neighbours hk, hparent, hparent]
  refine ⟨fun h => ?_, fun h => ?_⟩
  · cases h with
    | callee on h => exact .inl ⟨on, .inl h⟩
    | caller on h => exact .inl ⟨on, .inr h⟩
    | parent on hx hp => exact .inr (.inl ⟨on, _, hx, hp⟩)
    | child on hx hp => exact .inr (.inr (.inl ⟨on, _, hx, hp⟩))
    | derived on h => exact .inr (.inr (.inr (.inl ⟨on, .inl h⟩)))
    | base on h => exact .inr (.inr (.inr (.inl ⟨on, .inr h⟩)))
    | overriding on h => exact .inr (.inr (.inr (.inr (.inl ⟨on, .inl h⟩))))
    | overridden on h => exact .inr (.inr (.inr (.inr (.inl ⟨on, .inr h⟩))))
    | namespaceParent on hx hn =>
      have hn := (RelationTables.namespaceOf_eq_some.1 hn).1
      exact .inr (.inr (.inr (.inr (.inr
        ⟨on, _, hx, Index.ne_empty_of_get?_namespaces hn, hn⟩))))
  · rcases h with ⟨on, h | h⟩ | ⟨on, x, hx, hp⟩ | ⟨on, x, hx, hp⟩ | ⟨on, h | h⟩ | ⟨on, h | h⟩ |
      ⟨on, x, hx, -, hn⟩
    · exact .callee on h
    · exact .caller on h
    · exact .parent on hx hp
    · exact .child on hx hp
    · exact .derived on h
    · exact .base on h
    · exact .overriding on h
    · exact .overridden on h
    · rw [← hk.id_of_get? hx] at hne
      exact .namespaceParent on hx (RelationTables.namespaceOf_eq_some.2 ⟨hn, hne.symm⟩)

/-- The scope of the seeds in an index with these calls. Its seeds are those that are known, and its
dependencies the other known ids one step from a seed: along a call, to or from the lexical parent,
along an inheritance or an override pair, or to the namespace of the scope. Its index holds these
symbols as they were, the callables among them, and the pairs between them in their order. -/
theorem around_one_step (hk : ix.Keyed) (g : CallGraph) (r : ScopeRelations)
    (seeds : KeySet String) :
    let scope := around ix (.build ix g) r seeds
    let within := fun p : Relation => scope.index.contains p.base && scope.index.contains p.derived
    (∀ s, s ∈ scope.seeds ↔ s ∈ seeds ∧ ix.contains s = true) ∧
      (∀ d, d ∈ scope.dependencies ↔ ix.contains d = true ∧ d ∉ scope.seeds ∧ ∃ s ∈ scope.seeds,
        (r.calls = true ∧ (⟨s, d⟩ ∈ g.calls ∨ ⟨d, s⟩ ∈ g.calls)) ∨
        (r.lexicalParent = true ∧ ix.parent? s = some d) ∨
        (r.children = true ∧ ix.parent? d = some s) ∨
        (r.inheritance = true ∧ (⟨s, d⟩ ∈ ix.inheritance ∨ ⟨d, s⟩ ∈ ix.inheritance)) ∨
        (r.overrides = true ∧ (⟨s, d⟩ ∈ ix.overrides ∨ ⟨d, s⟩ ∈ ix.overrides)) ∨
        (r.namespaceParent = true ∧ ∃ x, ix.get? s = some x ∧ x.scope ≠ "" ∧
          ix.namespaces.get? x.scope = some d)) ∧
      (∀ id, scope.index.get? id =
        if id ∈ scope.seeds ∨ id ∈ scope.dependencies then ix.get? id else none) ∧
      (∀ id, id ∈ scope.index.callables ↔
        ∃ s, scope.index.get? id = some s ∧ s.isCallable = true) ∧
      scope.index.inheritance = ix.inheritance.filter within ∧
      scope.index.overrides = ix.overrides.filter within := by
  intro scope within
  have hpairs : ∀ l : List Relation, (l.filter fun p =>
      scope.kept.contains p.base && scope.kept.contains p.derived) = l.filter within := fun l =>
    List.filter_congr fun p _ => by
      show _ = (scope.index.contains p.base && scope.index.contains p.derived)
      rw [contains_around hk, contains_around hk]
  refine ⟨fun s => mem_seeds_around, fun d => ?dependencies, fun id => get?_around hk,
    (Index.restrict_wellFormed hk _).callable, hpairs _, hpairs _⟩
  rw [mem_dependencies_around]
  refine and_congr_right fun _ => and_congr_right fun hd => exists_congr fun s =>
    and_congr_right fun hs => ?_
  have hne : s ≠ d := fun e => hd (e ▸ hs)
  exact mem_neighbours_build_iff hk hne

/-- A class in a namespace, with a method that a function calls. -/
def classIndex : Index := .ofSymbols
  [{ id := "c", name := "C", kind := .classType, scope := "geo::" },
    { id := "f", name := "f", kind := .function },
    { id := "m", name := "m", kind := .instanceMethod, parentId := some "c" },
    { id := "n", name := "geo", kind := .nameSpace }]

/-- The scope of the class holds its namespace and its method, and not what calls the method. -/
theorem around_classIndex :
    let scope := around classIndex (.build classIndex (.ofCalls false [⟨"f", "m"⟩])) {}
      (.ofList ["c", "gone"])
    "c" ∈ scope.seeds ∧ "gone" ∉ scope.seeds ∧ "n" ∈ scope.dependencies ∧
      "m" ∈ scope.dependencies ∧ "f" ∉ scope.dependencies ∧ scope.index.get? "f" = none := by
  intro scope
  have hw : classIndex.WellFormed := .ofSymbols _
  obtain ⟨hseeds, hdependencies, hget, -⟩ :=
    around_one_step hw.toKeyed (.ofCalls false [⟨"f", "m"⟩]) {} (.ofList ["c", "gone"])
  have hc : "c" ∈ scope.seeds := (hseeds "c").2 ⟨by decide, by decide⟩
  have hf : "f" ∉ scope.dependencies := by decide
  refine ⟨hc, fun h => ?gone, (hdependencies "n").2 ?outer, (hdependencies "m").2 ?method, hf,
    (hget "f").trans (if_neg ?apart)⟩
  case gone => exact absurd ((hseeds "gone").1 h).2 (by decide)
  case outer =>
    exact ⟨by decide, by decide, "c", hc,
      .inr (.inr (.inr (.inr (.inr ⟨rfl, _, rfl, by decide, by decide⟩))))⟩
  case method => exact ⟨by decide, by decide, "c", hc, .inr (.inr (.inl ⟨rfl, by decide⟩))⟩
  case apart => decide

end Scope

end SymbolAtlas
