import SymbolAtlas.Index
import SymbolAtlas.Proofs.Order

/-!
# Indexes by their look-ups

What each operation of an index does to the symbol under an id, and that every operation keeps
`Index.WellFormed`. Of its two halves most results need only `Index.Keyed`, that symbols are filed
under their own ids. A restriction cuts the tables down and changes nothing else
(`restrict_symbols`, `restrict_callables`).
-/

namespace SymbolAtlas.Index

open Std

variable {ix : Index} {id : String} {s : Symbol} {keep : Symbol → Bool} {ids : KeySet String}

theorem contains_iff : ix.contains id = true ↔ ∃ s, ix.get? id = some s := Table.contains_iff

theorem get?_eq_none (h : ix.contains id = false) : ix.get? id = none :=
  Option.not_isSome_iff_eq_none.1 (Bool.not_eq_true _ ▸ h)

theorem mem_all : s ∈ ix.all ↔ ∃ id, ix.get? id = some s := Table.mem_values

theorem ascending_ids (ix : Index) : Ascending ix.ids := List.pairwise_map.2 ix.symbols.ascending

/-! ## Look-ups -/

theorem get?_insert (ix : Index) (s : Symbol) (id : String) :
    (ix.insert s).get? id = if id = s.id then some s else ix.get? id :=
  Table.get?_insert ..

theorem get?_mapSymbols (ix : Index) (f : Symbol → Symbol) (id : String) :
    (ix.mapSymbols f).get? id = (ix.get? id).map f :=
  Table.get?_map ..

theorem get?_modify (ix : Index) (a : String) (f : Symbol → Symbol) (id : String) :
    (ix.modify a f).get? id = if id = a then (ix.get? id).map f else ix.get? id :=
  Table.get?_modify ..

theorem contains_mapSymbols (ix : Index) (f : Symbol → Symbol) (id : String) :
    (ix.mapSymbols f).contains id = ix.contains id :=
  Table.contains_mapWithKey ..

theorem contains_modify (ix : Index) (a : String) (f : Symbol → Symbol) (id : String) :
    (ix.modify a f).contains id = ix.contains id :=
  Table.contains_mapWithKey ..

theorem get?_retain (ix : Index) (keep : Symbol → Bool) (id : String) :
    (ix.retain keep).get? id = (ix.get? id).filter keep :=
  Table.get?_filter ..

theorem contains_insert : (ix.insert s).contains id = true ↔ id = s.id ∨ ix.contains id = true := by
  rw [contains_iff, contains_iff, get?_insert]
  split <;> simp_all

theorem isCallable_insert (ix : Index) (s : Symbol) (id : String) :
    (ix.insert s).isCallable id = if id = s.id then s.isCallable else ix.isCallable id := by
  have hmem : (ix.insert s).isCallable id = true ↔
      if id = s.id then s.isCallable = true else ix.isCallable id = true := by
    simp only [isCallable, KeySet.contains_iff]
    cases hs : s.isCallable <;>
      simp only [Index.insert, hs, if_true, Bool.false_eq_true, if_false, KeySet.mem_insert,
        KeySet.mem_erase] <;>
      by_cases e : id = s.id <;> simp [e]
  rw [Bool.eq_iff_iff, hmem]
  split <;> rfl

theorem isCallable_retain (ix : Index) (keep : Symbol → Bool) (id : String) :
    (ix.retain keep).isCallable id = (ix.isCallable id && (ix.retain keep).contains id) := by
  have hmem : id ∈ (ix.retain keep).callables ↔
      id ∈ ix.callables ∧ (ix.retain keep).contains id = true :=
    KeySet.mem_filter
  rw [Bool.eq_iff_iff, Bool.and_eq_true]
  exact hmem

theorem get?_of_retain (h : (ix.retain keep).get? id = some s) : ix.get? id = some s := by
  rw [get?_retain, Option.filter_eq_some_iff] at h
  exact h.1

theorem mem_all_of_retain (h : s ∈ (ix.retain keep).all) : s ∈ ix.all := by
  obtain ⟨id, hid⟩ := mem_all.1 h
  exact mem_all.2 ⟨id, get?_of_retain hid⟩

theorem ext_get? {jx : Index} (h : ∀ id, ix.get? id = jx.get? id)
    (hrest : ({ ix with symbols := ∅ } : Index) = { jx with symbols := ∅ }) : ix = jx := by
  have hsymbols : ix.symbols = jx.symbols := Table.ext_get? h
  cases ix
  cases jx
  simp_all

theorem mapSymbols_eq_self_iff {f : Symbol → Symbol} :
    ix.mapSymbols f = ix ↔ ∀ s ∈ ix.all, f s = s := by
  refine ⟨fun h s hs => ?_, fun h => ext_get? (fun id => ?_) rfl⟩
  · obtain ⟨id, hid⟩ := mem_all.1 hs
    have hget := get?_mapSymbols ix f id
    rw [h, hid, Option.map_some] at hget
    exact (Option.some.inj hget).symm
  · rw [get?_mapSymbols]
    cases hid : ix.get? id with
    | none => rfl
    | some s => rw [Option.map_some, h s (mem_all.2 ⟨id, hid⟩)]

/-! ## The list of symbols -/

theorem length_all (ix : Index) : ix.all.length = ix.size := List.length_map ..

theorem all_mapSymbols (ix : Index) (f : Symbol → Symbol) :
    (ix.mapSymbols f).all = ix.all.map f := by
  simp [all, mapSymbols, Table.values, Table.map, Table.mapWithKey]

theorem all_retain (ix : Index) (keep : Symbol → Bool) :
    (ix.retain keep).all = ix.all.filter keep := by
  simp only [all, retain, Table.values, Table.filter, List.filter_map]
  rfl

/-- What a change leaves of every symbol it leaves of the list. -/
theorem map_all_modify {α : Type} {g : Symbol → α} {f : Symbol → Symbol} (h : ∀ s, g (f s) = g s)
    (ix : Index) (a : String) : (ix.modify a f).all.map g = ix.all.map g := by
  simp only [all, modify, Table.modify, Table.values, Table.mapWithKey, List.map_map]
  refine List.map_congr_left fun e _ => ?_
  simp only [Function.comp_apply]
  split
  · exact h _
  · rfl

theorem perm_all_insert (h : ix.contains s.id = false) :
    (ix.insert s).all.Perm (s :: ix.all) := by
  have hnone : Table.lookup s.id ix.symbols.entries = none := get?_eq_none h
  exact (Table.perm_put s hnone).map (·.2)

/-! ## Symbols under their own ids -/

/-- Every symbol is filed under its own id. -/
def Keyed (ix : Index) : Prop := ∀ e ∈ ix.symbols.entries, e.1 = e.2.id

instance (ix : Index) : Decidable ix.Keyed := inferInstanceAs (Decidable (∀ e ∈ _, _))

namespace Keyed

theorem id_of_get? (h : ix.Keyed) (hs : ix.get? id = some s) : s.id = id :=
  (h (id, s) (Table.get?_eq_some_iff.1 hs)).symm

theorem get?_of_mem (h : ix.Keyed) (hs : s ∈ ix.all) : ix.get? s.id = some s := by
  obtain ⟨id, hid⟩ := mem_all.1 hs
  rwa [h.id_of_get? hid]

/-- The symbols of an index are listed by id. -/
theorem pairwise_id (h : ix.Keyed) : ix.all.Pairwise fun s t => compare s.id t.id = .lt :=
  Table.pairwise_values h

theorem get?_of_mem_callableSymbols (h : ix.Keyed) (hs : s ∈ ix.callableSymbols) :
    ix.get? s.id = some s := by
  obtain ⟨id, -, hid⟩ := List.mem_filterMap.1 hs
  rwa [h.id_of_get? hid]

theorem pairwise_callableSymbols (h : ix.Keyed) :
    ix.callableSymbols.Pairwise fun s t => compare s.id t.id = .lt := by
  rw [callableSymbols, List.pairwise_filterMap]
  refine (KeySet.ascending_toList ix.callables).imp fun hlt s hs t ht => ?_
  rwa [h.id_of_get? hs, h.id_of_get? ht]

theorem of_get? (h : ∀ id s, ix.get? id = some s → s.id = id) : ix.Keyed := fun e he =>
  (h e.1 e.2 (Table.get?_eq_some_iff.2 he)).symm

theorem insert (h : ix.Keyed) (s : Symbol) : (ix.insert s).Keyed := by
  refine of_get? fun id t ht => ?_
  rw [get?_insert] at ht
  split at ht
  · next e =>
    cases ht
    exact e.symm
  · exact h.id_of_get? ht

/-- Whether symbols are filed under their ids depends on what the ids are. -/
theorem congr {jx : Index} (h : ix.Keyed)
    (hid : ∀ id, (jx.get? id).map (·.id) = (ix.get? id).map (·.id)) : jx.Keyed := by
  refine of_get? fun id s hs => ?_
  have hmap := hid id
  rw [hs] at hmap
  obtain ⟨t, ht, he⟩ := Option.map_eq_some_iff.1 hmap.symm
  exact he.symm.trans (h.id_of_get? ht)

theorem mapSymbols (h : ix.Keyed) {f : Symbol → Symbol} (hid : ∀ s, (f s).id = s.id) :
    (ix.mapSymbols f).Keyed := by
  refine h.congr fun id => ?_
  rw [get?_mapSymbols]
  cases ix.get? id <;> simp [hid]

theorem retain (h : ix.Keyed) (keep : Symbol → Bool) : (ix.retain keep).Keyed :=
  of_get? fun _ _ hs => h.id_of_get? (get?_of_retain hs)

end Keyed

/-! ## Well-formed indexes -/

namespace WellFormed

theorem toKeyed (h : ix.WellFormed) : ix.Keyed := h.keyed

/-- An index is well-formed if every symbol is found under its own id and the callables are those
of callable kind. -/
theorem of_get? (hk : ∀ id s, ix.get? id = some s → s.id = id)
    (hc : ∀ id, id ∈ ix.callables ↔ ∃ s, ix.get? id = some s ∧ s.isCallable = true) :
    ix.WellFormed :=
  ⟨Keyed.of_get? hk, hc⟩

theorem mem_callables (h : ix.WellFormed) :
    id ∈ ix.callables ↔ ∃ s, ix.get? id = some s ∧ s.isCallable = true :=
  h.callable id

theorem isCallable_of_get? (h : ix.WellFormed) (hs : ix.get? id = some s) :
    ix.isCallable id = s.isCallable := by
  rw [Bool.eq_iff_iff]
  refine h.mem_callables.trans ⟨?_, fun hcall => ⟨s, hs, hcall⟩⟩
  rintro ⟨t, ht, hcall⟩
  rw [hs] at ht
  exact Option.some.inj ht ▸ hcall

theorem toList_callables (h : ix.WellFormed) :
    ix.callables.toList = (ix.all.filter Symbol.isCallable).map (·.id) := by
  refine (KeySet.ascending_toList _).eq_of_mem_iff
    (List.pairwise_map.2 (h.toKeyed.pairwise_id.filter _)) fun id => ?_
  rw [KeySet.mem_toList, h.mem_callables, List.mem_map]
  simp only [List.mem_filter]
  refine ⟨?_, ?_⟩
  · rintro ⟨s, hs, hcall⟩
    exact ⟨s, ⟨mem_all.2 ⟨id, hs⟩, hcall⟩, h.toKeyed.id_of_get? hs⟩
  · rintro ⟨s, ⟨hs, hcall⟩, rfl⟩
    exact ⟨s, h.toKeyed.get?_of_mem hs, hcall⟩

theorem callableSymbols_eq (h : ix.WellFormed) :
    ix.callableSymbols = ix.all.filter Symbol.isCallable := by
  have hfound : ∀ s ∈ ix.all.filter Symbol.isCallable, ix.get? s.id = some s := fun s hs =>
    h.toKeyed.get?_of_mem (List.mem_of_mem_filter hs)
  rw [callableSymbols, h.toList_callables, List.filterMap_map]
  exact (List.filterMap_congr hfound).trans List.filterMap_some

theorem empty : (∅ : Index).WellFormed := by
  refine of_get? (fun id s h => ?_) fun id => ?_
  · cases h
  · exact ⟨fun h => absurd h (KeySet.not_mem_empty id), fun ⟨_, h, _⟩ => by cases h⟩

theorem insert (h : ix.WellFormed) (s : Symbol) : (ix.insert s).WellFormed := by
  refine ⟨h.toKeyed.insert s, fun id => ?_⟩
  show (ix.insert s).isCallable id = true ↔
    ∃ t, (ix.insert s).get? id = some t ∧ t.isCallable = true
  rw [isCallable_insert, get?_insert]
  split
  · simp
  · exact h.mem_callables

theorem ofSymbols (l : List Symbol) : (Index.ofSymbols l).WellFormed := by
  have run : ∀ (l : List Symbol) (ix : Index), ix.WellFormed →
      (l.foldl Index.insert ix).WellFormed := by
    intro l
    induction l with
    | nil => exact fun _ h => h
    | cons s l ih => exact fun ix h => ih _ (h.insert s)
  exact run l ∅ empty

/-- Whether an index is well-formed depends on its callables and on which of its symbols are. -/
theorem congr {jx : Index} (h : ix.WellFormed) (hc : jx.callables = ix.callables)
    (hid : ∀ id, (jx.get? id).map (·.id) = (ix.get? id).map (·.id))
    (hcall : ∀ id, (jx.get? id).map (·.isCallable) = (ix.get? id).map (·.isCallable)) :
    jx.WellFormed := by
  refine ⟨h.toKeyed.congr hid, fun id => ?_⟩
  show _ ↔ ∃ s, jx.get? id = some s ∧ s.isCallable = true
  rw [hc, h.mem_callables, ← Option.map_eq_some_iff, ← Option.map_eq_some_iff, hcall]

theorem mapSymbols (h : ix.WellFormed) {f : Symbol → Symbol} (hid : ∀ s, (f s).id = s.id)
    (hkind : ∀ s, (f s).kind = s.kind) : (ix.mapSymbols f).WellFormed := by
  refine h.congr rfl (fun id => ?_) fun id => ?_ <;> rw [get?_mapSymbols] <;>
    cases ix.get? id <;> simp [hid, Symbol.isCallable, hkind]

theorem modify (h : ix.WellFormed) (a : String) {f : Symbol → Symbol} (hid : ∀ s, (f s).id = s.id)
    (hkind : ∀ s, (f s).kind = s.kind) : (ix.modify a f).WellFormed := by
  refine h.congr rfl (fun id => ?_) fun id => ?_ <;> rw [get?_modify] <;> split <;>
    cases ix.get? id <;> simp [hid, Symbol.isCallable, hkind]

/-- The symbols of a well-formed index determine its callables. -/
theorem callables_eq {jx : Index} (h : ix.WellFormed) (hj : jx.WellFormed)
    (hcall : ∀ id, (ix.get? id).map (·.isCallable) = (jx.get? id).map (·.isCallable)) :
    ix.callables = jx.callables := by
  refine KeySet.ext_mem fun id => ?_
  rw [h.mem_callables, hj.mem_callables, ← Option.map_eq_some_iff, ← Option.map_eq_some_iff, hcall]

theorem retain (h : ix.WellFormed) (keep : Symbol → Bool) : (ix.retain keep).WellFormed := by
  refine ⟨h.toKeyed.retain keep, fun id => ?_⟩
  show (ix.retain keep).isCallable id = true ↔
    ∃ s, (ix.retain keep).get? id = some s ∧ s.isCallable = true
  have hcall : ix.isCallable id = true ↔ ∃ s, ix.get? id = some s ∧ s.isCallable = true :=
    h.mem_callables
  rw [isCallable_retain, Bool.and_eq_true, hcall, contains_iff]
  simp only [get?_retain, Option.filter_eq_some_iff]
  refine ⟨?_, ?_⟩
  · rintro ⟨⟨s, hs, hcall⟩, t, ht, hkeep⟩
    obtain rfl := Option.some.inj (hs.symm.trans ht)
    exact ⟨s, ⟨hs, hkeep⟩, hcall⟩
  · rintro ⟨s, ⟨hs, hkeep⟩, hcall⟩
    exact ⟨⟨s, hs, hcall⟩, s, hs, hkeep⟩

theorem withFormat (h : ix.WellFormed) (hasContainers hasCallKind : Bool) :
    (ix.withFormat hasContainers hasCallKind).WellFormed :=
  ⟨h.keyed, h.callable⟩

end WellFormed

/-! ## Restrictions -/

theorem get?_foldl_insert_iff (l : List Symbol) (hid : ∀ s ∈ l, ∀ t ∈ l, s.id = t.id → s = t) :
    ∀ ix : Index, (l.foldl insert ix).get? id = some s ↔
      (s ∈ l ∧ s.id = id) ∨ ((∀ t ∈ l, t.id ≠ id) ∧ ix.get? id = some s) := by
  induction l with
  | nil => simp
  | cons a l ih =>
    intro ix
    rw [List.foldl_cons, ih fun x hx y hy => hid x (List.mem_cons_of_mem _ hx) y
      (List.mem_cons_of_mem _ hy), get?_insert]
    by_cases h : id = a.id
    · subst h
      have same : ∀ t ∈ l, t.id = a.id → t = a := fun t ht =>
        hid t (List.mem_cons_of_mem _ ht) a (List.mem_cons_self ..)
      simp only [if_true, Option.some.injEq, List.mem_cons, forall_eq_or_imp, ne_eq, not_true,
        false_and, or_false]
      refine ⟨?_, ?_⟩
      · rintro (⟨hs, e⟩ | ⟨-, rfl⟩)
        · exact ⟨.inr hs, e⟩
        · exact ⟨.inl rfl, rfl⟩
      · rintro ⟨rfl | hs, e⟩
        · by_cases hm : s ∈ l
          · exact .inl ⟨hm, rfl⟩
          · exact .inr ⟨fun t ht e => hm (same t ht e ▸ ht), rfl⟩
        · exact .inl ⟨hs, e⟩
    · simp only [if_neg h, List.mem_cons, forall_eq_or_imp]
      refine ⟨?_, ?_⟩
      · rintro (⟨hs, e⟩ | ⟨hl, hs⟩)
        · exact .inl ⟨.inr hs, e⟩
        · exact .inr ⟨⟨Ne.symm h, hl⟩, hs⟩
      · rintro (⟨rfl | hs, e⟩ | ⟨⟨-, hl⟩, hs⟩)
        · exact absurd e.symm h
        · exact .inl ⟨hs, e⟩
        · exact .inr ⟨hl, hs⟩

section Restrict
variable (hk : ix.Keyed)
include hk

theorem get?_restrict_iff (ids : KeySet String) :
    (ix.restrict ids).get? id = some s ↔ id ∈ ids ∧ ix.get? id = some s := by
  have mem : ∀ {s}, s ∈ ids.toList.filterMap ix.get? ↔ s.id ∈ ids ∧ ix.get? s.id = some s := by
    intro s
    rw [List.mem_filterMap]
    refine ⟨?_, ?_⟩
    · rintro ⟨id, hm, hs⟩
      rw [hk.id_of_get? hs]
      exact ⟨KeySet.mem_toList.1 hm, hs⟩
    · rintro ⟨hm, hs⟩
      exact ⟨s.id, KeySet.mem_toList.2 hm, hs⟩
  have hget : (ix.restrict ids).get? id = some s ↔
      s ∈ ids.toList.filterMap ix.get? ∧ s.id = id := by
    refine (get?_foldl_insert_iff _ (fun s hs t ht e => ?_) ∅).trans ?_
    · exact Option.some.inj ((mem.1 hs).2.symm.trans (e ▸ (mem.1 ht).2))
    · exact or_iff_left fun h => by cases h.2
  rw [hget, mem]
  refine ⟨?_, ?_⟩
  · rintro ⟨h, rfl⟩
    exact h
  · rintro ⟨hm, hs⟩
    rw [hk.id_of_get? hs]
    exact ⟨⟨hm, hs⟩, rfl⟩

theorem restrict_symbols (ids : KeySet String) :
    (ix.restrict ids).symbols = ix.symbols.filter fun id _ => ids.contains id := by
  refine Table.ext_get? fun id => Option.ext fun s => ?_
  rw [Table.get?_filter, Option.filter_eq_some_iff, and_comm]
  exact get?_restrict_iff hk ids

theorem contains_restrict (ids : KeySet String) (id : String) :
    (ix.restrict ids).contains id = true ↔ id ∈ ids ∧ ix.contains id = true := by
  simp only [contains_iff, get?_restrict_iff hk, exists_and_left]

theorem all_restrict (ids : KeySet String) :
    (ix.restrict ids).all = ix.all.filter fun s => ids.contains s.id := by
  rw [all, restrict_symbols hk, Table.values, Table.filter, all, Table.values, List.filter_map]
  refine congrArg _ (List.filter_congr fun e he => ?_)
  rw [Function.comp_apply, hk e he]

/-- A restriction counts its callables anew, so it does not matter which ones the index has. -/
theorem restrict_wellFormed (ids : KeySet String) : (ix.restrict ids).WellFormed := by
  refine .of_get? (fun id s hs => hk.id_of_get? ((get?_restrict_iff hk ids).1 hs).2) fun id => ?_
  exact (WellFormed.ofSymbols (ids.toList.filterMap ix.get?)).callable id

/-- Restricting twice is restricting to what both sets share. -/
theorem restrict_restrict (a b : KeySet String) :
    (ix.restrict a).restrict b = ix.restrict (a.inter b) := by
  have ha : (ix.restrict a).WellFormed := restrict_wellFormed hk a
  have hsymbols : ((ix.restrict a).restrict b).symbols = (ix.restrict (a.inter b)).symbols := by
    simp only [restrict_symbols ha.toKeyed, restrict_symbols hk, Table.filter_filter,
      KeySet.contains_inter]
  have hcallables :
      ((ix.restrict a).restrict b).callables = (ix.restrict (a.inter b)).callables := by
    refine (restrict_wellFormed ha.toKeyed b).callables_eq (restrict_wellFormed hk _) fun id => ?_
    rw [get?, get?, hsymbols]
  have hpairs : ∀ l : List Relation,
      (l.filter fun r => a.contains r.base && a.contains r.derived).filter
          (fun r => b.contains r.base && b.contains r.derived) =
        l.filter fun r => (a.inter b).contains r.base && (a.inter b).contains r.derived := by
    intro l
    rw [List.filter_filter]
    refine List.filter_congr fun r _ => ?_
    simp only [KeySet.contains_inter]
    ac_rfl
  exact (Index.mk.injEq ..).mpr ⟨hsymbols, hcallables, rfl, rfl, hpairs _, hpairs _⟩

theorem namespaces_restrict (ids : KeySet String) : (ix.restrict ids).namespaces =
    Table.ofList ((ix.all.filterMap fun s => s.qualifiedNamespace.map (·, s.id)).filter
      fun e => ids.contains e.2) := by
  rw [namespaces, all_restrict hk, List.filterMap_filter, List.filter_filterMap]
  refine congrArg Table.ofList (congrArg (List.filterMap · _) (funext fun s => ?_))
  cases s.qualifiedNamespace <;> simp [Option.filter]

/-- A namespace that is kept keeps its qualified name. -/
theorem get?_namespaces_restrict {name : String} (h : ix.namespaces.get? name = some id)
    (hid : id ∈ ids) : (ix.restrict ids).namespaces.get? name = some id := by
  rw [namespaces_restrict hk]
  exact Table.get?_ofList_filter h hid

theorem get?_namespaces_restrict_of_none {name : String} (ids : KeySet String)
    (h : ix.namespaces.get? name = none) : (ix.restrict ids).namespaces.get? name = none := by
  rw [namespaces_restrict hk]
  exact Table.get?_ofList_filter_of_none _ h

end Restrict

/-! ## Callables of a restriction -/

section Callables
variable (hw : ix.WellFormed)
include hw

theorem restrict_callables (ids : KeySet String) :
    (ix.restrict ids).callables = ix.callables.filter ids.contains := by
  refine KeySet.ext_mem fun id => ?_
  rw [(restrict_wellFormed hw.toKeyed ids).mem_callables, KeySet.mem_filter, hw.mem_callables]
  simp only [get?_restrict_iff hw.toKeyed]
  exact ⟨fun ⟨s, ⟨hm, hs⟩, hc⟩ => ⟨⟨s, hs, hc⟩, hm⟩, fun ⟨⟨s, hs, hc⟩, hm⟩ => ⟨s, ⟨hm, hs⟩, hc⟩⟩

theorem isCallable_restrict (ids : KeySet String) (id : String) :
    (ix.restrict ids).isCallable id = true ↔ id ∈ ids ∧ ix.isCallable id = true := by
  rw [isCallable, restrict_callables hw, KeySet.contains_iff, KeySet.mem_filter, and_comm]
  rfl

theorem callableSymbols_restrict (ids : KeySet String) : (ix.restrict ids).callableSymbols =
    ix.callableSymbols.filter fun f => ids.contains f.id := by
  rw [(restrict_wellFormed hw.toKeyed ids).callableSymbols_eq, all_restrict hw.toKeyed,
    hw.callableSymbols_eq, filter_swap]

end Callables

end SymbolAtlas.Index
