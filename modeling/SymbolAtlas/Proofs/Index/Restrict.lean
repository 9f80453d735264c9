import SymbolAtlas.Proofs.Index

/-!
# Restrictions are closed where what is asked for is known

A restriction takes its symbols from the index and its pairs by the ids that are asked for. It has
every pair that joins symbols of it, and besides these the pairs with an end that was asked for and
that the index does not know. So its pairs join its symbols if and only if, of the pairs between the
ids, none has such an end (`Index.restrict_closed_iff`).
-/

namespace SymbolAtlas.Index

variable {ix : Index} {ids : KeySet String}

/-! ## Closed indexes -/

/-- Both ends of the pair are symbols of the index. -/
def joins (ix : Index) (r : Relation) : Bool := ix.contains r.base && ix.contains r.derived

/-- The pairs of the index join symbols of it. -/
def Closed (ix : Index) : Prop := ∀ r ∈ ix.inheritance ++ ix.overrides, ix.joins r = true

instance (ix : Index) : Decidable ix.Closed := inferInstanceAs (Decidable (∀ r ∈ _, _))

section
variable (hk : ix.Keyed)
include hk

theorem joins_restrict (ids : KeySet String) (r : Relation) : (ix.restrict ids).joins r =
    (ix.joins r && (ids.contains r.base && ids.contains r.derived)) := by
  have hcontains : ∀ id, (ix.restrict ids).contains id = (ids.contains id && ix.contains id) := by
    intro id
    rw [Bool.eq_iff_iff, contains_restrict hk, Bool.and_eq_true, KeySet.contains_iff]
  simp only [joins, hcontains]
  ac_rfl

/-- All pairs between symbols of the restriction are kept. -/
theorem filter_joins_restrict (ids : KeySet String) (l : List Relation) :
    (l.filter fun r => ids.contains r.base && ids.contains r.derived).filter
      (ix.restrict ids).joins = l.filter (ix.restrict ids).joins := by
  rw [List.filter_filter]
  refine List.filter_congr fun r _ => ?_
  rw [joins_restrict hk, Bool.and_assoc, Bool.and_self]

/-- A pair between the ids is kept, and it joins symbols of the restriction only if it joins symbols
of the index. -/
theorem closed_restrict_iff (ids : KeySet String) : (ix.restrict ids).Closed ↔
    ∀ r ∈ ix.inheritance ++ ix.overrides, r.base ∈ ids → r.derived ∈ ids → ix.joins r = true := by
  have hpairs : (ix.restrict ids).inheritance ++ (ix.restrict ids).overrides =
      (ix.inheritance ++ ix.overrides).filter fun r =>
        ids.contains r.base && ids.contains r.derived :=
    List.filter_append .. |>.symm
  unfold Closed
  simp only [hpairs, List.mem_filter, joins_restrict hk, Bool.and_eq_true]
  refine ⟨fun h r hr hbase hderived => ?_, fun h r hr => ?_⟩
  · exact (h r ⟨hr, hbase, hderived⟩).1
  · exact ⟨h r hr.1 hr.2.1 hr.2.2, hr.2⟩

theorem Closed.restrict (h : ix.Closed) (ids : KeySet String) : (ix.restrict ids).Closed :=
  (closed_restrict_iff hk ids).2 fun r hr _ _ => h r hr

/-- Asking for what is known gives a closed restriction. -/
theorem closed_restrict_of_known (h : ∀ id ∈ ids, ix.contains id = true) :
    (ix.restrict ids).Closed := by
  refine (closed_restrict_iff hk ids).2 fun r _ hbase hderived => ?_
  rw [joins, h _ hbase, h _ hderived, Bool.and_self]

/-- A restriction of an index that files its symbols under their ids has the symbols of the index
with an id that is asked for, and the callables that they are. It has every pair of the index that
joins two of them, in order. All its pairs do so if and only if every pair of the index between two
ids that are asked for joins symbols of the index. Restricting it to the same ids changes nothing,
and to other ids gives what both sets share. -/
theorem restrict_closed_iff (ids : KeySet String) :
    let sub := ix.restrict ids
    sub.symbols = ix.symbols.filter (fun id _ => ids.contains id) ∧ sub.WellFormed ∧
      sub.inheritance.filter sub.joins = ix.inheritance.filter sub.joins ∧
      sub.overrides.filter sub.joins = ix.overrides.filter sub.joins ∧
      (sub.Closed ↔ ∀ r ∈ ix.inheritance ++ ix.overrides,
        r.base ∈ ids → r.derived ∈ ids → ix.joins r = true) ∧
      sub.restrict ids = sub ∧ ∀ more, sub.restrict more = ix.restrict (ids.inter more) := by
  intro sub
  have htwice : ∀ more, sub.restrict more = ix.restrict (ids.inter more) := restrict_restrict hk ids
  refine ⟨restrict_symbols hk ids, restrict_wellFormed hk ids, filter_joins_restrict hk ids _,
    filter_joins_restrict hk ids _, closed_restrict_iff hk ids, ?same, htwice⟩
  rw [htwice, KeySet.inter_self]

end

/-- A class with a derived class that nothing describes. -/
def orphanIndex : Index :=
  .withInheritance (.ofSymbols [{ id := "A", name := "a", kind := .classType }]) ⟨"A", "B"⟩

/-- Asking for another unknown id leaves no pair behind. -/
theorem restrict_orphanIndex :
    let sub := orphanIndex.restrict (.ofList ["A", "C"])
    orphanIndex.Keyed ∧ sub.Closed ∧ sub.inheritance = [] ∧
      sub.restrict (.ofList ["A", "C"]) = sub := by
  intro sub
  have hk : orphanIndex.Keyed := by decide
  obtain ⟨-, -, -, -, hclosed, hsame, -⟩ := restrict_closed_iff hk (.ofList ["A", "C"])
  exact ⟨hk, hclosed.2 (by decide), by decide, hsame⟩

/-- Asking for the unknown end keeps the pair, whose end is no symbol of the restriction. -/
theorem restrict_dangling :
    let sub := orphanIndex.restrict (.ofList ["A", "B"])
    orphanIndex.WellFormed ∧ sub.inheritance = [⟨"A", "B"⟩] ∧ sub.contains "B" = false ∧
      ¬sub.Closed := by
  have hw := WellFormed.ofSymbols [{ id := "A", name := "a", kind := .classType }]
  exact ⟨⟨hw.keyed, hw.callable⟩, by decide, by decide, by decide⟩

end SymbolAtlas.Index
