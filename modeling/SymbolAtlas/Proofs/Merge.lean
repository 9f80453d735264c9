import Mathlib
import SymbolAtlas.Proofs.Index
import SymbolAtlas.Proofs.Merge.Symbol

/-!
# Merged indexes

A merge holds under each id what the two indexes have there, absorbed where both have a symbol
(`get?_merge`). Merging is associative (`merge_assoc`). An index merged a second time changes nothing
if the symbols that only it has come with their references in order (`merge_merge_eq_iff`).
-/

namespace SymbolAtlas.Index

open Std

variable {ix a b c : Index} {id : String} {s : Symbol}

/-! ## One symbol more -/

theorem get?_absorb (ix : Index) (s : Symbol) (id : String) : (ix.absorb s.id s).get? id =
    if id = s.id then (ix.get? id).merge Symbol.absorb (some s) else ix.get? id := by
  unfold absorb
  split
  · next h =>
    obtain ⟨t, ht⟩ := contains_iff.1 h
    rw [get?_modify]
    split
    · next e =>
      subst e
      rw [ht]
      rfl
    · rfl
  · next h =>
    rw [get?_insert]
    split
    · next e =>
      subst e
      cases ht : ix.get? s.id with
      | none => rfl
      | some t => exact absurd (contains_iff.2 ⟨t, ht⟩) h
    · rfl

theorem WellFormed.absorb (h : ix.WellFormed) (s : Symbol) : (ix.absorb s.id s).WellFormed := by
  unfold Index.absorb
  split
  · exact h.modify s.id (fun _ => rfl) fun _ => rfl
  · exact h.insert s

/-! ## All symbols of an index -/

theorem get?_merge (hb : b.Keyed) (a : Index) (id : String) :
    (a.merge b).get? id = (a.get? id).merge Symbol.absorb (b.get? id) := by
  refine Table.look_foldl (·.get? id) b.symbols.ascending (fun e he ix => ?_) a
  rw [hb e he]
  exact get?_absorb ix e.2 id

theorem WellFormed.merge (ha : a.WellFormed) (hb : b.WellFormed) : (a.merge b).WellFormed := by
  have run : ∀ (es : List (String × Symbol)) (ix : Index), (∀ e ∈ es, e.1 = e.2.id) →
      ix.WellFormed → (es.foldl (fun ix e => ix.absorb e.1 e.2) ix).WellFormed := by
    intro es
    induction es with
    | nil => exact fun _ _ h => h
    | cons e es ih =>
      intro ix keyed h
      obtain ⟨hkey, keyed⟩ := List.forall_mem_cons.1 keyed
      rw [List.foldl_cons, hkey]
      exact ih _ keyed (h.absorb e.2)
  have h := run b.symbols.entries a hb.keyed ha
  exact ⟨h.keyed, h.callable⟩

/-- Merging what is known already leaves the callables as they are. -/
theorem callables_merge_of_contains (h : ∀ e ∈ b.symbols.entries, a.contains e.1 = true) :
    (a.merge b).callables = a.callables := by
  have run : ∀ (es : List (String × Symbol)) (ix : Index), (∀ e ∈ es, ix.contains e.1 = true) →
      (es.foldl (fun ix e => ix.absorb e.1 e.2) ix).callables = ix.callables := by
    intro es
    induction es with
    | nil => exact fun _ _ => rfl
    | cons e es ih =>
      intro ix known
      obtain ⟨he, known⟩ := List.forall_mem_cons.1 known
      have hmodify : ix.absorb e.1 e.2 = ix.modify e.1 (·.absorb e.2) := if_pos he
      rw [List.foldl_cons, hmodify, ih _ fun d hd => (contains_modify ..).trans (known d hd)]
      rfl
  exact run _ a h

/-! ## Grouping -/

/-- The grouping of merges does not matter. -/
theorem merge_assoc (ha : a.WellFormed) (hb : b.WellFormed) (hc : c.WellFormed) :
    (a.merge b).merge c = a.merge (b.merge c) := by
  have hsymbols : ((a.merge b).merge c).symbols = (a.merge (b.merge c)).symbols := by
    refine Table.ext_get? fun id => ?_
    rw [← get?, ← get?, get?_merge hc.toKeyed, get?_merge hb.toKeyed,
      get?_merge (hb.merge hc).toKeyed, get?_merge hc.toKeyed]
    exact Associative.assoc ..
  have hcallables : ((a.merge b).merge c).callables = (a.merge (b.merge c)).callables :=
    ((ha.merge hb).merge hc).callables_eq (ha.merge (hb.merge hc)) fun id => by
      rw [get?, get?, hsymbols]
  exact (Index.mk.injEq ..).mpr ⟨hsymbols, hcallables, Bool.or_assoc .., Bool.or_assoc ..,
    mergeRelations_assoc .., mergeRelations_assoc ..⟩

/-- A function as its declaration shows it, used twice at one place. -/
def declaredIndex : Index := .ofSymbols
  [{ id := "f", name := "f", kind := .function, scope := "n::"
     declaration := some ⟨"h", .lines 1 1⟩
     references := [⟨⟨4⟩, ⟨"c", .lines 7 7⟩, none⟩, ⟨⟨4⟩, ⟨"c", .lines 7 7⟩, none⟩] }]

/-- The function as its definition shows it. -/
def definedIndex : Index := .ofSymbols
  [{ id := "f", name := "f", kind := .function, scope := "n::"
     definition := some ⟨"c", .lines 5 5⟩
     references := [⟨⟨4⟩, ⟨"c", .lines 3 3⟩, none⟩] }]

/-- Uses of the function by one that takes it for a variable. -/
def usedIndex : Index := .ofSymbols
  [{ id := "f", name := "f", kind := .var
     references := [⟨⟨4⟩, ⟨"c", .lines 9 9⟩, none⟩, ⟨⟨4⟩, ⟨"c", .lines 3 3⟩, none⟩] },
    { id := "g", name := "g", kind := .function }]

/-- Three indexes that share a symbol and disagree on its kind. -/
theorem merge_assoc_used :
    (declaredIndex.merge definedIndex).merge usedIndex =
        declaredIndex.merge (definedIndex.merge usedIndex) ∧
      (((declaredIndex.merge definedIndex).merge usedIndex).get? "f").map
          (fun s => (s.kind, s.references.map (·.location.start.line))) =
        some (.function, [3, 7, 7, 9]) :=
  ⟨merge_assoc (.ofSymbols _) (.ofSymbols _) (.ofSymbols _), by cbv⟩

/-! ## The same index again -/

theorem get?_merge_merge (hb : b.Keyed) (a : Index) (id : String) :
    ((a.merge b).merge b).get? id =
      ((a.get? id).merge Symbol.absorb (b.get? id)).merge Symbol.absorb (b.get? id) := by
  rw [get?_merge hb, get?_merge hb]

/-- Where a symbol is new, it is taken as it is the first time and its references are put in order
the second time. -/
theorem inOrder_of_merge_merge (hb : b.Keyed) (h : (a.merge b).merge b = a.merge b)
    (hs : b.get? id = some s) (hnew : a.get? id = none) : InOrder s.references := by
  have hget := get?_merge_merge hb a id
  rw [h, get?_merge hb, hs, hnew] at hget
  exact Symbol.absorb_self_eq_iff.1 (Option.some.inj hget).symm

theorem symbols_merge_merge (hb : b.Keyed)
    (h : ∀ id s, b.get? id = some s → a.get? id = none → InOrder s.references) :
    ((a.merge b).merge b).symbols = (a.merge b).symbols := by
  refine Table.ext_get? fun id => ?_
  rw [← get?, ← get?, get?_merge_merge hb, get?_merge hb]
  cases hs : b.get? id with
  | none => rw [Option.merge_none_right]
  | some s =>
    cases ht : a.get? id with
    | none => exact congrArg some (Symbol.absorb_self_eq_iff.2 (h id s hs ht))
    | some t => exact congrArg some (Symbol.absorb_absorb t s)

theorem callables_merge_merge (hb : b.Keyed) :
    ((a.merge b).merge b).callables = (a.merge b).callables := by
  refine callables_merge_of_contains fun e he => contains_iff.2 ?_
  have hs : b.get? e.1 = some e.2 := Table.get?_eq_some_iff.2 he
  rw [get?_merge hb, hs]
  cases a.get? e.1 <;> exact ⟨_, rfl⟩

/-- An index that is merged again changes nothing if and only if the symbols that were new the first
time have their references in order. -/
theorem merge_merge_eq_iff (a : Index) (hb : b.Keyed) :
    (a.merge b).merge b = a.merge b ↔
      ∀ id s, b.get? id = some s → a.get? id = none → InOrder s.references := by
  refine ⟨fun h id s hs hnew => inOrder_of_merge_merge hb h hs hnew, fun h => ?_⟩
  have hflag : ∀ x y : Bool, ((x || y) || y) = (x || y) := by decide
  exact (Index.mk.injEq ..).mpr ⟨symbols_merge_merge hb h, callables_merge_merge hb, hflag ..,
    hflag .., mergeRelations_mergeRelations .., mergeRelations_mergeRelations ..⟩

/-- The uses come in no order, but of a function that is known. -/
theorem merge_merge_used :
    ¬InOrder (usedIndex.all.flatMap (·.references)) ∧
      (declaredIndex.merge usedIndex).merge usedIndex = declaredIndex.merge usedIndex := by
  have hnew : ∀ e ∈ usedIndex.symbols.entries, declaredIndex.get? e.1 = none →
      InOrder e.2.references := by decide
  have hk : usedIndex.Keyed := by decide
  refine ⟨by decide, (merge_merge_eq_iff declaredIndex hk).2 fun id s hs h => ?_⟩
  exact hnew (id, s) (Table.get?_eq_some_iff.1 hs) h

/-- Uses in no order of a function that is new are put in order by the second merge. -/
theorem merge_merge_new :
    usedIndex.WellFormed ∧ (Index.merge ∅ usedIndex).merge usedIndex ≠ Index.merge ∅ usedIndex := by
  have hw : usedIndex.WellFormed := .ofSymbols _
  refine ⟨hw, fun h => ?_⟩
  obtain ⟨s, hs⟩ : ∃ s, usedIndex.get? "f" = some s := contains_iff.1 (by decide)
  have horder := inOrder_of_merge_merge hw.toKeyed h hs rfl
  cases hs
  exact absurd horder (by decide)

end SymbolAtlas.Index
