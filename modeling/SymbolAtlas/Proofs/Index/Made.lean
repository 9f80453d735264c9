import Mathlib
import SymbolAtlas.Proofs.Linker
import SymbolAtlas.Proofs.Merge
import SymbolAtlas.Proofs.Reconcile.Frame

/-!
# The callables of an index that was made

Every operation that makes an index keeps it well-formed, so an index that was made from nothing by
any of them in any order is (`Made.wellFormed`). In a well-formed index the set of callables says
what the symbols say: which ids are callable, which symbols are, and how many (`Made.in_sync`).
-/

namespace SymbolAtlas.Index

open Std

variable {ix : Index}

/-! ## What the callables of a well-formed index say -/

namespace WellFormed

variable (h : ix.WellFormed)
include h

theorem isCallable_eq (id : String) : ix.isCallable id = (ix.get? id).any Symbol.isCallable := by
  rw [Bool.eq_iff_iff, Option.any_eq_true]
  exact h.mem_callables

theorem size_callables : ix.callables.size = ix.all.countP Symbol.isCallable := by
  rw [← KeySet.length_toList, h.toList_callables, List.length_map, List.countP_eq_length_filter]

theorem withInheritance (r : Relation) : (ix.withInheritance r).WellFormed := ⟨h.keyed, h.callable⟩

theorem withOverride (r : Relation) : (ix.withOverride r).WellFormed := ⟨h.keyed, h.callable⟩

theorem prefilter (c : Config) (r : Report) : (ix.prefilter c r).1.WellFormed := h.retain _

end WellFormed

/-! ## Indexes that were made -/

/-- The indexes that building, linking, merging, cutting down and reconciling make. -/
inductive Made : Index → Prop
  | empty : Made ∅
  | insert {ix : Index} (h : Made ix) (s : Symbol) : Made (ix.insert s)
  | retain {ix : Index} (h : Made ix) (keep : Symbol → Bool) : Made (ix.retain keep)
  | merge {a b : Index} (ha : Made a) (hb : Made b) : Made (a.merge b)
  | restrict {ix : Index} (h : Made ix) (ids : KeySet String) : Made (ix.restrict ids)
  | withFormat {ix : Index} (h : Made ix) (hasContainers hasCallKind : Bool) :
    Made (ix.withFormat hasContainers hasCallKind)
  | withInheritance {ix : Index} (h : Made ix) (r : Relation) : Made (ix.withInheritance r)
  | withOverride {ix : Index} (h : Made ix) (r : Relation) : Made (ix.withOverride r)
  | link (l : Linker) : Made l.link
  | prefilter {ix : Index} (h : Made ix) (c : Config) (r : Report) : Made (ix.prefilter c r).1
  | reconcile {ix : Index} (h : Made ix) (c : Config) (spans : SpanTable) :
    Made (ix.reconcile c spans).index
  | reconcileForest {ix : Index} (h : Made ix) (c : Config) (forest : SpanForest) (r : Report) :
    Made (ix.reconcileForest c forest r).1

theorem Made.wellFormed (h : Made ix) : ix.WellFormed := by
  induction h with
  | empty => exact .empty
  | insert _ s ih => exact ih.insert s
  | retain _ keep ih => exact ih.retain keep
  | merge _ _ iha ihb => exact iha.merge ihb
  | restrict _ ids ih => exact restrict_wellFormed ih.toKeyed ids
  | withFormat _ hasContainers hasCallKind ih => exact ih.withFormat hasContainers hasCallKind
  | withInheritance _ r ih => exact ih.withInheritance r
  | withOverride _ r ih => exact ih.withOverride r
  | link l => exact wellFormed_link l
  | prefilter _ c r ih => exact ih.prefilter c r
  | reconcile _ c spans ih => exact ih.reconcile c spans
  | reconcileForest _ c forest r ih => exact ih.reconcileForest c forest r

/-- In an index that was made every key is the id of its symbol, and the callables are the ids of the
symbols of callable kind: an id is callable if its symbol is, the callable symbols are those of
callable kind, in id order, and there are as many callables. -/
theorem Made.in_sync (h : Made ix) :
    (∀ e ∈ ix.symbols.entries, e.1 = e.2.id) ∧
      (∀ id, id ∈ ix.callables ↔ ∃ s, ix.get? id = some s ∧ s.isCallable = true) ∧
      (∀ id, ix.isCallable id = (ix.get? id).any Symbol.isCallable) ∧
      ix.callableSymbols = ix.all.filter Symbol.isCallable ∧
      ix.callables.size = ix.all.countP Symbol.isCallable :=
  have hw := h.wellFormed
  ⟨hw.keyed, hw.callable, hw.isCallable_eq, hw.callableSymbols_eq, hw.size_callables⟩

/-- A function that is replaced by a variable, and then merged with what documents say of it. -/
def replacedIndex : Index :=
  let documents : Linker := Linker.addAll ∅
    [.symbol ⟨"f", "f", "", "Function", "C", none, none, "", "", ""⟩]
  ((Index.insert ∅ { id := "f", name := "f", kind := .function }).insert
    { id := "f", name := "f", kind := .var }).merge documents.link

/-- What was found first stays a variable. -/
theorem in_sync_replacedIndex :
    replacedIndex.Made ∧ replacedIndex.contains "f" = true ∧ replacedIndex.callables.size = 0 ∧
      ∀ id, replacedIndex.isCallable id = (replacedIndex.get? id).any Symbol.isCallable := by
  have h : replacedIndex.Made := .merge (.insert (.insert .empty _) _) (.link _)
  exact ⟨h, by decide, by decide, (Made.in_sync h).2.2.1⟩

end SymbolAtlas.Index
