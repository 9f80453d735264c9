import SymbolAtlas.Proofs.Calls
import SymbolAtlas.Proofs.Index
import SymbolAtlas.Proofs.Order

/-!
# Calls of a restriction

Restricting an index takes function bodies out of the lists that are searched and leaves the others
in their order, since the sort is stable (`mergeSort_filter`). So a call between ids that are kept
is found again (`mem_callsFrom_restrict`). Where callers come from containers, or no call lies in
two functions, nothing else is found (`mem_of_callsFrom_restrict`).
-/

namespace SymbolAtlas

/-! ## A stable sort of part of a list -/

section Sorting
variable {α : Type} {le : α → α → Bool}

/-- A list that changes once from `p` failing to `p` holding does so at one place. -/
theorem append_eq_append_of_split {p : α → Bool} {before after before' after' : List α}
    (h : before ++ after = before' ++ after')
    (hb : ∀ x ∈ before, p x = false) (ha : ∀ x ∈ after, p x = true)
    (hb' : ∀ x ∈ before', p x = false) (ha' : ∀ x ∈ after', p x = true) :
    before = before' ∧ after = after' := by
  have part : ∀ {l l' : List α}, (∀ x ∈ l, p x = false) → (∀ x ∈ l', p x = true) →
      (l ++ l').filter p = l' := by
    intro l l' hl hl'
    have hnil : l.filter p = [] := List.filter_eq_nil_iff.2 fun x hx => by simp [hl x hx]
    rw [List.filter_append, hnil, List.filter_eq_self.2 hl', List.nil_append]
  have hafter : after = after' := by rw [← part hb ha, h, part hb' ha']
  subst hafter
  exact ⟨List.append_cancel_right h, rfl⟩

variable (trans : ∀ a b c, le a b → le b c → le a c) (total : ∀ a b, le a b || le b a)
include trans total

/-- Sorting part of a list gives that part of the sorted list. -/
theorem mergeSort_filter (keep : α → Bool) (l : List α) :
    (l.filter keep).mergeSort le = (l.mergeSort le).filter keep := by
  induction l with
  | nil => simp
  | cons a l ih =>
    obtain ⟨before, after, hcons, hl, hb, ha⟩ := mergeSort_cons_split trans total a l
    rw [hl, List.filter_append] at ih
    rw [hcons, List.filter_append]
    cases hkeep : keep a with
    | false => rw [List.filter_cons_of_neg (by simp [hkeep]),
        List.filter_cons_of_neg (by simp [hkeep]), ih]
    | true =>
      obtain ⟨before', after', hcons', hl', hb', ha'⟩ :=
        mergeSort_cons_split trans total a (l.filter keep)
      have hsplit := append_eq_append_of_split (hl'.symm.trans ih) hb' ha'
        (fun b hm => hb b (List.mem_of_mem_filter hm))
        (fun b hm => ha b (List.mem_of_mem_filter hm))
      rw [List.filter_cons_of_pos hkeep, List.filter_cons_of_pos hkeep, hcons', hsplit.1, hsplit.2]

end Sorting

theorem find?_filter_of_some {α : Type} {p keep : α → Bool} {l : List α} {a : α}
    (h : l.find? p = some a) (hkeep : keep a = true) : (l.filter keep).find? p = some a := by
  obtain ⟨hp, before, after, rfl, hbefore⟩ := List.find?_eq_some_iff_append.1 h
  rw [List.find?_eq_some_iff_append]
  refine ⟨hp, before.filter keep, after.filter keep, ?_, ?_⟩
  · rw [List.filter_append, List.filter_cons_of_pos hkeep]
  · exact fun b hb => hbefore b (List.mem_of_mem_filter hb)

namespace Index

variable {ix : Index} {ids : KeySet String} {c : Call} {l : Location} {owner : String}

/-- No call of a callable lies in two functions. -/
def CallsPlacedOnce (ix : Index) : Prop :=
  ∀ d ∈ ix.callableSymbols, ∀ r ∈ d.references, ix.callMark.isCall r.kind = true →
    ∀ f g, ix.BodyAround r.location f → ix.BodyAround r.location g → f = g

section Restrict
variable (hw : ix.WellFormed)
include hw

/-! ## Functions around a place -/

theorem mem_callableSymbols_restrict {f : Symbol} :
    f ∈ (ix.restrict ids).callableSymbols ↔ f ∈ ix.callableSymbols ∧ f.id ∈ ids := by
  rw [callableSymbols_restrict hw, List.mem_filter, KeySet.contains_iff]

theorem bodyAround_of_restrict {f : Symbol} (h : (ix.restrict ids).BodyAround l f) :
    ix.BodyAround l f :=
  ⟨((mem_callableSymbols_restrict hw).1 h.1).1, h.2⟩

theorem functionBodies_restrict (ids : KeySet String) : (ix.restrict ids).functionBodies =
    ix.functionBodies.filter fun e => ids.contains e.2.owner := by
  unfold functionBodies
  rw [callableSymbols_restrict hw, List.filterMap_filter, List.filter_filterMap]
  refine congrArg (List.filterMap · _) (funext fun f => ?_)
  cases f.body <;> cases f.definition <;> simp [Option.filter]

theorem getD_bodiesByFile_restrict (ids : KeySet String) (file : String) :
    (ix.restrict ids).bodiesByFile.getD file [] =
      (ix.bodiesByFile.getD file []).filter fun b => ids.contains b.owner := by
  rw [getD_bodiesByFile, functionBodies_restrict hw, getD_bodiesByFile,
    ← mergeSort_filter earlierLine_trans earlierLine_total, filter_swap, List.filter_map]
  rfl

/-- The function that was found is found again, if it is kept. -/
theorem functionAround_restrict (h : functionAround ix.bodiesByFile l = some owner)
    (ho : owner ∈ ids) : functionAround (ix.restrict ids).bodiesByFile l = some owner := by
  obtain ⟨b, hb, rfl⟩ := Option.map_eq_some_iff.1 h
  rw [functionAround, getD_bodiesByFile_restrict hw, find?_filter_of_some hb ho, Option.map_some]

/-- Where no two functions are around a place, the one that is found in the restriction is found
in the whole index. -/
theorem functionAround_of_restrict
    (once : ∀ f g, ix.BodyAround l f → ix.BodyAround l g → f = g)
    (h : functionAround (ix.restrict ids).bodiesByFile l = some owner) :
    functionAround ix.bodiesByFile l = some owner := by
  obtain ⟨f, hf, rfl⟩ := functionAround_eq_some h
  have hf := bodyAround_of_restrict hw hf
  cases hfound : functionAround ix.bodiesByFile l with
  | none => exact absurd hf (functionAround_eq_none_iff.1 hfound f)
  | some found =>
    obtain ⟨g, hg, rfl⟩ := functionAround_eq_some hfound
    rw [once f g hf hg]

/-! ## Calls -/

/-- A call between ids that are kept is found in the restriction. -/
theorem mem_callsFrom_restrict {source : CallerSource} (hc : c ∈ ix.callsFrom source)
    (hcaller : c.caller ∈ ids) (hcallee : c.callee ∈ ids) :
    c ∈ (ix.restrict ids).callsFrom source := by
  cases source with
  | container =>
    obtain ⟨f, hf, hid, r, hr, hcall, hfound⟩ := mem_callsWhere.1 hc
    obtain ⟨hcont, hcallable⟩ := Option.filter_eq_some_iff.1 hfound
    refine mem_callsWhere.2 ⟨f, (mem_callableSymbols_restrict hw).2 ⟨hf, hid ▸ hcallee⟩, hid, r, hr,
      hcall, Option.filter_eq_some_iff.2 ⟨hcont, ?_⟩⟩
    exact (isCallable_restrict hw ids _).2 ⟨hcaller, hcallable⟩
  | place =>
    obtain ⟨f, hf, hid, r, hr, hcall, hfound⟩ := mem_callsWhere.1 hc
    exact mem_callsWhere.2 ⟨f, (mem_callableSymbols_restrict hw).2 ⟨hf, hid ▸ hcallee⟩, hid, r, hr,
      hcall, functionAround_restrict hw hfound hcaller⟩

/-- A call that is found in the restriction is found in the whole index, unless it lies in several
functions. -/
theorem mem_of_callsFrom_restrict {source : CallerSource}
    (hplaced : source = .container ∨ ix.CallsPlacedOnce)
    (hc : c ∈ (ix.restrict ids).callsFrom source) : c ∈ ix.callsFrom source := by
  cases source with
  | container =>
    obtain ⟨f, hf, hid, r, hr, hcall, hfound⟩ := mem_callsWhere.1 hc
    obtain ⟨hcont, hcallable⟩ := Option.filter_eq_some_iff.1 hfound
    refine mem_callsWhere.2 ⟨f, ((mem_callableSymbols_restrict hw).1 hf).1, hid, r, hr, hcall,
      Option.filter_eq_some_iff.2 ⟨hcont, ?_⟩⟩
    exact ((isCallable_restrict hw ids _).1 hcallable).2
  | place =>
    obtain ⟨f, hf, hid, r, hr, hcall, hfound⟩ := mem_callsWhere.1 hc
    have hf := ((mem_callableSymbols_restrict hw).1 hf).1
    have once := hplaced.resolve_left CallerSource.noConfusion f hf r hr hcall
    exact mem_callsWhere.2 ⟨f, hf, hid, r, hr, hcall, functionAround_of_restrict hw once hfound⟩

end Restrict

end Index

end SymbolAtlas
