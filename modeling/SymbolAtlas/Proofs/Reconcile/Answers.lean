import Mathlib
import SymbolAtlas.Proofs.Reconcile.Owners
import SymbolAtlas.Total

/-!
# Every span is answered for

Where spans become symbols, every span id stands for a symbol of the result
(`answeredBy_resolve`). So alias targets that named spans name symbols afterwards, and without
containers no candidate parent is unknown (`reconcile_answers`).
-/

namespace SymbolAtlas

open SpanLookup (located)

/-- `answer` sends the id of every span to a symbol of `out`: a kept symbol at the span's site if
there is one, the same for all spans of the site, and else the symbol with the span's own id. Other
ids are left alone. -/
structure SpanTable.AnsweredBy (spans : SpanTable) (kept out : Index) (answer : String → String) :
    Prop where
  known : ∀ p ∈ spans.filed, out.contains (answer p.2.id) = true
  matched : ∀ p ∈ spans.filed, ¬kept.Unmatched p →
    ∃ t ∈ kept.all, t.site = some (p.2.site p.1) ∧ t.id = answer p.2.id
  variants : ∀ p ∈ spans.filed, ∀ q ∈ spans.filed, ¬kept.Unmatched p →
    p.2.site p.1 = q.2.site q.1 → answer p.2.id = answer q.2.id
  unmatched : ∀ p ∈ spans.filed, kept.Unmatched p → answer p.2.id = p.2.id
  others : ∀ id, (∀ p ∈ spans.filed, p.2.id ≠ id) → answer id = id

theorem total_eq_zero {l : List Nat} (h : ∀ n ∈ l, n = 0) : total l = 0 := by
  induction l with
  | nil => rfl
  | cons n l ih =>
    obtain ⟨hn, hl⟩ := List.forall_mem_cons.1 h
    rw [total_cons, hn, ih hl]

/-- Where every candidate is known, none is dangling. -/
theorem Resolution.dangling_eq_zero {known : String → Bool} {self : String}
    {cs : List (Option String)} (h : ∀ q, some q ∈ cs → known q = true) :
    (settle known self cs).dangling = 0 := by
  induction cs with
  | nil => rfl
  | cons o cs ih =>
    have hcs := ih fun q hq => h q (List.mem_cons_of_mem _ hq)
    cases o with
    | none => exact hcs
    | some d =>
      unfold settle
      split
      · rfl
      · rw [if_pos (h d (List.mem_cons_self ..))]

namespace Index

variable {ix : Index} {spans : SpanTable} {c : Config} {id q : String} {s : Symbol}

/-! ## Candidates without containers -/

/-- No reference says what contains it. -/
def Uncontained (ix : Index) : Prop := ∀ s ∈ ix.all, ∀ r ∈ s.references, r.container = none

instance (ix : Index) : Decidable ix.Uncontained :=
  inferInstanceAs (Decidable (∀ s ∈ ix.all, _))

theorem referenceContainer_of_uncontained (h : ix.Uncontained)
    (hs : (ix.matched c spans).index.get? id = some s) :
    (ix.parentContext c spans).referenceContainer s = none := by
  unfold ParentContext.referenceContainer
  rw [Option.map_eq_none_iff, List.findSome?_eq_none_iff]
  intro r hr
  have hr := List.mem_of_mem_filter hr
  rcases of_get?_matchSpans hs with ⟨t, ht, rfl⟩ | ⟨file, a, -, -, rfl⟩
  · rw [Symbol.takeBody_references] at hr
    exact h t (mem_all.2 ⟨id, get?_of_retain ht⟩) r hr
  · cases hr

/-! ## What stands for a span -/

theorem reconcile_danglingParents (c : Config) (ix : Index) (spans : SpanTable) :
    (ix.reconcile c spans).report.danglingParents =
      total ((ix.matched c spans).index.all.map fun s => (ix.resolution c spans s).dangling) := by
  refine (Nat.zero_add _).trans ?_
  rw [List.map_map]
  rfl

/-- Where spans become symbols, something stands for every span. -/
theorem contains_resolve (hk : ix.Keyed) (hc : c.synthesizeUnmatched = true)
    (hfile : spans.OneFile) {p : String × Span} (hp : p ∈ located (.build spans)) :
    (ix.matched c spans).index.contains ((ix.matched c spans).claims.resolve p.2.id) = true := by
  have hkept : (ix.prefilter c {}).1.Keyed := hk.retain _
  rw [resolve_located hfile hp]
  cases hlead : (ix.prefilter c {}).1.leader? (p.2.site p.1) with
  | none =>
    exact contains_matchSpans.2 (.inr ⟨hc, p, hp, leader?_eq_none_iff.1 hlead, rfl⟩)
  | some y =>
    obtain ⟨t, ht, -⟩ := (leader?_eq_some_iff hkept).1 hlead
    exact contains_matchSpans.2 (.inl (contains_iff.2 ⟨t, ht⟩))

theorem answeredBy_resolve (hk : ix.Keyed) (hc : c.synthesizeUnmatched = true)
    (hfile : spans.OneFile) : spans.AnsweredBy (ix.prefilter c {}).1 (ix.reconcile c spans).index
      (ix.matched c spans).claims.resolve where
  known p hp := by
    obtain ⟨a, ha, hid, -⟩ := SpanLookup.exists_located hp
    rw [reconcile_index, contains_breakCycles, contains_resolved, ← hid]
    exact contains_resolve hk hc hfile ha
  matched p hp hm := by
    have hkept : (ix.prefilter c {}).1.Keyed := hk.retain _
    rw [resolve_filed hfile hp]
    cases hlead : (ix.prefilter c {}).1.leader? (p.2.site p.1) with
    | none => exact absurd (leader?_eq_none_iff.1 hlead) hm
    | some y =>
      obtain ⟨t, ht, hsite, -⟩ := (leader?_eq_some_iff hkept).1 hlead
      exact ⟨t, mem_all.2 ⟨y, ht⟩, hsite, hkept.id_of_get? ht⟩
  unmatched p hp hm := by
    rw [resolve_filed hfile hp, leader?_eq_none_iff.2 hm, Option.getD_none]
  variants p hp q hq hm hsite := by
    rw [resolve_filed hfile hp, resolve_filed hfile hq, ← hsite]
    cases hlead : (ix.prefilter c {}).1.leader? (p.2.site p.1) with
    | none => exact absurd (leader?_eq_none_iff.1 hlead) hm
    | some y => rfl
  others id hid := by
    by_contra h
    obtain ⟨p, hp, hpid, -⟩ := exists_of_resolve_ne h
    exact hid p hp hpid

/-- Where spans become symbols, alias targets that name spans move to what answers for these and
other alias targets stay. If no reference names a container, every candidate parent is known. -/
theorem reconcile_answers (hk : ix.Keyed) (hc : c.synthesizeUnmatched = true)
    (hfile : spans.OneFile) :
    let kept := (ix.prefilter c {}).1
    let out := (ix.reconcile c spans).index
    (∃ answer, spans.AnsweredBy kept out answer ∧
      ∀ s ∈ kept.all, ∃ x, out.get? s.id = some x ∧ x.aliasedId = s.aliasedId.map answer) ∧
      (ix.Uncontained → (ix.reconcile c spans).report.danglingParents = 0) := by
  intro kept out
  have hkept : kept.Keyed := hk.retain _
  refine ⟨⟨_, answeredBy_resolve hk hc hfile, fun s hs => ?_⟩, fun h => ?_⟩
  · obtain ⟨parent, hx⟩ :=
      exists_of_get?_matched (get?_matched_of_kept spans (hkept.get?_of_mem hs))
    exact ⟨_, hx, by rw [Symbol.takeBody_eq]⟩
  · rw [reconcile_danglingParents]
    refine total_eq_zero fun n hn => ?_
    obtain ⟨s, hs, rfl⟩ := List.mem_map.1 hn
    obtain ⟨id, hid⟩ := mem_all.1 hs
    refine Resolution.dangling_eq_zero fun q hq => ?_
    obtain ⟨file, a, ha, rfl, -⟩ :=
      exists_of_candidate (referenceContainer_of_uncontained h hid) hq
    exact contains_resolve hk hc hfile ha

/-- Both spans of the structure stand for its symbol, so the alias of the one names that symbol, and
the union stands for itself. -/
theorem reconcile_header_answers :
    let kept := (headerIndex.prefilter {} {}).1
    let out := (headerIndex.reconcile {} headerSpans).index
    headerIndex.WellFormed ∧ headerSpans.OneFile ∧ headerIndex.Uncontained ∧
      (∃ answer, headerSpans.AnsweredBy kept out answer ∧ answer "a" = "s" ∧ answer "b" = "s" ∧
        answer "u" = "u" ∧ ∃ x, out.get? "l" = some x ∧ x.aliasedId = some "s") ∧
      (headerIndex.reconcile {} headerSpans).report.danglingParents = 0 := by
  have hw : headerIndex.WellFormed := .ofSymbols _
  have hfile : headerSpans.OneFile := by decide
  have hfree : headerIndex.Uncontained := by decide
  obtain ⟨⟨answer, hanswer, halias⟩, hdangling⟩ :=
    reconcile_answers (c := {}) hw.toKeyed rfl hfile
  have hs : ∀ p ∈ headerSpans.filed, p.2.name = "S" → answer p.2.id = "s" := by
    intro p hp hname
    have hone : ∀ p ∈ headerSpans.filed, p.2.name = "S" →
        ¬(headerIndex.prefilter {} {}).1.Unmatched p ∧
          ∀ t ∈ (headerIndex.prefilter {} {}).1.all, t.site = some (p.2.site p.1) → t.id = "s" := by
      decide
    obtain ⟨t, ht, hsite, hid⟩ := hanswer.matched p hp (hone p hp hname).1
    exact hid.symm.trans ((hone p hp hname).2 t ht hsite)
  have ha : answer "a" = "s" :=
    hs ("h", ⟨"S", "STRUCT_DECL", "C", .lines 1 1, .lines 1 4, "a", none⟩) (by decide) rfl
  have hb : answer "b" = "s" :=
    hs ("h", ⟨"S", "STRUCT_DECL", "Cpp", .lines 1 1, .lines 1 4, "b", none⟩) (by decide) rfl
  have hu : answer "u" = "u" := hanswer.unmatched ("h", headerUnion) (by decide) (by decide)
  obtain ⟨x, hx, hmoved⟩ := halias headerAlias (by decide)
  refine ⟨hw, hfile, hfree, ⟨answer, hanswer, ha, hb, hu, x, hx, ?_⟩, hdangling hfree⟩
  rw [hmoved, headerAlias, Option.map_some, hb]

end Index

end SymbolAtlas
