import Mathlib
import SymbolAtlas.Proofs.Parents.Comparison
import SymbolAtlas.Proofs.Reconcile.Owners

/-!
# Reconciling again

The second run has the spans that became symbols as symbols of its index. Where no site has several
spans, each of them can only claim itself, so spans stand for the same symbols as before
(`RepeatableInput.resolve_again`) and the same parents are found. The links before cycles are broken
are those of the first run without some of those it cut (`RepeatableInput.resolved_again`), and these
are cut again, or not there (`Index.reconcile_reconcile`).
-/

namespace SymbolAtlas

open SpanLookup (located)

/-- Candidates depend on what spans stand for and on which spans a symbol has of its own. -/
theorem ParentContext.candidates_congr {ctx ctx' : ParentContext} (hl : ctx.lookup = ctx'.lookup)
    (hr : ctx.claims.resolve = ctx'.claims.resolve) (ho : ctx.claims.isOwn = ctx'.claims.isOwn)
    (s : Symbol) (parent target : Option String) :
    ctx.candidates { s with parentId := parent, aliasedId := target } = ctx'.candidates s := by
  have hreference : ctx.referenceContainer { s with parentId := parent, aliasedId := target } =
      ctx'.referenceContainer s := by
    unfold referenceContainer
    rw [hr]
  have hbody : ctx.bodyParent { s with parentId := parent, aliasedId := target } =
      ctx'.bodyParent s := by
    unfold bodyParent
    rw [hl, hr]
    rfl
  have hname : ctx.nameContainer { s with parentId := parent, aliasedId := target } =
      ctx'.nameContainer s := by
    unfold nameContainer
    rw [hl, hr, ho]
    rfl
  rw [candidates, candidates, hreference, hbody, hname]

/-- Symbols are filed under their ids, span ids are told apart by file and from those of the index,
and each site has one span. -/
structure RepeatableInput (ix : Index) (spans : SpanTable) : Prop where
  keyed : ix.Keyed
  oneFile : spans.OneFile
  fresh : ∀ p ∈ spans.filed, ix.contains p.2.id = false
  single : ∀ p ∈ spans.filed, ∀ q ∈ spans.filed, p.2.site p.1 = q.2.site q.1 → p = q

namespace Index

variable {c : Config} {ix : Index} {spans : SpanTable} {id : String} {s x : Symbol}

/-! ## After the first run -/

/-- A kept symbol is kept again. -/
theorem exists_of_kept_again (spans : SpanTable) (hs : (ix.prefilter c {}).1.get? id = some s) :
    ∃ x, ((ix.reconcile c spans).index.prefilter c {}).1.get? id = some x ∧ x.site = s.site := by
  have hout : ∃ x, (ix.reconcile c spans).index.get? id = some x ∧
      x = { s with body := x.body, parentId := x.parentId, aliasedId := x.aliasedId } :=
    (exists_of_kept hs).imp fun x hx => ⟨hx.1, hx.2.1⟩
  obtain ⟨x, hx, hsame⟩ := hout
  have hkeep := (Option.filter_eq_some_iff.1 ((get?_retain ..).symm.trans hs)).2
  have hsite : x.site = s.site := by
    rw [hsame]
    rfl
  refine ⟨x, (get?_retain ..).trans (Option.filter_eq_some_iff.2 ⟨hx, ?_⟩), hsite⟩
  rw [hsame]
  exact hkeep

/-- The number of sites with several spans. -/
theorem reconcile_sharedVariants (c : Config) (ix : Index) (spans : SpanTable) :
    (ix.reconcile c spans).report.sharedVariants =
      (SpanLookup.ofForest (.build spans)).shared :=
  Nat.zero_add _

/-- The cuts at symbols for which no parent was found. -/
def unresolvedCuts (c : Config) (ix : Index) (spans : SpanTable) : List String :=
  (ix.resolved c spans).cycleCuts.filter fun id =>
    ((ix.matched c spans).index.get? id).all fun s => (ix.resolution c spans s).parent.isNone

theorem mem_unresolvedCuts (hs : (ix.matched c spans).index.get? id = some s) :
    id ∈ ix.unresolvedCuts c spans ↔
      id ∈ (ix.resolved c spans).cycleCuts ∧ (ix.resolution c spans s).parent = none := by
  rw [unresolvedCuts, List.mem_filter, hs, Option.all_some, Option.isNone_iff_eq_none]

end Index

/-- Where no site is shared, a site has one span. -/
theorem SpanLookup.eq_of_shared_eq_zero {spans : SpanTable}
    (h : (ofForest (.build spans)).shared = 0) {p q : String × Span} (hp : p ∈ spans.filed)
    (hq : q ∈ spans.filed) (hsite : p.2.site p.1 = q.2.site q.1) : p = q := by
  obtain ⟨a, ha, hap⟩ := exists_mem_variants hp
  obtain ⟨b, hb, hbq⟩ := exists_mem_variants hq
  rw [← hsite] at hb
  obtain ⟨l, hl⟩ : ∃ l, (ofForest (.build spans)).variants.get? (p.2.site p.1) = some l := by
    rw [← Table.contains_iff, contains_variants_build]
    exact ⟨p, hp, rfl⟩
  rw [Table.getD, hl, Option.getD_some] at ha hb
  have hshort : ¬1 < l.length := by
    simpa using List.countP_eq_zero.1 h l (Table.mem_values.2 ⟨_, hl⟩)
  obtain ⟨d, rfl⟩ : ∃ d, l = [d] :=
    List.length_eq_one_iff.1 (by have := List.length_pos_of_mem ha; omega)
  obtain rfl := List.mem_singleton.1 ha
  obtain rfl := List.mem_singleton.1 hb
  exact SpanTable.filed_eq_of_id hp hq (congrArg NameSite.file hsite) (hap.symm.trans hbq)

namespace RepeatableInput

open Index

variable {c : Config} {ix : Index} {spans : SpanTable} {id y : String} {s x : Symbol}
  (h : RepeatableInput ix spans)
include h

/-! ## The second filter -/

/-- What is kept again was kept before or is a span that became a symbol. -/
theorem of_get?_again
    (hx : ((ix.reconcile c spans).index.prefilter c {}).1.get? id = some x) :
    (∃ s, (ix.prefilter c {}).1.get? id = some s ∧ x.site = s.site) ∨
      ∃ p ∈ spans.filed, (ix.prefilter c {}).1.Unmatched p ∧ p.2.id = id ∧
        x.site = some (p.2.site p.1) := by
  have hout := get?_of_retain hx
  rw [get?_reconcile] at hout
  obtain ⟨s, hs, rfl⟩ := Option.map_eq_some_iff.1 hout
  rcases of_get?_matched h.oneFile h.fresh hs with ⟨t, ht, rfl⟩ | ⟨-, p, hp, hnone, rfl, rfl⟩
  · exact .inl ⟨t, ht, Symbol.takeBody_site ..⟩
  · exact .inr ⟨p, hp, hnone, rfl, rfl⟩

/-- A site has the first symbol it had, or its span became one. -/
theorem leader?_again (c : Config) (site : NameSite) :
    ((ix.reconcile c spans).index.prefilter c {}).1.leader? site =
        (ix.prefilter c {}).1.leader? site ∨
      (ix.prefilter c {}).1.leader? site = none ∧ ∃ p ∈ spans.filed, p.2.site p.1 = site ∧
        ((ix.reconcile c spans).index.prefilter c {}).1.leader? site = some p.2.id := by
  have hkept : (ix.prefilter c {}).1.Keyed := h.keyed.retain _
  have hagain : ((ix.reconcile c spans).index.prefilter c {}).1.Keyed :=
    (h.keyed.reconcile c spans).retain _
  cases hlead : (ix.prefilter c {}).1.leader? site with
  | some y =>
    left
    obtain ⟨t, ht, hsite, hleads⟩ := (leader?_eq_some_iff hkept).1 hlead
    obtain ⟨x, hx, hxt⟩ := exists_of_kept_again spans ht
    refine (leader?_eq_some_iff hagain).2 ⟨x, hx, hxt.trans hsite, fun u hu husite => ?_⟩
    obtain ⟨z, hz⟩ := mem_all.1 hu
    rw [hagain.id_of_get? hx, hagain.id_of_get? hz, ← hkept.id_of_get? ht]
    rcases h.of_get?_again hz with ⟨v, hv, huv⟩ | ⟨p, -, hnone, -, hup⟩
    · rw [← hkept.id_of_get? hv]
      exact hleads v (mem_all.2 ⟨z, hv⟩) (huv.symm.trans (husite.trans hxt))
    · have hsame : t.site = some (p.2.site p.1) := hxt.symm.trans (husite.symm.trans hup)
      exact absurd hsame (hnone t (mem_all.2 ⟨y, ht⟩))
  | none =>
    cases hlead' : ((ix.reconcile c spans).index.prefilter c {}).1.leader? site with
    | none => exact .inl rfl
    | some z =>
      right
      obtain ⟨x, hx, hsite, -⟩ := (leader?_eq_some_iff hagain).1 hlead'
      rcases h.of_get?_again hx with ⟨s, hs, hxs⟩ | ⟨p, hp, -, rfl, hxp⟩
      · have hsame : s.site = some site := hxs.symm.trans hsite
        exact absurd hsame (leader?_eq_none_iff.1 hlead s (mem_all.2 ⟨z, hs⟩))
      · exact ⟨rfl, p, hp, Option.some.inj (hxp.symm.trans hsite), rfl⟩

/-! ## What spans stand for -/

theorem resolve_again (c : Config) :
    ((ix.reconcile c spans).index.matched c spans).claims.resolve =
      (ix.matched c spans).claims.resolve := by
  funext q
  by_cases hq : ∃ p ∈ spans.filed, p.2.id = q
  · obtain ⟨p, hp, rfl⟩ := hq
    rw [resolve_filed h.oneFile hp, resolve_filed h.oneFile hp]
    rcases h.leader?_again c (p.2.site p.1) with heq | ⟨hnone, p', hp', hsite, hsome⟩
    · rw [heq]
    · rw [hnone, hsome, h.single p' hp' p hp hsite]
      rfl
  · have hself : ∀ jx : Index, (jx.matched c spans).claims.resolve q = q := by
      intro jx
      by_contra hne
      obtain ⟨p, hp, hid, -⟩ := exists_of_resolve_ne hne
      exact hq ⟨p, hp, hid⟩
    rw [hself, hself]

theorem isOwn_again (c : Config) :
    ((ix.reconcile c spans).index.matched c spans).claims.isOwn =
      (ix.matched c spans).claims.isOwn := by
  funext y q
  rw [Bool.eq_iff_iff, isOwn_matched, isOwn_matched]
  refine ⟨?_, ?_⟩
  · rintro (rfl | ⟨p, hp, rfl, hlead⟩)
    · exact .inl rfl
    · rcases h.leader?_again c (p.2.site p.1) with heq | ⟨-, p', hp', hsite, hsome⟩
      · exact .inr ⟨p, hp, rfl, heq ▸ hlead⟩
      · rw [hsome, h.single p' hp' p hp hsite] at hlead
        exact .inl (Option.some.inj hlead).symm
  · rintro (rfl | ⟨p, hp, rfl, hlead⟩)
    · exact .inl rfl
    · rcases h.leader?_again c (p.2.site p.1) with heq | ⟨hnone, -⟩
      · exact .inr ⟨p, hp, rfl, heq.trans hlead⟩
      · rw [hnone] at hlead
        cases hlead

/-- What a span stands for is no span that stands for something else. -/
theorem resolve_resolve (c : Config) (q : String) :
    (ix.matched c spans).claims.resolve ((ix.matched c spans).claims.resolve q) =
      (ix.matched c spans).claims.resolve q := by
  by_contra hne
  obtain ⟨p, hp, hid, -⟩ := exists_of_resolve_ne hne
  rcases resolve_eq_or h.keyed c spans q with hself | hin
  · rw [hself] at hne
    exact hne hself
  · rw [← hid, not_contains_kept (h.fresh p hp)] at hin
    cases hin

/-! ## The second matching -/

theorem body_of_site {p q : String × Span} (hp : p ∈ located (.build spans))
    (hq : q ∈ located (.build spans)) (hsite : p.2.site p.1 = q.2.site q.1) :
    p.2.body = q.2.body :=
  SpanLookup.body_eq_of_site
    (fun a ha b hb hsame => congrArg (·.2.body) (h.single a ha b hb hsame)) hp hq hsite

/-- What claims a span in the second run has its body already. -/
theorem body_of_leader (hs : (ix.matched c spans).index.get? id = some s) {p : String × Span}
    (hp : p ∈ located (.build spans)) (hsite : s.site = some (p.2.site p.1))
    (hlead : ((ix.reconcile c spans).index.prefilter c {}).1.leader? (p.2.site p.1) = some s.id) :
    s.body = some p.2.body := by
  rcases of_get?_matched h.oneFile h.fresh hs with ⟨t, ht, rfl⟩ | ⟨-, p', hp', -, -, rfl⟩
  · rw [Symbol.takeBody_site] at hsite
    rw [Symbol.takeBody_id] at hlead
    have hclaim : p.2 ∈ (ix.prefilter c {}).1.claimedBy (.ofForest (.build spans)) t := by
      refine mem_claimedBy.2 ⟨p.1, hp, hsite, ?_⟩
      rcases h.leader?_again c (p.2.site p.1) with heq | ⟨hnone, -⟩
      · exact heq.symm.trans hlead
      · exact absurd hsite (leader?_eq_none_iff.1 hnone t (mem_all.2 ⟨id, ht⟩))
    obtain ⟨a, rest, hspans⟩ := List.exists_cons_of_ne_nil (List.ne_nil_of_mem hclaim)
    obtain ⟨file, ha, hasite, -⟩ := mem_claimedBy.1 (hspans ▸ List.mem_cons_self ..)
    rw [hspans]
    exact congrArg some (h.body_of_site ha hp (Option.some.inj (hasite.symm.trans hsite)))
  · obtain ⟨a, ha, -, hbody, hasite⟩ := SpanLookup.exists_filed hp
    have hsame : p'.2.site p'.1 = a.site p.1 :=
      (Option.some.inj hsite).trans hasite.symm
    rw [h.single p' hp' _ ha hsame, ← hbody]
    rfl

/-- A symbol that is kept again is not changed by the second matching. -/
theorem get?_matched_of_kept_again
    (hx : ((ix.reconcile c spans).index.prefilter c {}).1.get? id = some x) :
    ((ix.reconcile c spans).index.matched c spans).index.get? id = some x := by
  rw [get?_matched_of_kept spans hx, Symbol.takeBody_eq]
  have hout := get?_of_retain hx
  rw [get?_reconcile] at hout
  obtain ⟨s, hs, hsx⟩ := Option.map_eq_some_iff.1 hout
  cases hhead : (((ix.reconcile c spans).index.prefilter c {}).1.claimedBy
      (.ofForest (.build spans)) x).head? with
  | none => rfl
  | some a =>
    obtain ⟨file, ha, hsite, hlead⟩ := mem_claimedBy.1 (List.mem_of_head? hhead)
    have hbody : s.body = some a.body := by
      subst hsx
      exact h.body_of_leader hs ha hsite hlead
    have hxbody : x.body = some a.body := by
      rw [← hsx]
      exact hbody
    rw [Option.map_some, Option.some_or, ← hxbody]

/-- A span whose symbol is dropped by the second filter becomes a symbol again. -/
theorem get?_matched_of_dropped (hc : c.synthesizeUnmatched = true) {p : String × Span}
    (hp : p ∈ spans.filed) (hnone : (ix.prefilter c {}).1.Unmatched p)
    (hdropped : ((ix.reconcile c spans).index.prefilter c {}).1.contains p.2.id = false) :
    ((ix.reconcile c spans).index.matched c spans).index.get? p.2.id = some (p.2.symbol p.1) := by
  refine exists_of_unmatched h.oneFile hc hp (fun u hu hsite => ?_) hdropped
  obtain ⟨z, hz⟩ := mem_all.1 hu
  rcases h.of_get?_again hz with ⟨v, hv, huv⟩ | ⟨q, hq, -, rfl, huq⟩
  · exact hnone v (mem_all.2 ⟨z, hv⟩) (huv.symm.trans hsite)
  · rw [h.single q hq p hp (Option.some.inj (huq.symm.trans hsite))] at hz
    rw [contains_iff.2 ⟨u, hz⟩] at hdropped
    cases hdropped

/-- The second matching comes to the symbols of the first, with the parents that were left and the
alias targets that were moved. -/
theorem exists_matched_again (hs : (ix.matched c spans).index.get? id = some s) :
    ∃ parent, ((ix.reconcile c spans).index.matched c spans).index.get? id = some { s with
        parentId := parent
        aliasedId := s.aliasedId.map (ix.matched c spans).claims.resolve } ∧
      ((ix.resolution c spans s).parent = none →
        parent = if id ∈ (ix.resolved c spans).cycleCuts then none else s.parentId) := by
  have hout := get?_reconcile c ix spans id
  rw [hs, Option.map_some] at hout
  by_cases hkeep : ((ix.reconcile c spans).index.prefilter c {}).1.contains id = true
  · obtain ⟨x, hx⟩ := contains_iff.1 hkeep
    obtain rfl := Option.some.inj ((get?_of_retain hx).symm.trans hout)
    exact ⟨_, h.get?_matched_of_kept_again hx, fun hnone => by rw [hnone, Option.none_or]⟩
  · rw [Bool.not_eq_true] at hkeep
    rcases of_get?_matched h.oneFile h.fresh hs with ⟨t, ht, -⟩ | ⟨hc, p, hp, hnone, rfl, rfl⟩
    · obtain ⟨x, hx, -⟩ := exists_of_kept_again spans ht
      rw [contains_iff.2 ⟨x, hx⟩] at hkeep
      cases hkeep
    · refine ⟨none, h.get?_matched_of_dropped hc hp hnone hkeep, fun _ => ?_⟩
      split <;> rfl

theorem contains_matched_again (c : Config) :
    ((ix.reconcile c spans).index.matched c spans).index.contains =
      (ix.matched c spans).index.contains := by
  funext id
  rw [Bool.eq_iff_iff]
  refine ⟨fun hin => ?_, fun hin => ?_⟩
  · rcases contains_matchSpans.1 hin with hkeep | ⟨hc, p, hp, hnone, hid⟩
    · obtain ⟨x, hx⟩ := contains_iff.1 hkeep
      have hout := get?_of_retain hx
      rw [get?_reconcile] at hout
      obtain ⟨s, hs, -⟩ := Option.map_eq_some_iff.1 hout
      exact contains_iff.2 ⟨s, hs⟩
    · refine contains_matchSpans.2 (.inr ⟨hc, p, hp, fun t ht hsite => ?_, hid⟩)
      obtain ⟨z, hz⟩ := mem_all.1 ht
      obtain ⟨x, hx, hxt⟩ := exists_of_kept_again spans hz
      exact hnone x (mem_all.2 ⟨z, hx⟩) (hxt.trans hsite)
  · obtain ⟨s, hs⟩ := contains_iff.1 hin
    obtain ⟨parent, hagain, -⟩ := h.exists_matched_again hs
    exact contains_iff.2 ⟨_, hagain⟩

/-! ## The second links -/

/-- The same parents are found. -/
theorem resolution_again (c : Config) (s : Symbol) (parent target : Option String) :
    (ix.reconcile c spans).index.resolution c spans
        { s with parentId := parent, aliasedId := target } = ix.resolution c spans s := by
  have hcandidates : ((ix.reconcile c spans).index.parentContext c spans).candidates
      { s with parentId := parent, aliasedId := target } =
        (ix.parentContext c spans).candidates s := by
    refine ParentContext.candidates_congr ?_ ?_ ?_ s parent target
    · rw [parentContext_lookup, parentContext_lookup]
    · exact h.resolve_again c
    · exact h.isOwn_again c
  rw [resolution, resolution, Resolution.of, Resolution.of, hcandidates,
    h.contains_matched_again c]

theorem get?_resolved_again (c : Config) (id : String) :
    ((ix.reconcile c spans).index.resolved c spans).get? id =
      ((ix.unresolvedCuts c spans).foldl orphan (ix.resolved c spans)).get? id := by
  rw [get?_foldl_orphan, get?_resolved, get?_resolved]
  cases hs : (ix.matched c spans).index.get? id with
  | none =>
    have hnone : ((ix.reconcile c spans).index.matched c spans).index.get? id = none := by
      have hcontains : (((ix.reconcile c spans).index.matched c spans).index.get? id).isSome =
          ((ix.matched c spans).index.get? id).isSome :=
        congrFun (h.contains_matched_again c) id
      rw [hs] at hcontains
      exact Option.isNone_iff_eq_none.1 (Option.isSome_eq_false_iff.1 hcontains)
    simp [hnone]
  | some s =>
    obtain ⟨parent, hagain, hparent⟩ := h.exists_matched_again hs
    have halias : (s.aliasedId.map (ix.matched c spans).claims.resolve).map
        (ix.matched c spans).claims.resolve =
          s.aliasedId.map (ix.matched c spans).claims.resolve := by
      rw [Option.map_map]
      exact congrArg (Option.map · _) (funext (h.resolve_resolve c))
    rw [hagain, Option.map_some, Option.map_some, Option.map_some, h.resolution_again]
    simp only [Symbol.adopt, Symbol.moveAlias, h.resolve_again c, halias, mem_unresolvedCuts hs]
    cases hfound : (ix.resolution c spans s).parent with
    | some q => simp
    | none =>
      rw [hparent hfound]
      by_cases hcut : id ∈ (ix.resolved c spans).cycleCuts <;> simp [hcut, Symbol.unparented]

/-- A symbol that the second filter drops was no kept one, so it counts by its kind both times. -/
theorem isCallable_resolved_again (c : Config) (id : String) :
    ((ix.reconcile c spans).index.resolved c spans).isCallable id =
      (ix.resolved c spans).isCallable id := by
  rw [isCallable_resolved]
  split
  · rw [reconcile_index, breakCycles, isCallable_foldl_orphan]
  · next hdropped =>
    have hfree : ¬(ix.prefilter c {}).1.contains id = true := fun hkept => by
      obtain ⟨s, hs⟩ := contains_iff.1 hkept
      obtain ⟨x, hx, -⟩ := exists_of_kept_again spans hs
      exact hdropped (contains_iff.2 ⟨x, hx⟩)
    rw [h.get?_resolved_again c, any_isCallable_foldl_orphan, isCallable_resolved, if_neg hfree]

/-- The second run links what the first did, without links that the first cut and for which nothing
is found. -/
theorem resolved_again (c : Config) : (ix.reconcile c spans).index.resolved c spans =
    (ix.unresolvedCuts c spans).foldl orphan (ix.resolved c spans) := by
  refine ext_isCallable (h.get?_resolved_again c) (fun id => ?callable) ?rest
  case callable => rw [h.isCallable_resolved_again c, isCallable_foldl_orphan]
  case rest =>
    rw [withoutSymbols_foldl_orphan, withoutSymbols_resolved, withoutSymbols_resolved,
      withoutSymbols_reconcile]

end RepeatableInput

/-- Where span ids are told apart by file and from those of the index and no site has spans of
several languages, reconciling the result again changes nothing. -/
theorem Index.reconcile_reconcile {ix : Index} {spans : SpanTable} (c : Config)
    (hk : ix.Keyed) (hfile : spans.OneFile)
    (hfresh : ∀ p ∈ spans.filed, ix.contains p.2.id = false)
    (hshared : (ix.reconcile c spans).report.sharedVariants = 0) :
    ((ix.reconcile c spans).index.reconcile c spans).index = (ix.reconcile c spans).index := by
  rw [reconcile_sharedVariants] at hshared
  have h : RepeatableInput ix spans := ⟨hk, hfile, hfresh, fun p hp q hq hsite =>
    SpanLookup.eq_of_shared_eq_zero hshared hp hq hsite⟩
  rw [reconcile_index, h.resolved_again c, breakCycles_foldl_orphan, ← reconcile_index]
  exact fun id hid => (List.mem_filter.1 hid).1

/-- Two namespaces that came as each other's parents. -/
def loopIndex : Index :=
  let declared := fun (id parent : String) (line : UInt32) => {
    id, name := id, kind := .nameSpace, declaration := some ⟨"file:///q/f", .lines line line⟩
    parentId := some parent : Symbol }
  .ofSymbols [declared "m" "n" 1, declared "n" "m" 2]

/-- A structure that the index does not know. -/
def loopStructure : Span := ⟨"T", "STRUCT_DECL", "Cpp", .lines 6 6, .lines 6 8, "t", none⟩

/-- The first namespace and the structure. -/
def loopSpans : SpanTable := .ofList
  [("file:///q/f", .ofListKeepFirst
    [⟨"m", "NAMESPACE", "Cpp", .lines 1 1, .lines 1 4, "s", none⟩, loopStructure])]

/-- A project elsewhere. -/
def loopConfig : Config := { projectRoot := some "/p" }

/-- One of the two parents is cut. The symbol of the structure, which the second filter drops, is
made again, and the second result is the first. -/
theorem reconcile_loop :
    let first := (loopIndex.reconcile loopConfig loopSpans).index
    let second := (first.reconcile loopConfig loopSpans).index
    loopIndex.WellFormed ∧ loopSpans.OneFile ∧
      (∀ p ∈ loopSpans.filed, loopIndex.contains p.2.id = false) ∧
      (loopIndex.reconcile loopConfig loopSpans).report.sharedVariants = 0 ∧
      loopConfig.dropReason (loopStructure.symbol "file:///q/f") = some .outside ∧
      second = first ∧ second.all.map (fun s => (s.id, s.parentId)) =
        [("m", some "n"), ("n", none), ("t", none)] := by
  intro first second
  have hw : loopIndex.WellFormed := .ofSymbols _
  have hfile : loopSpans.OneFile := by decide
  have hfresh : ∀ p ∈ loopSpans.filed, loopIndex.contains p.2.id = false := by decide
  have hshared : (loopIndex.reconcile loopConfig loopSpans).report.sharedVariants = 0 := by
    rw [Index.reconcile_sharedVariants]
    cbv
  have hsame : second = first :=
    Index.reconcile_reconcile loopConfig hw.toKeyed hfile hfresh hshared
  have hparents : (loopIndex.reconcile loopConfig loopSpans).index.all.map
      (fun s => (s.id, s.parentId)) = [("m", some "n"), ("n", none), ("t", none)] := by cbv
  rw [hsame]
  exact ⟨hw, hfile, hfresh, hshared, by decide +kernel, rfl, hparents⟩

end SymbolAtlas
