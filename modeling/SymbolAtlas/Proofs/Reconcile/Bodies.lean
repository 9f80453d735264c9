import Mathlib
import SymbolAtlas.Proofs.Reconcile.Frame

/-!
# Which symbols get a body

Of the symbols that have their names at one site the one with the least id claims the spans there
and takes the body of the first of them (`Index.reconcile_body`). The others keep the bodies they
came with, so which of them leads decides who gets one.
-/

namespace SymbolAtlas

/-- Of the spans that have their names at a site the one with the least id. -/
@[mk_iff] structure SpanTable.First (spans : SpanTable) (site : NameSite) (a : Span) : Prop where
  filed : (site.file, a) ∈ spans.filed
  atSite : a.site site.file = site
  least : ∀ p ∈ spans.filed, p.2.site p.1 = site → compare a.id p.2.id ≠ .gt

instance (spans : SpanTable) (site : NameSite) (a : Span) : Decidable (spans.First site a) :=
  decidable_of_iff' _ (spans.first_iff site a)

/-- No symbol at the site of `s` has a smaller id. -/
def Index.Leads (ix : Index) (s : Symbol) : Prop :=
  ∀ t ∈ ix.all, t.site = s.site → compare s.id t.id ≠ .gt

instance (ix : Index) (s : Symbol) : Decidable (ix.Leads s) :=
  inferInstanceAs (Decidable (∀ t ∈ ix.all, _))

/-! ## The first span -/

/-- The first span that is listed for a site is the one with the least id. -/
theorem SpanLookup.exists_first {spans : SpanTable} {p : String × Span} (hp : p ∈ spans.filed) :
    ∃ a, spans.First (p.2.site p.1) a ∧
      ((ofForest (.build spans)).variants.getD (p.2.site p.1) []).head?.map (·.body) =
        some a.body := by
  have hsorted := pairwise_variants (.build spans) (p.2.site p.1)
  cases hl : (ofForest (.build spans)).variants.getD (p.2.site p.1) [] with
  | nil =>
    obtain ⟨b, hb, -⟩ := exists_mem_variants hp
    rw [hl] at hb
    cases hb
  | cons first rest =>
    rw [hl] at hsorted
    obtain ⟨a, ha, hid, hbody, hsite⟩ := exists_filed_of_mem_variants (hl ▸ List.mem_cons_self ..)
    refine ⟨a, ⟨ha, hsite, fun q hq hqs => ?_⟩, congrArg some hbody.symm⟩
    obtain ⟨b, hb, hbid⟩ := exists_mem_variants hq
    rw [hqs, hl] at hb
    rw [hid, ← hbid]
    rcases List.mem_cons.1 hb with rfl | hb
    · simp
    · exact (List.pairwise_cons.1 hsorted).1 b hb

namespace Index

variable {ix : Index} {s t : Symbol} {spans : SpanTable}

/-! ## The leading symbol -/

/-- The first symbol that is found at a site leads there. -/
theorem leads_of_find? (hk : ix.Keyed) {site : NameSite}
    (h : (ix.all.find? fun t => t.site = some site) = some t) :
    t ∈ ix.all ∧ t.site = some site ∧ ix.Leads t := by
  have hids : ix.all.Pairwise fun t u => compare t.id u.id ≠ .gt :=
    hk.pairwise_id.imp fun hlt => by rw [hlt]; exact nofun
  have hsite : t.site = some site := by simpa using List.find?_some h
  refine ⟨List.mem_of_find?_eq_some h, hsite, fun u hu hus => ?_⟩
  exact le_of_find? (fun _ => by simp) hids h hu (decide_eq_true (hus.trans hsite))

/-- The symbol that is found at the site of another one is that one if it leads. -/
theorem find?_site_iff (hk : ix.Keyed) (hs : s ∈ ix.all) {site : NameSite}
    (hsite : s.site = some site) :
    (ix.all.find? fun t => t.site = some site).map (·.id) = some s.id ↔ ix.Leads s := by
  cases hfind : ix.all.find? fun t => t.site = some site with
  | none =>
    have hno := List.find?_eq_none.1 hfind s hs
    simp [hsite] at hno
  | some t =>
    obtain ⟨ht, hts, hleads⟩ := leads_of_find? hk hfind
    rw [Option.map_some, Option.some.injEq]
    refine ⟨fun hid => ?_, fun h => ?_⟩
    · have hget := hk.get?_of_mem ht
      rw [hid, hk.get?_of_mem hs] at hget
      exact Option.some.inj hget ▸ hleads
    · have hle := Ordering.isLE_iff_ne_gt.2 (h t ht (hts.trans hsite.symm))
      have hle' := Ordering.isLE_iff_ne_gt.2 (hleads s hs (hsite.trans hts.symm))
      exact Std.LawfulEqCmp.eq_of_compare (Std.OrientedCmp.isLE_antisymm hle' hle)

/-- Among the symbols at a site with spans, the one that leads takes the body of the first span and
the others keep what they have. -/
theorem body_takeBody (hk : ix.Keyed) (hs : s ∈ ix.all) {p : String × Span}
    (hp : p ∈ spans.filed) (hsite : s.site = some (p.2.site p.1)) :
    ∃ a, spans.First (p.2.site p.1) a ∧
      (s.takeBody (ix.claimedBy (.ofForest (.build spans)) s)).body =
        if ix.Leads s then some a.body else s.body := by
  obtain ⟨a, hfirst, hhead⟩ := SpanLookup.exists_first hp
  obtain ⟨b, hb, -, hbsite⟩ := SpanLookup.exists_located hp
  obtain ⟨l, hl, -⟩ := SpanLookup.exists_variants hb
  have hlisted := Table.contains_iff.2 ⟨l, hbsite ▸ hl⟩
  refine ⟨a, hfirst, ?_⟩
  rw [Symbol.takeBody_body, claimedBy, Claims.spansOf, hsite]
  simp only [Claims.get?_claimants hlisted, find?_site_iff hk hs hsite]
  split
  · rw [hhead, Option.some_or]
  · rfl

/-- Where spans have their names where a kept symbol has its own, the symbol gets the body of the
first of them if it leads the symbols there, and keeps its body if it does not. -/
theorem reconcile_body (c : Config) (hk : ix.Keyed) (hs : s ∈ (ix.prefilter c {}).1.all)
    {p : String × Span} (hp : p ∈ spans.filed) (hsite : s.site = some (p.2.site p.1)) :
    ∃ a x, spans.First (p.2.site p.1) a ∧ (ix.reconcile c spans).index.get? s.id = some x ∧
      x.body = if (ix.prefilter c {}).1.Leads s then some a.body else s.body := by
  have hkept : (ix.prefilter c {}).1.Keyed := hk.retain _
  obtain ⟨a, hfirst, hbody⟩ := body_takeBody hkept hs hp hsite
  obtain ⟨parent, hx⟩ := exists_of_get?_matched (get?_matched_of_kept spans (hkept.get?_of_mem hs))
  exact ⟨a, _, hfirst, hx, hbody⟩

/-- A structure of a header, as the index knows it under an id. -/
def twin (id : String) : Symbol :=
  { id, name := "S", kind := .structType, definition := some ⟨"h", .lines 1 1⟩ }

/-- Two symbols of one structure. -/
def twinIndex : Index := .ofSymbols [twin "a", twin "b"]

/-- The span of the structure. -/
def twinSpan : Span := ⟨"S", "STRUCT_DECL", "C", .lines 1 1, .lines 1 4, "s", none⟩

def twinSpans : SpanTable := .ofList [("h", .ofListKeepFirst [twinSpan])]

/-- The structure has the body of its span under the smaller id. -/
theorem reconcile_twin :
    let kept := (twinIndex.prefilter {} {}).1
    twinIndex.WellFormed ∧ twin "a" ∈ kept.all ∧ ("h", twinSpan) ∈ twinSpans.filed ∧
      (twin "a").site = some (twinSpan.site "h") ∧ kept.Leads (twin "a") ∧
      ∃ a x, twinSpans.First (twinSpan.site "h") a ∧
        (twinIndex.reconcile {} twinSpans).index.get? "a" = some x ∧ x.body = some a.body := by
  have hw : twinIndex.WellFormed := .ofSymbols _
  have hs : twin "a" ∈ (twinIndex.prefilter {} {}).1.all := by decide
  have hp : ("h", twinSpan) ∈ twinSpans.filed := by decide
  have hleads : (twinIndex.prefilter {} {}).1.Leads (twin "a") := by decide
  obtain ⟨a, x, hfirst, hx, hbody⟩ := reconcile_body {} hw.toKeyed hs hp rfl
  rw [if_pos hleads] at hbody
  exact ⟨hw, hs, hp, rfl, hleads, a, x, hfirst, hx, hbody⟩

/-- Under the other id it has none, although its name is where the span has it. -/
theorem reconcile_twin_bodiless :
    twinIndex.WellFormed ∧ twin "b" ∈ (twinIndex.prefilter {} {}).1.all ∧
      (twin "b").site = some (twinSpan.site "h") ∧
      twinSpans.First (twinSpan.site "h") twinSpan ∧
      ∃ x, (twinIndex.reconcile {} twinSpans).index.get? "b" = some x ∧ x.body = none := by
  have hm : (twinIndex.matched {} twinSpans).index.get? "b" = some (twin "b") := by cbv
  obtain ⟨parent, hx⟩ := exists_of_get?_matched hm
  exact ⟨.ofSymbols _, by decide, rfl, by decide, _, hx, rfl⟩

end Index

end SymbolAtlas
