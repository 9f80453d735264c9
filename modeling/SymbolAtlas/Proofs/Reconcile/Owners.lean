import Mathlib
import SymbolAtlas.Proofs.Reconcile.Bodies

/-!
# Who answers for a span

The first symbol at a site (`Index.leader?`) claims the spans there (`Index.claimedBy_eq`). Where
span ids are told apart by file, a span therefore stands for the first symbol at its site, or for
itself if there is none (`Index.resolve_filed`). What is tried as a parent, apart from the
containers that references name, stands for a span of a file where the symbol or its span is
(`Index.exists_of_candidate`).
-/

namespace SymbolAtlas

open SpanLookup (located)

/-- Spans of different files have different ids. -/
def SpanTable.OneFile (spans : SpanTable) : Prop :=
  ∀ p ∈ spans.filed, ∀ q ∈ spans.filed, p.2.id = q.2.id → p.1 = q.1

instance (spans : SpanTable) : Decidable spans.OneFile :=
  inferInstanceAs (Decidable (∀ p ∈ spans.filed, _))

/-! ## The first symbol at a site -/

/-- The first symbol by id that has its name at a site. -/
def Index.leader? (ix : Index) (site : NameSite) : Option String :=
  (ix.all.find? fun s => s.site = some site).map (·.id)

namespace Index

variable {ix : Index} {site : NameSite} {id : String} {s : Symbol} {forest : SpanForest}

theorem leader?_eq_some_iff (hk : ix.Keyed) : ix.leader? site = some id ↔
    ∃ t, ix.get? id = some t ∧ t.site = some site ∧ ix.Leads t := by
  refine ⟨fun h => ?_, ?_⟩
  · obtain ⟨t, hfind, rfl⟩ := Option.map_eq_some_iff.1 h
    obtain ⟨ht, hsite, hleads⟩ := leads_of_find? hk hfind
    exact ⟨t, hk.get?_of_mem ht, hsite, hleads⟩
  · rintro ⟨t, ht, hsite, hleads⟩
    rw [← hk.id_of_get? ht]
    exact (find?_site_iff hk (mem_all.2 ⟨id, ht⟩) hsite).2 hleads

theorem leader?_eq_none_iff : ix.leader? site = none ↔ ∀ s ∈ ix.all, s.site ≠ some site := by
  simp [leader?]

/-- The spans that a symbol claims are those at its site if it is the first there. -/
theorem claimedBy_eq (hs : s.site = some site) : ix.claimedBy (.ofForest forest) s =
    if ix.leader? site = some s.id then (SpanLookup.ofForest forest).variants.getD site []
    else [] := by
  unfold claimedBy Claims.spansOf
  rw [hs]
  by_cases hl : (SpanLookup.ofForest forest).variants.contains site = true
  · simp only [Claims.get?_claimants hl, leader?]
    rfl
  · have hnone : (SpanLookup.ofForest forest).variants.getD site [] = [] := by
      rw [Table.getD, Option.not_isSome_iff_eq_none.1 hl, Option.getD_none]
    simp [hnone]

theorem claimedBy_of_none (hs : s.site = none) : ix.claimedBy (.ofForest forest) s = [] := by
  unfold claimedBy Claims.spansOf
  rw [hs]

theorem mem_claimedBy {a : Span} : a ∈ ix.claimedBy (.ofForest forest) s ↔
    ∃ file, (file, a) ∈ located forest ∧ s.site = some (a.site file) ∧
      ix.leader? (a.site file) = some s.id := by
  cases hs : s.site with
  | none => simp [claimedBy_of_none hs]
  | some site =>
    rw [claimedBy_eq hs]
    refine ⟨fun h => ?_, ?_⟩
    · split at h
      · next hlead =>
        obtain ⟨hm, hsite⟩ := SpanLookup.mem_variants.1 h
        exact ⟨_, hm, congrArg some hsite.symm, hsite ▸ hlead⟩
      · cases h
    · rintro ⟨file, hm, heq, hlead⟩
      obtain rfl := Option.some.inj heq
      rw [if_pos hlead]
      exact SpanLookup.mem_variants.2 ⟨hm, rfl⟩

/-- A span at the site of a symbol is claimed. -/
theorem exists_claimant {p : String × Span} (hp : p ∈ located forest)
    (h : ix.leader? (p.2.site p.1) = some id) :
    ∃ s ∈ ix.all, s.id = id ∧ p.2 ∈ ix.claimedBy (.ofForest forest) s := by
  obtain ⟨s, hfind, rfl⟩ := Option.map_eq_some_iff.1 h
  have hsite : s.site = some (p.2.site p.1) := by simpa using List.find?_some hfind
  exact ⟨s, List.mem_of_find?_eq_some hfind, rfl, mem_claimedBy.2 ⟨p.1, hp, hsite, h⟩⟩

end Index

/-! ## Owners -/

namespace Claims

variable {l : SpanLookup} {claimants : Table NameSite String} {symbols : List Symbol}
  {q y : String}

/-- What a symbol owns is what it claimed. -/
theorem mem_owned : q ∈ (ofSymbols l claimants symbols).owned.of y ↔
    ∃ s ∈ symbols, s.id = y ∧ ∃ a ∈ spansOf l claimants s, a.id = q := by
  have run : ∀ (es : List (String × String)) (c : Claims),
      q ∈ (es.foldl (fun c e => c.claim e.1 e.2) c).owned.of y ↔
        (q, y) ∈ es ∨ q ∈ c.owned.of y := by
    intro es
    induction es with
    | nil => simp
    | cons e es ih =>
      intro c
      rw [List.foldl_cons, ih, claim, Adjacency.mem_of_link, List.mem_cons, Prod.ext_iff]
      simp only
      tauto
  rw [ofSymbols_eq, run, mem_pairs]
  simp [show (∅ : Claims).owned = ∅ from rfl]

/-- A span that no symbol claimed stands for itself. -/
theorem resolve_of_unclaimed
    (h : ∀ s ∈ symbols, ∀ a ∈ spansOf l claimants s, a.id ≠ q) :
    (ofSymbols l claimants symbols).resolve q = q := by
  rw [resolve, Table.getD]
  cases ho : (ofSymbols l claimants symbols).owner.get? q with
  | none => rfl
  | some y =>
    obtain ⟨s, hs, -, a, ha, hq⟩ := exists_of_owner ho
    exact absurd hq (h s hs a ha)

/-- A span that only one symbol claimed stands for that symbol. -/
theorem resolve_of_claimed {s : Symbol} (hs : s ∈ symbols) {a : Span}
    (ha : a ∈ spansOf l claimants s)
    (hone : ∀ t ∈ symbols, ∀ b ∈ spansOf l claimants t, b.id = a.id → t.id = s.id) :
    (ofSymbols l claimants symbols).resolve a.id = s.id := by
  rw [resolve, Table.getD]
  cases ho : (ofSymbols l claimants symbols).owner.get? a.id with
  | none =>
    rw [owner_ofSymbols] at ho
    exact absurd (mem_pairs.2 ⟨s, hs, rfl, a, ha, rfl⟩) (Table.not_mem_of_get?_ofList ho s.id)
  | some y =>
    obtain ⟨t, ht, rfl, b, hb, hid⟩ := exists_of_owner ho
    exact hone t ht b hb hid

end Claims

namespace SpanTable.OneFile

variable {spans : SpanTable} (h : spans.OneFile)
include h

/-- A span of the forest is determined by its id. -/
theorem located_eq {p q : String × Span} (hp : p ∈ located (.build spans))
    (hq : q ∈ located (.build spans)) (hid : p.2.id = q.2.id) : p = q := by
  obtain ⟨a, ha, hap, -⟩ := SpanLookup.exists_filed hp
  obtain ⟨b, hb, hbq, -⟩ := SpanLookup.exists_filed hq
  have hfile : p.1 = q.1 := h (p.1, a) ha (q.1, b) hb (hap.trans (hid.trans hbq.symm))
  exact SpanLookup.located_eq_of_id hp hq hfile hid

theorem get?_byId {p : String × Span} (hp : p ∈ located (.build spans)) :
    (SpanLookup.ofForest (.build spans)).byId.get? p.2.id = some p.2 := by
  cases hget : (SpanLookup.ofForest (.build spans)).byId.get? p.2.id with
  | none =>
    have hlisted : (p.2.id, p.2) ∈ (located (.build spans)).map fun e => (e.2.id, e.2) :=
      List.mem_map.2 ⟨p, hp, rfl⟩
    exact absurd hlisted (Table.not_mem_of_get?_ofList hget p.2)
  | some a =>
    obtain ⟨hid, file, ha⟩ := SpanLookup.mem_of_byId hget
    rw [h.located_eq hp ha hid.symm]

end SpanTable.OneFile

/-! ## Candidates -/

/-- The symbol is in a file or has its id from a span of it. -/
def Symbol.IsNear (s : Symbol) (spans : SpanTable) (file : String) : Prop :=
  s.file = some file ∨ ∃ a, (file, a) ∈ located (.build spans) ∧ a.id = s.id

theorem Symbol.file_of_site {s : Symbol} {site : NameSite} (h : s.site = some site) :
    s.file = some site.file := by
  obtain ⟨l, hl, rfl⟩ := Option.map_eq_some_iff.1 h
  rw [file, hl, Option.map_some]

/-- The parent of the span that a symbol was made from, or else of the spans at its site. -/
def SpanLookup.spanParent (l : SpanLookup) (s : Symbol) : Option String :=
  match l.byId.get? s.id with
  | some own => own.parentId
  | none => (l.atSite s).findSome? Span.parentId

namespace ParentContext

variable (ctx : ParentContext) (s : Symbol)

theorem bodyParent_eq : ctx.bodyParent s =
    (ctx.lookup.spanParent s).map ctx.claims.resolve := rfl

/-- A file without trees has no container for a name. -/
theorem nameContainer_eq : ctx.nameContainer s =
    if s.body.isSome || s.kind = .nameSpace then none
    else s.primary.bind fun l =>
      (FileForest.innermostWhere (ctx.lookup.forest.getD l.file [])
        (.bareName l.file s.name s.language l.range) fun a => !ctx.claims.isOwn s.id a.id).map
          fun a => ctx.claims.resolve a.id := by
  unfold nameContainer
  split
  · rfl
  · cases s.primary with
    | none => rfl
    | some l =>
      rw [Option.bind_some, Table.getD]
      dsimp only
      cases ctx.lookup.forest.get? l.file <;> rfl

end ParentContext

namespace Index

variable {ix : Index} {spans : SpanTable} {c : Config}

/-- The first symbol at the site of a span answers for it, and without one it stands for itself. -/
theorem resolve_located (h : spans.OneFile) {p : String × Span} (hp : p ∈ located (.build spans)) :
    (ix.matched c spans).claims.resolve p.2.id =
      ((ix.prefilter c {}).1.leader? (p.2.site p.1)).getD p.2.id := by
  cases hlead : (ix.prefilter c {}).1.leader? (p.2.site p.1) with
  | none =>
    refine Claims.resolve_of_unclaimed fun s hs a ha hid => ?_
    obtain ⟨file, hm, hsite, -⟩ := mem_claimedBy.1 ha
    rw [← h.located_eq hm hp hid] at hlead
    exact leader?_eq_none_iff.1 hlead s hs hsite
  | some y =>
    obtain ⟨s, hs, rfl, ha⟩ := exists_claimant hp hlead
    refine Claims.resolve_of_claimed hs ha fun t ht b hb hid => ?_
    obtain ⟨file, hm, -, htlead⟩ := mem_claimedBy.1 hb
    rw [← h.located_eq hm hp hid, htlead] at hlead
    exact Option.some.inj hlead

theorem resolve_filed (h : spans.OneFile) {p : String × Span} (hp : p ∈ spans.filed) :
    (ix.matched c spans).claims.resolve p.2.id =
      ((ix.prefilter c {}).1.leader? (p.2.site p.1)).getD p.2.id := by
  obtain ⟨a, ha, hid, hsite⟩ := SpanLookup.exists_located hp
  rw [← hid, ← hsite]
  exact resolve_located h ha

variable {s : Symbol} {id q : String}

/-- An id stands for itself or for a kept symbol. -/
theorem resolve_eq_or (hk : ix.Keyed) (c : Config) (spans : SpanTable) (q : String) :
    (ix.matched c spans).claims.resolve q = q ∨
      (ix.prefilter c {}).1.contains ((ix.matched c spans).claims.resolve q) = true := by
  have hkept : (ix.prefilter c {}).1.Keyed := hk.retain _
  unfold Claims.resolve Table.getD
  cases ho : (ix.matched c spans).claims.owner.get? q with
  | none => exact .inl rfl
  | some y =>
    obtain ⟨s, hs, rfl, -⟩ := Claims.exists_of_owner ho
    exact .inr (contains_iff.2 ⟨s, hkept.get?_of_mem hs⟩)

theorem not_contains_kept (h : ix.contains id = false) :
    (ix.prefilter c {}).1.contains id = false := by
  by_contra hc
  obtain ⟨t, ht⟩ := contains_iff.1 (Bool.not_eq_false _ ▸ hc)
  have hin : ix.contains id = true := contains_iff.2 ⟨t, get?_of_retain ht⟩
  rw [h] at hin
  cases hin

/-- A symbol's own spans are the one it was made from and those at a site where it is the first. -/
theorem isOwn_matched : (ix.matched c spans).claims.isOwn id q = true ↔ id = q ∨
    ∃ p ∈ spans.filed, p.2.id = q ∧ (ix.prefilter c {}).1.leader? (p.2.site p.1) = some id := by
  rw [Claims.isOwn, Bool.or_eq_true, decide_eq_true_eq, KeySet.contains_iff]
  refine or_congr_right (Claims.mem_owned.trans ⟨?_, ?_⟩)
  · rintro ⟨s, -, rfl, a, ha, rfl⟩
    obtain ⟨file, hm, -, hlead⟩ := mem_claimedBy.1 ha
    obtain ⟨b, hb, hid, -, hsite⟩ := SpanLookup.exists_filed hm
    exact ⟨(file, b), hb, hid, hsite ▸ hlead⟩
  · rintro ⟨p, hp, rfl, hlead⟩
    obtain ⟨a, ha, hid, hsite⟩ := SpanLookup.exists_located hp
    obtain ⟨s, hs, hsid, hclaim⟩ := exists_claimant ha (hsite ▸ hlead)
    exact ⟨s, hs, hsid, a, hclaim, hid⟩

/-- With fresh ids that are told apart by file, a symbol after matching is one that was kept or a
span that matches none. -/
theorem of_get?_matched (hfile : spans.OneFile)
    (hfresh : ∀ p ∈ spans.filed, ix.contains p.2.id = false)
    (hs : (ix.matched c spans).index.get? id = some s) :
    (∃ t, (ix.prefilter c {}).1.get? id = some t ∧
      s = t.takeBody ((ix.prefilter c {}).1.claimedBy (.ofForest (.build spans)) t)) ∨
    (c.synthesizeUnmatched = true ∧ ∃ p ∈ spans.filed, (ix.prefilter c {}).1.Unmatched p ∧
      p.2.id = id ∧ s = p.2.symbol p.1) := by
  rcases contains_matchSpans.1 (contains_iff.2 ⟨s, hs⟩) with hkept | ⟨hc, hspan⟩
  · obtain ⟨t, ht⟩ := contains_iff.1 hkept
    exact .inl ⟨t, ht, Option.some.inj (hs.symm.trans (get?_matched_of_kept spans ht))⟩
  · obtain ⟨p, hp, hnone, rfl⟩ := exists_unmatched_iff.1 hspan
    have hfree := not_contains_kept (c := c) (hfresh p hp)
    have hsymbol := exists_of_unmatched hfile hc hp hnone hfree
    exact .inr ⟨hc, p, hp, hnone, rfl, Option.some.inj (hs.symm.trans hsymbol)⟩

/-! ## Candidates of a reconciliation -/

@[simp] theorem parentContext_lookup :
    (ix.parentContext c spans).lookup = .ofForest (.build spans) := rfl

/-- The span parent of a symbol is a span of a file where the symbol or its span is. -/
theorem exists_of_spanParent (hq : (SpanLookup.ofForest (.build spans)).spanParent s = some q) :
    ∃ file a, (file, a) ∈ located (.build spans) ∧ a.id = q ∧ s.IsNear spans file := by
  unfold SpanLookup.spanParent at hq
  split at hq
  · next own hown =>
    obtain ⟨hid, file, hm⟩ := SpanLookup.mem_of_byId hown
    obtain ⟨a, ha, haq, -⟩ := SpanLookup.exists_parent_located hm hq
    exact ⟨file, a, ha, haq, .inr ⟨own, hm, hid⟩⟩
  · obtain ⟨b, hb, hp⟩ := List.exists_of_findSome?_eq_some hq
    obtain ⟨file, hm, hsite⟩ := SpanLookup.mem_atSite.1 hb
    obtain ⟨a, ha, haq, -⟩ := SpanLookup.exists_parent_located hm hp
    exact ⟨file, a, ha, haq, .inl (Symbol.file_of_site hsite)⟩

/-- Apart from the containers that references name, what is tried as the parent of a symbol stands
for a span of a file where the symbol or its span is. -/
theorem exists_of_candidate (hnone : (ix.parentContext c spans).referenceContainer s = none)
    (hq : some q ∈ (ix.parentContext c spans).candidates s) :
    ∃ file a, (file, a) ∈ located (.build spans) ∧
      q = (ix.matched c spans).claims.resolve a.id ∧ s.IsNear spans file := by
  simp only [ParentContext.candidates, List.mem_cons, List.not_mem_nil, or_false, hnone] at hq
  rcases hq with hq | hq | hq
  · cases hq
  · obtain ⟨p, hp, rfl⟩ := Option.map_eq_some_iff.1 hq.symm
    obtain ⟨file, a, ha, rfl, hnear⟩ := exists_of_spanParent hp
    exact ⟨file, a, ha, rfl, hnear⟩
  · rw [ParentContext.nameContainer_eq] at hq
    split at hq
    · cases hq
    · obtain ⟨l, hl, hq⟩ := Option.bind_eq_some_iff.1 hq.symm
      obtain ⟨a, ha, rfl⟩ := Option.map_eq_some_iff.1 hq
      have hm := (FileForest.innermostWhere_sound ha).1
      exact ⟨l.file, a, SpanLookup.mem_located_iff.2 hm, rfl,
        .inl (by rw [Symbol.file, hl, Option.map_some])⟩

end Index

end SymbolAtlas
