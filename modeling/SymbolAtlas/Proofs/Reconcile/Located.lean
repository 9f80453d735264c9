import Mathlib.Data.List.Nodup
import SymbolAtlas.Proofs.Forest
import SymbolAtlas.Proofs.Nesting
import SymbolAtlas.Proofs.Order
import SymbolAtlas.Proofs.Span
import SymbolAtlas.Reconcile.Claims

/-!
# Where spans are found

The forest of a table holds the spans of the table, each in its file and changed in nothing but its
parent (`exists_unplaced`, `exists_located`). `mem_variants` says which of them stand at a site, and
`pairwise_variants` that they come in id order.
-/

namespace SymbolAtlas.SpanLookup

variable {forest : SpanForest} {spans : SpanTable} {site : NameSite} {s : Symbol}
  {file id : String} {a b : Span}

theorem mem_located :
    (file, a) ∈ located forest ↔ ∃ trees, forest.get? file = some trees ∧ a ∈ trees.spans :=
  Table.mem_flatMap_pairs

/-! ## The spans of a table in its forest -/

theorem mem_located_build : (file, a) ∈ located (.build spans) ↔
    ∃ set, spans.get? file = some set ∧ a ∈ (FileForest.build set).spans := by
  rw [mem_located, SpanForest.build, Table.get?_map]
  refine ⟨?_, ?_⟩
  · rintro ⟨trees, ht, ha⟩
    obtain ⟨set, hs, rfl⟩ := Option.map_eq_some_iff.1 ht
    exact ⟨set, hs, ha⟩
  · rintro ⟨set, hs, ha⟩
    exact ⟨_, Option.map_eq_some_iff.2 ⟨set, hs, rfl⟩, ha⟩

theorem fields_of_unplaced (h : b.unplaced = a.unplaced) :
    b.id = a.id ∧ b.body = a.body ∧ b.site file = a.site file := by
  simp only [Span.unplaced, Span.mk.injEq] at h
  obtain ⟨hname, -, -, hrange, hbody, hid, -⟩ := h
  refine ⟨hid, hbody, ?_⟩
  rw [Span.site, hname, hrange, Span.site]

/-- A span of the forest is one of the table, up to its parent. -/
theorem exists_unplaced (h : (file, a) ∈ located (.build spans)) :
    ∃ b, (file, b) ∈ spans.filed ∧ b.unplaced = a.unplaced := by
  obtain ⟨set, hs, ha⟩ := mem_located_build.1 h
  obtain ⟨b, hb, heq⟩ := FileForest.exists_of_mem_build ha
  exact ⟨b, SpanTable.mem_filed.2 ⟨set, hs, hb⟩, heq⟩

theorem exists_filed (h : (file, a) ∈ located (.build spans)) :
    ∃ b, (file, b) ∈ spans.filed ∧ b.id = a.id ∧ b.body = a.body ∧ b.site file = a.site file := by
  obtain ⟨b, hb, heq⟩ := exists_unplaced h
  exact ⟨b, hb, fields_of_unplaced heq⟩

/-- A span of the table is one of the forest. -/
theorem exists_located (h : (file, b) ∈ spans.filed) :
    ∃ a, (file, a) ∈ located (.build spans) ∧ a.id = b.id ∧ a.site file = b.site file := by
  obtain ⟨set, hs, hb⟩ := SpanTable.mem_filed.1 h
  obtain ⟨a, ha, heq⟩ := FileForest.exists_mem_build hb
  obtain ⟨hid, -, hsite⟩ := fields_of_unplaced heq
  exact ⟨a, mem_located_build.2 ⟨set, hs, ha⟩, hid, hsite⟩

theorem exists_parent_located (h : (file, a) ∈ located (.build spans))
    (hp : a.parentId = some id) :
    ∃ b, (file, b) ∈ located (.build spans) ∧ b.id = id ∧ b.body.Surrounds a.body := by
  obtain ⟨set, hs, ha⟩ := mem_located_build.1 h
  obtain ⟨b, hb, hid, hin⟩ := FileForest.exists_isChildOf ha hp
  exact ⟨b, mem_located_build.2 ⟨set, hs, hb⟩, hid, Range.surrounds_of_within hin⟩

/-- A span of the forest is determined by its file and its id. -/
theorem located_eq_of_id {p q : String × Span} (hp : p ∈ located (.build spans))
    (hq : q ∈ located (.build spans)) (hfile : p.1 = q.1) (hid : p.2.id = q.2.id) : p = q := by
  obtain ⟨set, hs, ha⟩ := mem_located_build.1 hp
  obtain ⟨set', hs', hb⟩ := mem_located_build.1 hq
  rw [← hfile, hs] at hs'
  obtain rfl := Option.some.inj hs'
  exact Prod.ext hfile (List.inj_on_of_nodup_map (FileForest.nodup_ids_build set) ha hb hid)

/-- Where spans of a table at one site have one body, so have those of its forest. -/
theorem body_eq_of_site (hsame : ∀ p ∈ spans.filed, ∀ q ∈ spans.filed,
    p.2.site p.1 = q.2.site q.1 → p.2.body = q.2.body) {p q : String × Span}
    (hp : p ∈ located (.build spans)) (hq : q ∈ located (.build spans))
    (hsite : p.2.site p.1 = q.2.site q.1) : p.2.body = q.2.body := by
  obtain ⟨a, ha, -, hbody, hsa⟩ := exists_filed hp
  obtain ⟨b, hb, -, hbody', hsb⟩ := exists_filed hq
  rw [← hbody, ← hbody']
  exact hsame _ ha _ hb (hsa.trans (hsite.trans hsb.symm))

/-! ## The trees of a file -/

theorem mem_located_iff :
    (file, a) ∈ located forest ↔ a ∈ FileForest.spans (forest.getD file []) :=
  Table.mem_flatMap_pairs_iff_getD rfl

/-- A file that is not listed has no trees. -/
theorem getD_build (spans : SpanTable) (file : String) :
    (SpanForest.build spans).getD file [] = FileForest.build (spans.getD file ∅) := by
  rw [SpanForest.build, Table.getD, Table.get?_map, Table.getD]
  cases spans.get? file with
  | none =>
    have hempty : FileForest.build ∅ = [] := by
      rw [FileForest.build, show (∅ : SpanSet).toList = [] from rfl, List.mergeSort_nil,
        FileForest.grow]
    exact hempty.symm
  | some set => rfl

/-! ## Spans by site and by id -/

/-- The spans at a site are listed by id. -/
theorem getD_variants (forest : SpanForest) (site : NameSite) :
    (ofForest forest).variants.getD site [] =
      (((located forest).filter fun e => e.2.site e.1 = site).map (·.2)).mergeSort idOrder := by
  rw [ofForest, Table.getD, Table.get?_map, ← Table.getD_group, Table.getD]
  cases (Table.group (fun e => Span.site e.1 e.2) (located forest)).get? site <;> simp

/-- The spans that are listed for a site depend on the trees of its file. -/
theorem getD_variants_eq (forest : SpanForest) (site : NameSite) :
    (ofForest forest).variants.getD site [] =
      ((FileForest.spans (forest.getD site.file [])).filter fun a =>
        a.site site.file = site).mergeSort idOrder := by
  have hfilter : (located forest).filter (fun e => e.2.site e.1 = site) =
      ((FileForest.spans (forest.getD site.file [])).filter fun a =>
        a.site site.file = site).map (site.file, ·) := by
    rw [located, List.filter_flatMap, Table.flatMap_entries (k := site.file)]
    · rw [Table.getD]
      cases forest.get? site.file with
      | none => rfl
      | some trees => exact List.filter_map ..
    · intro e _ hne
      refine List.filter_eq_nil_iff.2 fun p hp hsite => ?_
      obtain ⟨a, -, rfl⟩ := List.mem_map.1 hp
      exact hne (congrArg NameSite.file (of_decide_eq_true hsite))
  rw [getD_variants, hfilter, List.map_map]
  congr 1
  exact List.map_id _

/-- The spans at a site are those of its file that have their names there. -/
theorem mem_variants : a ∈ (ofForest forest).variants.getD site [] ↔
    (site.file, a) ∈ located forest ∧ a.site site.file = site := by
  rw [getD_variants, List.mem_mergeSort, List.mem_map]
  refine ⟨?_, ?_⟩
  · rintro ⟨⟨file, b⟩, he, rfl⟩
    obtain ⟨hm, hs⟩ := List.mem_filter.1 he
    have hs : b.site file = site := of_decide_eq_true hs
    subst hs
    exact ⟨hm, rfl⟩
  · rintro ⟨hm, hs⟩
    exact ⟨(site.file, a), List.mem_filter.2 ⟨hm, decide_eq_true hs⟩, rfl⟩

theorem pairwise_variants (forest : SpanForest) (site : NameSite) :
    ((ofForest forest).variants.getD site []).Pairwise fun a b => compare a.id b.id ≠ .gt := by
  rw [getD_variants]
  refine (List.pairwise_mergeSort (fun a b d => ?_) (fun a b => ?_) _).imp of_decide_eq_true
  · exact notAfter_trans a.id b.id d.id
  · exact notAfter_total a.id b.id

/-- A site that is listed has spans. -/
theorem exists_variants (h : (file, a) ∈ located forest) : ∃ l,
    (ofForest forest).variants.get? (a.site file) = some l ∧ a ∈ l := by
  have hm : a ∈ (ofForest forest).variants.getD (a.site file) [] := mem_variants.2 ⟨h, rfl⟩
  unfold Table.getD at hm
  cases hget : (ofForest forest).variants.get? (a.site file) with
  | none =>
    rw [hget] at hm
    cases hm
  | some l =>
    rw [hget] at hm
    exact ⟨l, rfl, hm⟩

theorem contains_variants : (ofForest forest).variants.contains site = true ↔
    ∃ p ∈ located forest, p.2.site p.1 = site := by
  have hmap : (ofForest forest).variants.contains site =
      (Table.group (fun e => Span.site e.1 e.2) (located forest)).contains site :=
    Table.contains_mapWithKey ..
  rw [hmap, Table.contains_group]

/-- A site is listed if a span of the table has its name there. -/
theorem contains_variants_build : (ofForest (.build spans)).variants.contains site = true ↔
    ∃ p ∈ spans.filed, p.2.site p.1 = site := by
  rw [contains_variants]
  refine ⟨?_, ?_⟩
  · rintro ⟨p, hp, rfl⟩
    obtain ⟨b, hb, -, -, hsite⟩ := exists_filed hp
    exact ⟨(p.1, b), hb, hsite⟩
  · rintro ⟨p, hp, rfl⟩
    obtain ⟨a, ha, -, hsite⟩ := exists_located hp
    exact ⟨(p.1, a), ha, hsite⟩

/-- Every span of a table is listed for its site. -/
theorem exists_mem_variants {p : String × Span} (h : p ∈ spans.filed) :
    ∃ a ∈ (ofForest (.build spans)).variants.getD (p.2.site p.1) [], a.id = p.2.id := by
  obtain ⟨a, ha, hid, hsite⟩ := exists_located h
  exact ⟨a, mem_variants.2 ⟨ha, hsite⟩, hid⟩

/-- What is listed for a site is a span of the table. -/
theorem exists_filed_of_mem_variants
    (h : a ∈ (ofForest (.build spans)).variants.getD site []) :
    ∃ b, (site.file, b) ∈ spans.filed ∧ b.id = a.id ∧ b.body = a.body ∧
      b.site site.file = site := by
  obtain ⟨hm, hsite⟩ := mem_variants.1 h
  obtain ⟨b, hb, hid, hbody, hbsite⟩ := exists_filed hm
  exact ⟨b, hb, hid, hbody, hbsite.trans hsite⟩

theorem mem_of_byId (h : (ofForest forest).byId.get? id = some a) :
    a.id = id ∧ ∃ file, (file, a) ∈ located forest := by
  obtain ⟨⟨file, b⟩, hb, heq⟩ := List.mem_map.1 (Table.mem_of_get?_ofList h)
  cases heq
  exact ⟨rfl, file, hb⟩

/-- The spans at the site of a symbol have its name where it has it. -/
theorem mem_atSite : a ∈ (ofForest forest).atSite s ↔
    ∃ file, (file, a) ∈ located forest ∧ s.site = some (a.site file) := by
  unfold atSite
  split
  · next site hs =>
    rw [mem_variants, hs]
    refine ⟨?_, ?_⟩
    · rintro ⟨hm, hsite⟩
      exact ⟨site.file, hm, by rw [hsite]⟩
    · rintro ⟨file, hm, heq⟩
      obtain rfl := Option.some.inj heq
      exact ⟨hm, rfl⟩
  · next hs => simp [hs]

end SymbolAtlas.SpanLookup
