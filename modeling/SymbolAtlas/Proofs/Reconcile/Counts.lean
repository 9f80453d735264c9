import Mathlib
import SymbolAtlas.Proofs.Reconcile.Frame

/-!
# Counting a reconciliation

Matching adds one symbol for each span that it reports as synthesized (`Index.perm_all_matchSpans`)
and gives bodies to as many symbols as there are claimed sites (`Index.size_claimants`). Each cut
takes one parent away (`Index.countP_parent_breakCycles`). So the counts of a report can be read off
the result (`Index.reconcile_counts`).
-/

namespace SymbolAtlas

namespace Claims

variable {l : SpanLookup}

/-- The sites that are claimed have spans and a symbol. -/
theorem contains_claimants {site : NameSite} (symbols : List Symbol) :
    (claimants l symbols).contains site = true ↔
      l.variants.contains site = true ∧ ∃ s ∈ symbols, s.site = some site := by
  by_cases hl : l.variants.contains site = true
  · rw [← not_iff_not, Bool.not_eq_true, contains_claimants_eq_false hl]
    simp [hl]
  · suffices h : (claimants l symbols).contains site = false by simp [h, hl]
    induction symbols using List.reverseRecOn with
    | nil => rfl
    | append_singleton symbols s ih =>
      cases hs : s.site with
      | none => rw [claimants_append_of_none hs, ih]
      | some other =>
        rw [claimants_append_of_some hs]
        split
        · next ho =>
          have hne : site ≠ other := fun e => hl (e ▸ ho)
          rw [Table.contains, Table.get?_insertNew, if_neg hne]
          exact ih
        · exact ih

end Claims

namespace Index

variable {c : Config} {ix : Index} {spans : SpanTable} {id : String} {s : Symbol}

/-! ## Spans that become symbols -/

theorem exists_added (l : List (String × Span)) : ∀ ix : Index, ∃ added : List (String × Span),
    (l.foldl (fun ix p => ix.addSpan p.1 p.2) ix).all.Perm
      (added.map (fun p => p.2.symbol p.1) ++ ix.all) := by
  induction l with
  | nil => exact fun ix => ⟨[], .refl _⟩
  | cons p l ih =>
    intro ix
    obtain ⟨added, hperm⟩ := ih (ix.addSpan p.1 p.2)
    by_cases h : ix.contains p.2.id = true
    · refine ⟨added, ?_⟩
      have hstep : ix.addSpan p.1 p.2 = ix := by rw [addSpan, if_pos h]
      rw [hstep] at hperm
      rwa [List.foldl_cons, hstep]
    · refine ⟨added ++ [p], ?_⟩
      have hstep : ix.addSpan p.1 p.2 = ix.insert (p.2.symbol p.1) := by rw [addSpan, if_neg h]
      rw [List.foldl_cons, List.map_append, List.append_assoc]
      refine hperm.trans (.append_left _ ?_)
      rw [hstep]
      exact perm_all_insert (by simpa [Span.symbol] using h)

/-- The symbols after matching are the spans that became symbols and the symbols from before, with
the bodies they took. -/
theorem perm_all_matchSpans (c : Config) (ix : Index) (look : SpanLookup) :
    ∃ added : List (String × Span), (ix.matchSpans c look).synthesized = added.length ∧
      (ix.matchSpans c look).index.all.Perm (added.map (fun p => p.2.symbol p.1) ++
        ix.all.map fun s => s.takeBody (ix.claimedBy look s)) := by
  rw [← all_mapSymbols]
  simp only [matchSpans]
  split
  · rw [synthesize_eq]
    obtain ⟨added, hperm⟩ := exists_added (unclaimed look (Claims.claimants look ix.all))
      (ix.mapSymbols fun s => s.takeBody (ix.claimedBy look s))
    refine ⟨added, ?_, hperm⟩
    have hlength := hperm.length_eq
    rw [List.length_append, List.length_map, length_all, length_all] at hlength
    exact (congrArg (· - _) hlength).trans (Nat.add_sub_cancel ..)
  · exact ⟨[], Nat.sub_self _, .refl _⟩

/-- Counting after matching: `countP` of something that all symbols made of spans have. -/
theorem countP_matchSpans_of_true {P : Symbol → Bool} (h : ∀ file a, P (Span.symbol file a) = true)
    (c : Config) (ix : Index) (look : SpanLookup) :
    (ix.matchSpans c look).index.all.countP P = (ix.matchSpans c look).synthesized +
      ix.all.countP fun s => P (s.takeBody (ix.claimedBy look s)) := by
  obtain ⟨added, hlength, hperm⟩ := perm_all_matchSpans c ix look
  have hadded : (added.map fun p => p.2.symbol p.1).countP P = added.length := by
    rw [List.countP_map, List.countP_eq_length]
    exact fun p _ => h p.1 p.2
  rw [hperm.countP_eq, List.countP_append, hadded, List.countP_map, hlength]
  rfl

theorem countP_matchSpans_of_false {P : Symbol → Bool}
    (h : ∀ file a, P (Span.symbol file a) = false) (c : Config) (ix : Index) (look : SpanLookup) :
    (ix.matchSpans c look).index.all.countP P =
      ix.all.countP fun s => P (s.takeBody (ix.claimedBy look s)) := by
  obtain ⟨added, -, hperm⟩ := perm_all_matchSpans c ix look
  have hadded : (added.map fun p => p.2.symbol p.1).countP P = 0 := by
    rw [List.countP_map, List.countP_eq_zero]
    exact fun p _ => by simp [h p.1 p.2]
  rw [hperm.countP_eq, List.countP_append, hadded, List.countP_map, Nat.zero_add]
  rfl

/-! ## Claims -/

/-- A symbol claims spans if and only if it is the claimant of its site. -/
theorem claimedBy_ne_nil {forest : SpanForest} : ix.claimedBy (.ofForest forest) s ≠ [] ↔
    ∃ site, s.site = some site ∧
      (Claims.claimants (.ofForest forest) ix.all).get? site = some s.id := by
  unfold claimedBy Claims.spansOf
  cases hs : s.site with
  | none => simp
  | some site =>
    simp only [Option.some.injEq, exists_eq_left']
    split
    · next h =>
      have hlisted := ((Claims.contains_claimants ix.all).1 (Table.contains_iff.2 ⟨_, h⟩)).1
      obtain ⟨p, hp, rfl⟩ := SpanLookup.contains_variants.1 hlisted
      simp only [h, iff_true]
      exact List.ne_nil_of_mem (SpanLookup.mem_variants.2 ⟨hp, rfl⟩)
    · next h => simp [h]

/-- Every site that is claimed is claimed by a symbol of its own. -/
theorem size_claimants (hk : ix.Keyed) (forest : SpanForest) :
    (Claims.claimants (.ofForest forest) ix.all).size =
      ix.all.countP fun s => !(ix.claimedBy (.ofForest forest) s).isEmpty := by
  have hclaim : ∀ {site id}, (Claims.claimants (.ofForest forest) ix.all).get? site = some id →
      ∃ s, ix.get? id = some s ∧ s.id = id ∧ s.site = some site := by
    intro site id h
    have hlisted := ((Claims.contains_claimants ix.all).1 (Table.contains_iff.2 ⟨_, h⟩)).1
    rw [Claims.get?_claimants hlisted, Option.map_eq_some_iff] at h
    obtain ⟨s, hs, rfl⟩ := h
    exact ⟨s, hk.get?_of_mem (List.mem_of_find?_eq_some hs), rfl,
      by simpa using List.find?_some hs⟩
  have hperm : (Claims.claimants (.ofForest forest) ix.all).values.Perm
      ((ix.all.filter fun s => !(ix.claimedBy (.ofForest forest) s).isEmpty).map (·.id)) := by
    rw [List.perm_ext_iff_of_nodup]
    · intro id
      simp only [List.mem_map, List.mem_filter, Bool.not_eq_true', List.isEmpty_eq_false_iff,
        claimedBy_ne_nil, Table.mem_values]
      refine ⟨?_, ?_⟩
      · rintro ⟨site, h⟩
        obtain ⟨s, hs, rfl, hsite⟩ := hclaim h
        exact ⟨s, ⟨mem_all.2 ⟨_, hs⟩, site, hsite, h⟩, rfl⟩
      · rintro ⟨s, ⟨-, site, -, h⟩, rfl⟩
        exact ⟨site, h⟩
    · have hentries := Table.nodup_keys (Claims.claimants (.ofForest forest) ix.all)
      refine List.Nodup.map_on ?_ (List.Nodup.of_map Prod.fst hentries)
      intro d hd e he hid
      obtain ⟨s, hs, -, hsite⟩ := hclaim (Table.get?_eq_some_iff.2 hd)
      obtain ⟨t, ht, -, hsite'⟩ := hclaim (Table.get?_eq_some_iff.2 he)
      rw [hid, ht] at hs
      cases hs
      exact Prod.ext (Option.some.inj (hsite.symm.trans hsite')) hid
    · exact nodup_map_of_ascending (hk.pairwise_id.filter _)
  have hlength := hperm.length_eq
  rw [List.length_map, ← List.countP_eq_length_filter] at hlength
  rw [← hlength]
  exact (List.length_map ..).symm

/-! ## Links -/

theorem countP_parent (ix : Index) : (ix.all.countP fun s => s.parentId.isSome) =
    ix.ids.countP fun id => (ix.parent? id).isSome := by
  simp only [all, ids, Table.values, Table.keys, List.countP_map]
  refine List.countP_congr fun e he => ?_
  simp [parent?, get?, Table.get?_eq_some_iff.2 he]

/-- Every cut takes one parent away. -/
theorem countP_parent_breakCycles (ix : Index) :
    (ix.breakCycles.all.countP fun s => s.parentId.isSome) + ix.cycleCuts.length =
      ix.all.countP fun s => s.parentId.isSome := by
  have hcuts := cycleCuts_cutsCycles ix
  have hlink : ∀ k ∈ ix.cycleCuts, k ∈ ix.ids ∧ (ix.parent? k).isSome = true := by
    intro k hk
    obtain ⟨p, hp⟩ := (hcuts.onCycle k hk).exists_link
    exact ⟨hp.known, by rw [show ix.parent? k = some p from hp]; rfl⟩
  have hnodup : ix.ids.Nodup := Table.nodup_keys _
  have hperm : (ix.cycleCuts ++ ix.ids.filter fun id => (ix.breakCycles.parent? id).isSome).Perm
      (ix.ids.filter fun id => (ix.parent? id).isSome) := by
    rw [List.perm_ext_iff_of_nodup (List.nodup_append'.2 ⟨hcuts.nodup, hnodup.filter _, ?_⟩)
      (hnodup.filter _)]
    · intro id
      rw [List.mem_append, List.mem_filter, List.mem_filter, parent?_breakCycles]
      by_cases h : id ∈ ix.cycleCuts
      · simp [h, hlink id h]
      · simp [h]
    · intro k hk hm
      simp [parent?_breakCycles, hk] at hm
  have hids : ix.breakCycles.ids = ix.ids := ids_foldl_orphan _ ix
  rw [countP_parent, countP_parent, hids, List.countP_eq_length_filter,
    List.countP_eq_length_filter, ← hperm.length_eq, List.length_append, Nat.add_comm]

/-- Breaking cycles changes nothing but parents. -/
theorem map_all_breakCycles {α : Type} {g : Symbol → α}
    (h : ∀ s, g { s with parentId := none } = g s) (ix : Index) :
    ix.breakCycles.all.map g = ix.all.map g := by
  have run : ∀ (l : List String) (ix : Index), (l.foldl orphan ix).all.map g = ix.all.map g := by
    intro l
    induction l with
    | nil => exact fun _ => rfl
    | cons a l ih => exact fun ix => (ih _).trans (map_all_modify h ix a)
  exact run _ ix

/-! ## What the report says -/

section Report
variable (c : Config) (ix : Index) (spans : SpanTable)

theorem reconcile_matched : (ix.reconcile c spans).report.matched =
    (Claims.claimants (.ofForest (.build spans)) (ix.prefilter c {}).1.all).size :=
  Nat.zero_add _

theorem reconcile_synthesized :
    (ix.reconcile c spans).report.synthesized = (ix.matched c spans).synthesized :=
  Nat.zero_add _

theorem reconcile_parentsAssigned : (ix.reconcile c spans).report.parentsAssigned =
    (ix.matched c spans).index.all.countP fun s => (ix.resolution c spans s).parent.isSome := by
  refine (Nat.zero_add _).trans ?_
  rw [List.countP_map]
  rfl

theorem reconcile_aliasesRemapped : (ix.reconcile c spans).report.aliasesRemapped =
    (ix.matched c spans).index.all.countP fun s =>
      s.aliasedId.any fun id => (ix.matched c spans).claims.resolve id ≠ id :=
  Nat.zero_add _

/-- Every symbol is kept or dropped for one reason. -/
theorem size_prefilter : (ix.prefilter c {}).1.size +
    ((ix.reconcile c spans).report.unlocated +
      (ix.reconcile c spans).report.outsideProject) = ix.size := by
  have hsplit : ∀ l : List Symbol,
      (l.filter fun s => (c.dropReason s).isNone).length +
        (l.countP (fun s => c.dropReason s = some .unlocated) +
          l.countP fun s => c.dropReason s = some .outside) = l.length := by
    intro l
    induction l with
    | nil => rfl
    | cons s l ih =>
      rw [List.length_cons, ← ih]
      rcases h : c.dropReason s with _ | (_ | _) <;> simp [h] <;> omega
  have hunlocated : (ix.reconcile c spans).report.unlocated =
      ix.all.countP fun s => c.dropReason s = some .unlocated := Nat.zero_add _
  have houtside : (ix.reconcile c spans).report.outsideProject =
      ix.all.countP fun s => c.dropReason s = some .outside := Nat.zero_add _
  have hkept : (ix.prefilter c {}).1.all =
      ix.all.filter fun s => (c.dropReason s).isNone := all_retain ix _
  rw [hunlocated, houtside, ← length_all, hkept, hsplit, length_all]

end Report

/-! ## The balance -/

/-- The symbol under the id of `s` names another alias target. -/
def movesAlias (out : Index) (s : Symbol) : Bool :=
  (out.get? s.id).any fun x => x.aliasedId ≠ s.aliasedId

/-- The symbols of a result are those that were matched, with other parents and alias targets. -/
theorem map_all_reconcile {α : Type} {g : Symbol → α}
    (h : ∀ s parent target, g { s with parentId := parent, aliasedId := target } = g s)
    (c : Config) (ix : Index) (spans : SpanTable) :
    (ix.reconcile c spans).index.all.map g = (ix.matched c spans).index.all.map g := by
  rw [reconcile_index, map_all_breakCycles (fun s => h s none s.aliasedId), resolved, resolveLinks,
    all_mapSymbols, List.map_map]
  exact List.map_congr_left fun s _ => h s _ _

theorem size_reconcile (c : Config) (ix : Index) (spans : SpanTable) :
    (ix.reconcile c spans).index.size =
      (ix.prefilter c {}).1.size + (ix.reconcile c spans).report.synthesized := by
  have hone : (ix.reconcile c spans).index.all.map (fun _ => ()) =
      (ix.matched c spans).index.all.map fun _ => () := map_all_reconcile (fun _ _ _ => rfl) c ix spans
  have hout := congrArg List.length hone
  obtain ⟨added, hlength, hperm⟩ :=
    perm_all_matchSpans c (ix.prefilter c {}).1 (.ofForest (.build spans))
  have hmatched := hperm.length_eq
  simp only [List.length_append, List.length_map, length_all] at hout hmatched
  rw [hout, reconcile_synthesized, Nat.add_comm]
  exact hmatched.trans (congrArg (· + _) hlength.symm)

/-- Bodies are those of claimants and of the spans that became symbols. -/
theorem countP_body_reconcile (c : Config) (spans : SpanTable) (hk : ix.Keyed)
    (hbody : ∀ s ∈ ix.all, s.body = none) :
    ((ix.reconcile c spans).index.all.countP fun x => x.body.isSome) =
      (ix.reconcile c spans).report.matched + (ix.reconcile c spans).report.synthesized := by
  have hkept : (ix.prefilter c {}).1.Keyed := hk.retain _
  have hout : ((ix.reconcile c spans).index.all.countP fun x => x.body.isSome) =
      (ix.matched c spans).index.all.countP fun x => x.body.isSome := by
    have hmap := congrArg (List.countP Option.isSome)
      (map_all_reconcile (g := Symbol.body) (fun _ _ _ => rfl) c ix spans)
    rwa [List.countP_map, List.countP_map] at hmap
  rw [hout, matched, countP_matchSpans_of_true fun _ _ => rfl, reconcile_matched,
    reconcile_synthesized, size_claimants hkept, Nat.add_comm, matched]
  refine congrArg (· + _) (List.countP_congr fun s hs => ?_)
  rw [Symbol.takeBody_body, hbody s (mem_all_of_retain hs), Option.or_none]
  cases (ix.prefilter c {}).1.claimedBy (.ofForest (.build spans)) s <;> simp

/-- A parent is one that was found and not cut. -/
theorem countP_parent_reconcile (c : Config) (spans : SpanTable)
    (hparent : ∀ s ∈ ix.all, s.parentId = none) :
    ((ix.reconcile c spans).index.all.countP fun x => x.parentId.isSome) +
      (ix.reconcile c spans).report.cyclesBroken =
        (ix.reconcile c spans).report.parentsAssigned := by
  rw [reconcile_index, reconcile_cyclesBroken, countP_parent_breakCycles,
    reconcile_parentsAssigned, resolved, resolveLinks, all_mapSymbols, List.countP_map]
  refine List.countP_congr fun s hs => ?_
  have hnone : s.parentId = none :=
    parentId_matchSpans (fun s hs => hparent s (mem_all_of_retain hs)) hs
  simp [Symbol.moveAlias, Symbol.adopt, hnone, resolution]

/-- The alias targets that moved are those of kept symbols. -/
theorem countP_movesAlias_reconcile (c : Config) (spans : SpanTable) (hk : ix.Keyed) :
    (ix.prefilter c {}).1.all.countP (ix.reconcile c spans).index.movesAlias =
      (ix.reconcile c spans).report.aliasesRemapped := by
  have hkept : (ix.prefilter c {}).1.Keyed := hk.retain _
  rw [reconcile_aliasesRemapped]
  have hfalse : ∀ file a, ((Span.symbol file a).aliasedId.any fun id =>
      (ix.matched c spans).claims.resolve id ≠ id) = false := fun _ _ => rfl
  refine Eq.trans ?_ (countP_matchSpans_of_false hfalse c _ _).symm
  refine List.countP_congr fun s hs => ?_
  obtain ⟨parent, hx⟩ := exists_of_get?_matched (get?_matched_of_kept spans (hkept.get?_of_mem hs))
  rw [movesAlias, hx]
  cases h : s.aliasedId <;> simp [Symbol.takeBody_eq, h]

/-- The sites that are counted as matched. -/
theorem encard_matched (c : Config) (ix : Index) (spans : SpanTable) :
    {site | (∃ p ∈ spans.filed, p.2.site p.1 = site) ∧
        ∃ s ∈ (ix.prefilter c {}).1.all, s.site = some site}.encard =
      (ix.reconcile c spans).report.matched := by
  have hkeys : {site | (∃ p ∈ spans.filed, p.2.site p.1 = site) ∧
      ∃ s ∈ (ix.prefilter c {}).1.all, s.site = some site} =
        {site | site ∈ (Claims.claimants (.ofForest (.build spans))
          (ix.prefilter c {}).1.all).keys} := by
    ext site
    rw [Set.mem_ofPred, Set.mem_ofPred, Table.mem_keys, Claims.contains_claimants,
      SpanLookup.contains_variants_build]
  rw [hkeys, ← List.coe_toFinset, Set.encard_coe_eq_coe_finsetCard,
    List.toFinset_card_of_nodup (Table.nodup_keys _), reconcile_matched, Table.keys,
    List.length_map, Table.size]

/-- Where no symbol comes with a parent or a body, the report balances with the result: what was
dropped and added with the number of symbols, matched and added spans with the bodies, parents found
and cycles with the parents, moved targets with the kept symbols that name another one, and matched
sites with those that a span and a kept symbol share. -/
theorem reconcile_counts (c : Config) (spans : SpanTable) (hk : ix.Keyed)
    (hparent : ∀ s ∈ ix.all, s.parentId = none) (hbody : ∀ s ∈ ix.all, s.body = none) :
    let kept := (ix.prefilter c {}).1
    let out := (ix.reconcile c spans).index
    let r := (ix.reconcile c spans).report
    out.size + (r.unlocated + r.outsideProject) = ix.size + r.synthesized ∧
      (out.all.countP fun x => x.body.isSome) = r.matched + r.synthesized ∧
      (out.all.countP fun x => x.parentId.isSome) + r.cyclesBroken = r.parentsAssigned ∧
      kept.all.countP out.movesAlias = r.aliasesRemapped ∧
      {site | (∃ p ∈ spans.filed, p.2.site p.1 = site) ∧
        ∃ s ∈ kept.all, s.site = some site}.encard = r.matched := by
  intro kept out r
  refine ⟨?size, countP_body_reconcile c spans hk hbody, countP_parent_reconcile c spans hparent,
    countP_movesAlias_reconcile c spans hk, encard_matched c ix spans⟩
  case size =>
    have hsize : out.size = kept.size + r.synthesized := size_reconcile c ix spans
    have hdropped : kept.size + (r.unlocated + r.outsideProject) = ix.size :=
      size_prefilter c ix spans
    omega

/-- A namespace and an alias of it, by the id of its span, that name each other as their container,
and a variable without a place. -/
def tangledIndex : Index := .ofSymbols
  [{ id := "m", name := "M", kind := .nameSpace, declaration := some ⟨"f", .lines 1 1⟩
     references := [⟨⟨RefKind.declaration⟩, ⟨"f", .lines 1 1⟩, some "n"⟩] },
    { id := "n", name := "N", kind := .nameSpace, declaration := some ⟨"f", .lines 2 2⟩
      references := [⟨⟨RefKind.declaration⟩, ⟨"f", .lines 2 2⟩, some "m"⟩]
      aliasedId := some "s" },
    { id := "v", name := "v", kind := .var }]

/-- The namespace and a structure that the index does not know. -/
def tangledSpans : SpanTable := .ofList
  [("f", .ofListKeepFirst
    [⟨"M", "NAMESPACE", "Cpp", .lines 1 1, .lines 1 4, "s", none⟩,
      ⟨"T", "STRUCT_DECL", "Cpp", .lines 6 6, .lines 6 8, "t", none⟩])]

/-- The variable goes and the structure comes, two symbols have bodies, of the two parents that were
found one is left, and the alias names another target. -/
theorem reconcile_tangled :
    let kept := (tangledIndex.prefilter {} {}).1
    let out := (tangledIndex.reconcile {} tangledSpans).index
    tangledIndex.WellFormed ∧ (∀ s ∈ tangledIndex.all, s.parentId = none) ∧
      (∀ s ∈ tangledIndex.all, s.body = none) ∧ out.size = 3 ∧
      (out.all.countP fun x => x.body.isSome) = 2 ∧
      (out.all.countP fun x => x.parentId.isSome) = 1 ∧
      kept.all.countP out.movesAlias = 1 := by
  have hw : tangledIndex.WellFormed := .ofSymbols _
  have hparent : ∀ s ∈ tangledIndex.all, s.parentId = none := by decide
  have hbody : ∀ s ∈ tangledIndex.all, s.body = none := by decide
  have hr : (tangledIndex.reconcile {} tangledSpans).report =
      { unlocated := 1, matched := 1, synthesized := 1, parentsAssigned := 2,
        aliasesRemapped := 1, cyclesBroken := 1 } := by cbv
  have hn : tangledIndex.size = 3 := by decide
  obtain ⟨hsize, hbodies, hparents, hmoves, -⟩ :=
    reconcile_counts {} tangledSpans hw.toKeyed hparent hbody
  rw [hr] at hsize hbodies hparents hmoves
  simp only [hn] at hsize hparents
  exact ⟨hw, hparent, hbody, by omega, hbodies, by omega, hmoves⟩

end Index

end SymbolAtlas
