import Mathlib
import SymbolAtlas.Proofs.Order
import SymbolAtlas.Proofs.Reconcile.Frame

/-!
# Spans that become symbols

After matching a free id has the symbol of the first span with the id that matches nothing
(`Index.get?_matchSpans_of_free`), and that is all that matching adds. So what the kept symbols have
in common all symbols of a result have in common exactly if the spans that become symbols have it
(`Index.forall_reconcile_iff`).
-/

namespace SymbolAtlas

/-- The span becomes a symbol: neither its site nor its id is that of a symbol, and no span with its
id has an earlier site. -/
structure Index.Adds (ix : Index) (spans : SpanTable) (p : String × Span) : Prop where
  filed : p ∈ spans.filed
  unmatched : ix.Unmatched p
  free : ix.contains p.2.id = false
  first : ∀ q ∈ spans.filed, ix.Unmatched q → q.2.id = p.2.id →
    compare (p.2.site p.1) (q.2.site q.1) ≠ .gt

namespace Index

variable {c : Config} {ix : Index} {spans : SpanTable} {id : String} {s : Symbol}
  {p q : String × Span}

/-- Unclaimed spans come by site. -/
theorem pairwise_unclaimed (forest : SpanForest) (claimants : Table NameSite String) :
    (unclaimed (.ofForest forest) claimants).Pairwise fun p q =>
      compare (p.2.site p.1) (q.2.site q.1) ≠ .gt := by
  have hsite : ∀ e ∈ (SpanLookup.ofForest forest).variants.entries, ∀ p ∈ e.2.map (e.1.file, ·),
      p.2.site p.1 = e.1 := by
    intro e he p hp
    obtain ⟨a, ha, rfl⟩ := List.mem_map.1 hp
    have hlisted : a ∈ (SpanLookup.ofForest forest).variants.getD e.1 [] := by
      rwa [Table.getD, Table.get?_eq_some_iff.2 he]
    exact (SpanLookup.mem_variants.1 hlisted).2
  refine List.pairwise_flatMap.2 ⟨fun e he => ?_, ?_⟩
  · refine List.pairwise_of_forall_mem_list fun p hp q hq => ?_
    have he := (List.mem_filter.1 he).1
    rw [hsite e he p hp, hsite e he q hq]
    simp
  · refine ((SpanLookup.ofForest forest).variants.ascending.filter _).imp_of_mem ?_
    intro d e hd he hlt p hp q hq
    rw [hsite d (List.mem_filter.1 hd).1 p hp, hsite e (List.mem_filter.1 he).1 q hq, hlt]
    decide

/-! ## What matching adds -/

/-- Up to its parent, an unclaimed span is a span of the table that matches nothing. -/
theorem exists_filed_of_unclaimed (h : p ∈ unclaimed (.ofForest (.build spans))
      (Claims.claimants (.ofForest (.build spans)) ix.all)) :
    ∃ b, (p.1, b) ∈ spans.filed ∧ ix.Unmatched (p.1, b) ∧ b.unplaced = p.2.unplaced := by
  obtain ⟨hm, hnone⟩ := mem_unclaimed.1 h
  obtain ⟨b, hb, heq⟩ := SpanLookup.exists_unplaced hm
  have hsite : b.site p.1 = p.2.site p.1 := (SpanLookup.fields_of_unplaced heq).2.2
  exact ⟨b, hb, by rwa [Unmatched, hsite], heq⟩

theorem exists_unclaimed (hp : p ∈ spans.filed) (hnone : ix.Unmatched p) :
    ∃ a, (p.1, a) ∈ unclaimed (.ofForest (.build spans))
        (Claims.claimants (.ofForest (.build spans)) ix.all) ∧
      a.id = p.2.id ∧ a.site p.1 = p.2.site p.1 := by
  obtain ⟨a, ha, hid, hsite⟩ := SpanLookup.exists_located hp
  exact ⟨a, mem_unclaimed.2 ⟨ha, by rwa [Unmatched, hsite]⟩, hid, hsite⟩

theorem symbol_of_unplaced {a b : Span} (h : b.unplaced = a.unplaced) (file : String) :
    b.symbol file = a.symbol file := by
  show b.unplaced.symbol file = a.unplaced.symbol file
  rw [h]

/-- The first unclaimed span with a free id is the one that is added. -/
theorem exists_adds_of_find? (hfree : ix.contains id = false)
    (h : (unclaimed (.ofForest (.build spans)) (Claims.claimants (.ofForest (.build spans))
      ix.all)).find? (fun p => p.2.id = id) = some q) :
    ∃ p, ix.Adds spans p ∧ p.2.id = id ∧ q.2.symbol q.1 = p.2.symbol p.1 := by
  obtain ⟨b, hb, hnone, heq⟩ := exists_filed_of_unclaimed (List.mem_of_find?_eq_some h)
  have hsite : b.site q.1 = q.2.site q.1 := (SpanLookup.fields_of_unplaced heq).2.2
  have hqid : q.2.id = id := by simpa using List.find?_some h
  have hbid : b.id = id := (congrArg Span.id heq : b.unplaced.id = q.2.unplaced.id).trans hqid
  refine ⟨(q.1, b), ⟨hb, hnone, hbid ▸ hfree, fun r hr hrnone hrid => ?_⟩, hbid,
    (symbol_of_unplaced heq q.1).symm⟩
  obtain ⟨a, ha, haid, hasite⟩ := exists_unclaimed hr hrnone
  have hfirst := le_of_find? (fun _ => by simp) (pairwise_unclaimed _ _) h ha
    (decide_eq_true (haid.trans (hrid.trans hbid)))
  rwa [hasite, ← hsite] at hfirst

/-- What becomes a symbol is told by its id. -/
theorem Adds.eq (hp : ix.Adds spans p) (hq : ix.Adds spans q) (h : p.2.id = q.2.id) : p = q := by
  have hle := Ordering.isLE_iff_ne_gt.2 (hp.first q hq.filed hq.unmatched h.symm)
  have hle' := Ordering.isLE_iff_ne_gt.2 (hq.first p hp.filed hp.unmatched h)
  have hsite := Std.LawfulEqCmp.eq_of_compare (Std.OrientedCmp.isLE_antisymm hle hle')
  exact SpanTable.filed_eq_of_id hp.filed hq.filed (congrArg NameSite.file hsite) h

/-- Matching adds the spans that become symbols and nothing else. -/
theorem get?_matchSpans_of_free (hfree : ix.contains id = false) :
    (ix.matchSpans c (.ofForest (.build spans))).index.get? id = some s ↔
      c.synthesizeUnmatched = true ∧ ∃ p, ix.Adds spans p ∧ p.2.id = id ∧ s = p.2.symbol p.1 := by
  have hnone := get?_eq_none hfree
  simp only [matchSpans]
  split
  case isFalse hc => simp [hc, get?_mapSymbols, hnone]
  case isTrue hc =>
    rw [synthesize_eq, get?_foldl_addSpan, get?_mapSymbols, hnone, Option.map_none,
      Option.none_or, Option.map_eq_some_iff]
    refine ⟨?_, ?_⟩
    · rintro ⟨q, hq, rfl⟩
      exact ⟨hc, exists_adds_of_find? hfree hq⟩
    · rintro ⟨-, p, hp, rfl, rfl⟩
      obtain ⟨a, ha, haid, -⟩ := exists_unclaimed hp.filed hp.unmatched
      obtain ⟨q, hq⟩ : ∃ q, (unclaimed (.ofForest (.build spans)) (Claims.claimants
          (.ofForest (.build spans)) ix.all)).find? (fun q => q.2.id = p.2.id) = some q :=
        Option.isSome_iff_exists.1 (List.find?_isSome.2 ⟨_, ha, decide_eq_true haid⟩)
      obtain ⟨r, hr, hid, hsymbol⟩ := exists_adds_of_find? hfree hq
      exact ⟨q, hq, hsymbol.trans (by rw [hr.eq hp hid])⟩

/-- A span that becomes a symbol is one in the result, with the parent that was found. -/
theorem Adds.exists_get? (hc : c.synthesizeUnmatched = true)
    (hp : (ix.prefilter c {}).1.Adds spans p) : ∃ parent,
      (ix.reconcile c spans).index.get? p.2.id =
        some { p.2.symbol p.1 with parentId := parent } :=
  exists_of_get?_matched ((get?_matchSpans_of_free hp.free).2 ⟨hc, p, hp, rfl, rfl⟩)

/-- What depends neither on bodies nor on links and holds of the kept symbols holds of every symbol
of a result exactly if it holds of the spans that become symbols. -/
theorem forall_reconcile_iff {P : Symbol → Prop}
    (hP : ∀ s body parent target,
      P { s with body := body, parentId := parent, aliasedId := target } ↔ P s)
    (hkept : ∀ s ∈ (ix.prefilter c {}).1.all, P s) :
    (∀ s ∈ (ix.reconcile c spans).index.all, P s) ↔
      (c.synthesizeUnmatched = true →
        ∀ p, (ix.prefilter c {}).1.Adds spans p → P (p.2.symbol p.1)) := by
  refine ⟨fun hall hc p hp => ?_, fun hadded x hx => ?_⟩
  · obtain ⟨parent, hget⟩ := hp.exists_get? hc
    exact (hP ..).1 (hall _ (mem_all.2 ⟨p.2.id, hget⟩))
  · obtain ⟨id, hid⟩ := mem_all.1 hx
    rw [get?_reconcile, Option.map_eq_some_iff] at hid
    obtain ⟨s, hs, rfl⟩ := hid
    refine (hP ..).2 ?_
    cases hknown : (ix.prefilter c {}).1.contains id with
    | true =>
      obtain ⟨t, ht⟩ := contains_iff.1 hknown
      rw [get?_matched_of_kept spans ht, Symbol.takeBody_eq] at hs
      obtain rfl := Option.some.inj hs
      exact (hP ..).2 (hkept t (mem_all.2 ⟨id, ht⟩))
    | false =>
      obtain ⟨hc, p, hp, -, rfl⟩ := (get?_matchSpans_of_free hknown).1 hs
      exact hadded hc p hp

end Index

end SymbolAtlas
