import Mathlib
import SymbolAtlas.Proofs.Reconcile.Acyclic

/-!
# What a reconciliation adds and what it leaves

The result has the symbols that the filter kept, each under its id, and the spans that match none of
them (`contains_reconcile`). A kept symbol may get another body or parent, and another alias target
if that was a span which a kept symbol matches (`exists_of_resolve_ne`). `reconcile_frame` accounts
for every symbol of the result and for everything besides symbols.
-/

namespace SymbolAtlas.Index

/-- What an index holds besides its symbols. -/
def withoutSymbols (ix : Index) : Index := { ix with symbols := ∅, callables := ∅ }

variable {c : Config} {ix : Index} {spans : SpanTable} {id : String} {s : Symbol}

/-! ## Besides symbols -/

theorem withoutSymbols_foldl_addSpan (l : List (String × Span)) : ∀ ix : Index,
    (l.foldl (fun ix p => ix.addSpan p.1 p.2) ix).withoutSymbols = ix.withoutSymbols := by
  induction l with
  | nil => exact fun _ => rfl
  | cons p l ih =>
    intro ix
    rw [List.foldl_cons, ih, addSpan]
    split <;> rfl

theorem withoutSymbols_foldl_orphan (l : List String) (ix : Index) :
    (l.foldl orphan ix).withoutSymbols = ix.withoutSymbols := by
  have h := congrArg withoutSymbols (foldl_orphan_rest l ix)
  exact h

theorem withoutSymbols_matchSpans (c : Config) (ix : Index) (look : SpanLookup) :
    (ix.matchSpans c look).index.withoutSymbols = ix.withoutSymbols := by
  simp only [matchSpans]
  split
  · rw [synthesize_eq, withoutSymbols_foldl_addSpan]
    rfl
  · rfl

theorem withoutSymbols_resolved (c : Config) (ix : Index) (spans : SpanTable) :
    (ix.resolved c spans).withoutSymbols = ix.withoutSymbols :=
  withoutSymbols_matchSpans c (ix.prefilter c {}).1 _

theorem withoutSymbols_reconcile (c : Config) (ix : Index) (spans : SpanTable) :
    (ix.reconcile c spans).index.withoutSymbols = ix.withoutSymbols :=
  (withoutSymbols_foldl_orphan _ (ix.resolved c spans)).trans (withoutSymbols_resolved c ix spans)

/-! ## Well-formed results -/

theorem WellFormed.foldl_orphan (l : List String) : ∀ {ix : Index}, ix.WellFormed →
    (l.foldl orphan ix).WellFormed := by
  induction l with
  | nil => exact fun h => h
  | cons a l ih => exact fun h => ih (h.modify a (fun _ => rfl) fun _ => rfl)

theorem WellFormed.resolveLinks (h : ix.WellFormed) (ctx : ParentContext) :
    (ix.resolveLinks ctx).WellFormed :=
  h.mapSymbols (fun _ => rfl) fun _ => rfl

/-- The keys of a reconciled index are the symbols' ids, and its callables those of callable kind,
whatever the forest is. -/
theorem WellFormed.reconcileForest (h : ix.WellFormed) (c : Config) (forest : SpanForest)
    (r : Report) : (ix.reconcileForest c forest r).1.WellFormed :=
  ((h.matchSpans c (.ofForest forest)).resolveLinks _).foldl_orphan _

theorem WellFormed.reconcile (h : ix.WellFormed) (c : Config) (spans : SpanTable) :
    (ix.reconcile c spans).index.WellFormed :=
  (h.retain _).reconcileForest c (.build spans) (ix.prefilter c {}).2

/-- An index is told by its symbols, by what counts as a callable and by what it holds besides. -/
theorem ext_isCallable {jx : Index} (hget : ∀ id, ix.get? id = jx.get? id)
    (hcall : ∀ id, ix.isCallable id = jx.isCallable id)
    (hrest : ix.withoutSymbols = jx.withoutSymbols) : ix = jx := by
  have hcallables : ix.callables = jx.callables := KeySet.ext_mem fun id => by
    rw [← KeySet.contains_iff, ← KeySet.contains_iff]
    exact iff_of_eq (congrArg (· = true) (hcall id))
  refine ext_get? hget ?_
  simp only [withoutSymbols, Index.mk.injEq] at hrest ⊢
  exact ⟨trivial, hcallables, hrest.2.2⟩

/-! ## Ids -/

/-- Whether a span matches a symbol does not depend on its place in the forest. -/
theorem exists_unmatched_iff : (∃ p ∈ SpanLookup.located (.build spans), ix.Unmatched p ∧
      p.2.id = id) ↔ ∃ p ∈ spans.filed, ix.Unmatched p ∧ p.2.id = id := by
  refine ⟨?_, ?_⟩
  · rintro ⟨p, hp, hnone, rfl⟩
    obtain ⟨b, hb, hid, -, hsite⟩ := SpanLookup.exists_filed hp
    refine ⟨(p.1, b), hb, fun t ht => ?_, hid⟩
    rw [hsite]
    exact hnone t ht
  · rintro ⟨p, hp, hnone, rfl⟩
    obtain ⟨a, ha, hid, hsite⟩ := SpanLookup.exists_located hp
    refine ⟨(p.1, a), ha, fun t ht => ?_, hid⟩
    rw [hsite]
    exact hnone t ht

theorem contains_reconcile : (ix.reconcile c spans).index.contains id = true ↔
    (ix.prefilter c {}).1.contains id = true ∨ (c.synthesizeUnmatched = true ∧
      ∃ p ∈ spans.filed, (ix.prefilter c {}).1.Unmatched p ∧ p.2.id = id) := by
  rw [reconcile_index, contains_breakCycles, contains_resolved, matched, contains_matchSpans,
    exists_unmatched_iff]

/-! ## Symbols -/

theorem get?_matched_of_kept (spans : SpanTable) (h : (ix.prefilter c {}).1.get? id = some s) :
    (ix.matched c spans).index.get? id =
      some (s.takeBody ((ix.prefilter c {}).1.claimedBy (.ofForest (.build spans)) s)) :=
  get?_matchSpans_of_known h

/-- What becomes of a symbol after matching: the parent that was found or there, unless it is cut,
and its alias target moved. -/
theorem get?_reconcile (c : Config) (ix : Index) (spans : SpanTable) (id : String) :
    (ix.reconcile c spans).index.get? id = ((ix.matched c spans).index.get? id).map fun s =>
      { s with
        parentId := if id ∈ (ix.resolved c spans).cycleCuts then none
          else (ix.resolution c spans s).parent.or s.parentId
        aliasedId := s.aliasedId.map (ix.matched c spans).claims.resolve } := by
  rw [reconcile_index, breakCycles, get?_foldl_orphan, get?_resolved, Option.map_map]
  split <;> rfl

/-- After matching only parents and alias targets change. -/
theorem exists_of_get?_matched (h : (ix.matched c spans).index.get? id = some s) :
    ∃ parent, (ix.reconcile c spans).index.get? id = some { s with
      parentId := parent
      aliasedId := s.aliasedId.map (ix.matched c spans).claims.resolve } :=
  ⟨_, by rw [get?_reconcile, h, Option.map_some]⟩

theorem Keyed.matched (h : ix.Keyed) (c : Config) (spans : SpanTable) :
    (ix.matched c spans).index.Keyed :=
  (h.retain _).matchSpans c _

theorem Keyed.reconcile (h : ix.Keyed) (c : Config) (spans : SpanTable) :
    (ix.reconcile c spans).index.Keyed := by
  refine .of_get? fun id x hx => ?_
  rw [get?_reconcile] at hx
  obtain ⟨s, hs, rfl⟩ := Option.map_eq_some_iff.1 hx
  have hid : s.id = id := (h.matched c spans).id_of_get? hs
  exact hid

/-! ## Callables -/

/-- A kept id counts as a callable if it did, that of a span that became a symbol by its kind. -/
theorem isCallable_resolved (c : Config) (ix : Index) (spans : SpanTable) (id : String) :
    (ix.resolved c spans).isCallable id =
      if (ix.prefilter c {}).1.contains id then ix.isCallable id
      else ((ix.resolved c spans).get? id).any Symbol.isCallable := by
  have hkept : ∀ id, (ix.prefilter c {}).1.isCallable id =
      (ix.isCallable id && (ix.prefilter c {}).1.contains id) := isCallable_retain ix _
  have hknown : ∀ id, (ix.prefilter c {}).1.isCallable id = true →
      (ix.prefilter c {}).1.contains id = true := fun id h => by
    rw [hkept, Bool.and_eq_true] at h
    exact h.2
  have hkind : ((ix.resolved c spans).get? id).any Symbol.isCallable =
      ((ix.matched c spans).index.get? id).any Symbol.isCallable := by
    rw [get?_resolved, Option.any_map]
    rfl
  rw [hkind]
  refine (isCallable_matchSpans hknown c (.ofForest (.build spans)) id).trans ?_
  split
  · next h => rw [hkept, h, Bool.and_true]
  · rfl

theorem isCallable_reconcile (c : Config) (ix : Index) (spans : SpanTable) (id : String) :
    (ix.reconcile c spans).index.isCallable id =
      if (ix.prefilter c {}).1.contains id then ix.isCallable id
      else ((ix.reconcile c spans).index.get? id).any Symbol.isCallable := by
  rw [reconcile_index, breakCycles, isCallable_foldl_orphan, any_isCallable_foldl_orphan]
  exact isCallable_resolved c ix spans id

/-- What counts as a callable after a reconciliation is a symbol of the result. -/
theorem contains_of_isCallable_reconcile (h : (ix.reconcile c spans).index.isCallable id = true) :
    (ix.reconcile c spans).index.contains id = true := by
  rw [isCallable_reconcile] at h
  split at h
  · next hkept => exact contains_reconcile.2 (.inl hkept)
  · obtain ⟨s, hs, -⟩ := (Option.any_eq_true ..).1 h
    exact contains_iff.2 ⟨s, hs⟩

/-! ## Ids that spans stand for -/

/-- An id that is resolved to another one is that of a span which a symbol matches. -/
theorem exists_of_resolve_ne {q : String} (h : (ix.matched c spans).claims.resolve q ≠ q) :
    ∃ p ∈ spans.filed, p.2.id = q ∧ ¬(ix.prefilter c {}).1.Unmatched p := by
  cases ho : (ix.matched c spans).claims.owner.get? q with
  | none => exact absurd (by rw [Claims.resolve, Table.getD, ho, Option.getD_none]) h
  | some y =>
    obtain ⟨s, hs, -, a, ha, rfl⟩ := Claims.exists_of_owner ho
    obtain ⟨file, hm, hsite⟩ := SpanLookup.mem_atSite.1 (Claims.mem_atSite_of_mem_spansOf ha)
    obtain ⟨b, hb, hid, -, hsite'⟩ := SpanLookup.exists_filed hm
    refine ⟨(file, b), hb, hid, fun hnone => hnone s hs ?_⟩
    rw [hsite, hsite']

/-- A kept symbol keeps everything but its body, its parent and its alias target. -/
theorem exists_of_kept (h : (ix.prefilter c {}).1.get? id = some s) :
    ∃ x, (ix.reconcile c spans).index.get? id = some x ∧
      x = { s with body := x.body, parentId := x.parentId, aliasedId := x.aliasedId } ∧
      (x.aliasedId ≠ s.aliasedId → ∃ p ∈ spans.filed, s.aliasedId = some p.2.id ∧
        ¬(ix.prefilter c {}).1.Unmatched p) := by
  have hm := get?_matched_of_kept spans h
  rw [Symbol.takeBody_eq] at hm
  obtain ⟨parent, hx⟩ := exists_of_get?_matched hm
  refine ⟨_, hx, rfl, fun hne => ?_⟩
  dsimp only at hne
  cases hq : s.aliasedId with
  | none => simp [hq] at hne
  | some q =>
    rw [hq, Option.map_some, ne_eq, Option.some.injEq] at hne
    obtain ⟨p, hp, hid, hmatch⟩ := exists_of_resolve_ne hne
    exact ⟨p, hp, congrArg some hid.symm, hmatch⟩

/-- A span that matches no symbol becomes one, if ids are told apart by file. -/
theorem exists_of_unmatched
    (hfile : ∀ p ∈ spans.filed, ∀ q ∈ spans.filed, p.2.id = q.2.id → p.1 = q.1)
    (hc : c.synthesizeUnmatched = true) {p : String × Span} (hp : p ∈ spans.filed)
    (hnone : (ix.prefilter c {}).1.Unmatched p)
    (hfree : (ix.prefilter c {}).1.contains p.2.id = false) :
    (ix.matched c spans).index.get? p.2.id = some (p.2.symbol p.1) := by
  have hin : (ix.matched c spans).index.contains p.2.id = true :=
    contains_matchSpans.2 (.inr ⟨hc, exists_unmatched_iff.2 ⟨p, hp, hnone, rfl⟩⟩)
  obtain ⟨x, hx⟩ := contains_iff.1 hin
  rcases of_get?_matchSpans hx with ⟨t, ht, -⟩ | ⟨file, a, ha, hid, rfl⟩
  · rw [contains_iff.2 ⟨t, ht⟩] at hfree
    cases hfree
  · obtain ⟨b, hb, heq⟩ := SpanLookup.exists_unplaced ha
    have hbid : b.id = p.2.id := (congrArg Span.id heq : b.unplaced.id = a.unplaced.id).trans hid
    obtain rfl := SpanTable.filed_eq_of_id hb hp (hfile _ hb _ hp hbid) hbid
    have hsymbol : a.unplaced.symbol file = b.unplaced.symbol file := by rw [heq]
    exact hx.trans (congrArg some hsymbol)

/-- With span ids told apart by file, the ids of a result are those that the filter kept and, if
spans are to become symbols, those of the spans that match no kept symbol. A kept symbol changes in
no more than its body, its parent and its alias target, and in this only if it was a span that a
kept symbol matches. A span under a free id that matches no kept symbol becomes a symbol with its
name, kind, language and body, declared and defined where its name is. Format flags and pairs
stay. -/
theorem reconcile_frame (c : Config) (ix : Index)
    (hfile : ∀ p ∈ spans.filed, ∀ q ∈ spans.filed, p.2.id = q.2.id → p.1 = q.1) :
    let kept := (ix.prefilter c {}).1
    let out := (ix.reconcile c spans).index
    (∀ id, out.contains id = true ↔ kept.contains id = true ∨ (c.synthesizeUnmatched = true ∧
      ∃ p ∈ spans.filed, kept.Unmatched p ∧ p.2.id = id)) ∧
    (∀ id s, kept.get? id = some s → ix.get? id = some s ∧ ∃ x, out.get? id = some x ∧
      x = { s with body := x.body, parentId := x.parentId, aliasedId := x.aliasedId } ∧
      (x.aliasedId ≠ s.aliasedId →
        ∃ p ∈ spans.filed, s.aliasedId = some p.2.id ∧ ¬kept.Unmatched p)) ∧
    (c.synthesizeUnmatched = true → ∀ p ∈ spans.filed, kept.Unmatched p →
      kept.contains p.2.id = false → ∃ parent, out.get? p.2.id = some {
        id := p.2.id, name := p.2.name, kind := .ofParserWord p.2.kind, language := p.2.language
        declaration := some ⟨p.1, p.2.nameRange⟩, definition := some ⟨p.1, p.2.nameRange⟩
        body := some p.2.body, parentId := parent }) ∧
    out.withoutSymbols = ix.withoutSymbols := by
  intro kept out
  refine ⟨fun id => contains_reconcile, ?kept, ?added, withoutSymbols_reconcile c ix spans⟩
  case kept => exact fun id s h => ⟨get?_of_retain h, exists_of_kept h⟩
  case added =>
    intro hc p hp hnone hfree
    exact exists_of_get?_matched (exists_of_unmatched hfile hc hp hnone hfree)

/-- An alias that names a structure by the id of a span. -/
def headerAlias : Symbol where
  id := "l"
  name := "P"
  kind := .typeAlias
  declaration := some ⟨"h", .lines 9 9⟩
  aliasedId := some "b"

/-- The alias and the structure. -/
def headerIndex : Index := .ofSymbols
  [{ id := "s", name := "S", kind := .structType, definition := some ⟨"h", .lines 1 1⟩ },
    headerAlias]

/-- A union without a name. -/
def headerUnion : Span :=
  ⟨"(anonymous)", "UNION_DECL", "C", .lines 6 6, .lines 6 8, "u", none⟩

/-- The structure as two languages see it, the union, and the line of the alias. -/
def headerSpans : SpanTable := .ofList
  [("h", .ofListKeepFirst
    [⟨"S", "STRUCT_DECL", "C", .lines 1 1, .lines 1 4, "a", none⟩,
      ⟨"S", "STRUCT_DECL", "Cpp", .lines 1 1, .lines 1 4, "b", none⟩, headerUnion,
      ⟨"P", "TYPEDEF_DECL", "C", .lines 9 9, .lines 9 9, "p", none⟩])]

/-- The alias moves to the symbol of the structure and keeps its name, and the union becomes a
symbol. -/
theorem reconcile_header :
    let kept := (headerIndex.prefilter {} {}).1
    let out := (headerIndex.reconcile {} headerSpans).index
    (∀ p ∈ headerSpans.filed, ∀ q ∈ headerSpans.filed, p.2.id = q.2.id → p.1 = q.1) ∧
      ("h", headerUnion) ∈ headerSpans.filed ∧ kept.Unmatched ("h", headerUnion) ∧
      kept.contains "u" = false ∧ out.contains "u" = true ∧
      (∃ x, out.get? "l" = some x ∧ x.name = "P" ∧ x.aliasedId = some "s") ∧
      ∃ u, out.get? "u" = some u ∧ u.kind = .unionType := by
  have hfile : ∀ p ∈ headerSpans.filed, ∀ q ∈ headerSpans.filed, p.2.id = q.2.id → p.1 = q.1 := by
    decide
  obtain ⟨hids, hkept, hadded, -⟩ := reconcile_frame {} headerIndex hfile
  have hp : ("h", headerUnion) ∈ headerSpans.filed := by decide
  have hnone : (headerIndex.prefilter {} {}).1.Unmatched ("h", headerUnion) := by decide
  have hfree : (headerIndex.prefilter {} {}).1.contains "u" = false := by decide
  have hl : (headerIndex.prefilter {} {}).1.get? "l" = some headerAlias := by decide
  obtain ⟨-, x, hx, hsame, -⟩ := hkept "l" headerAlias hl
  have hname : x.name = "P" := by rw [hsame, headerAlias]
  have halias : ((headerIndex.reconcile {} headerSpans).index.get? "l").bind (·.aliasedId) =
      some "s" := by cbv
  rw [hx] at halias
  obtain ⟨parent, hu⟩ := hadded rfl _ hp hnone hfree
  have hkind : SymbolKind.ofParserWord headerUnion.kind = .unionType := by decide
  exact ⟨hfile, hp, hnone, hfree, (hids "u").2 (.inr ⟨rfl, _, hp, hnone, rfl⟩),
    ⟨x, hx, hname, halias⟩, _, hu, hkind⟩

end SymbolAtlas.Index
