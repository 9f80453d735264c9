import Mathlib
import SymbolAtlas.Proofs.Reconcile.Owners

/-!
# Parents that come from nesting

Where an index brings no parents, bodies or containers of its own and spans are told apart by their
ids (`LexicalInput`), everything that is tried as the parent of a symbol is a span around it
(`LexicalInput.liesIn_of_candidate`), and the symbol that answers for a span has its body
(`LexicalInput.body_of_resolve`). So a parent is a region with its child inside
(`reconcile_lexical`), and there is nothing to reject or to cut.
-/

namespace SymbolAtlas

/-- The symbol lies properly inside a region: its body does, or, if it has none, its name starts
in the region or a span at its site lies properly inside. -/
def Symbol.LiesIn (spans : SpanTable) (x : Symbol) (outer : Range) : Prop :=
  match x.body with
  | some b => outer.Surrounds b
  | none => (∃ l, x.primary = some l ∧ outer.encloses (.point l.start) = true) ∨
      ∃ p ∈ spans.filed, x.site = some (p.2.site p.1) ∧ outer.Surrounds p.2.body

/-- An index of symbols under their ids, without parents, bodies or containers of declarations, and
spans whose ids are theirs alone. Spans that share a site share their body. -/
structure LexicalInput (ix : Index) (spans : SpanTable) : Prop where
  keyed : ix.Keyed
  parentless : ∀ s ∈ ix.all, s.parentId = none
  bodiless : ∀ s ∈ ix.all, s.body = none
  uncontained : ∀ s ∈ ix.all, ∀ r ∈ s.references, r.kind.declares = true →
    (some r.location = s.declaration ∨ some r.location = s.definition) → r.container = none
  oneFile : ∀ p ∈ spans.filed, ∀ q ∈ spans.filed, p.2.id = q.2.id → p.1 = q.1
  fresh : ∀ p ∈ spans.filed, ix.contains p.2.id = false
  sameBody : ∀ p ∈ spans.filed, ∀ q ∈ spans.filed,
    p.2.site p.1 = q.2.site q.1 → p.2.body = q.2.body

open SpanLookup (located)

/-- A span around the name of a symbol without a body is around the symbol. -/
theorem liesIn_of_nameContainer {ix : Index} {spans : SpanTable} {c : Config} {x : Symbol}
    {q : String} (hq : (ix.parentContext c spans).nameContainer x = some q) :
    ∃ p ∈ located (.build spans),
      q = (ix.matched c spans).claims.resolve p.2.id ∧ x.LiesIn spans p.2.body := by
  rw [ParentContext.nameContainer_eq] at hq
  split at hq
  · cases hq
  · next hbare =>
    obtain ⟨l, hl, hq⟩ := Option.bind_eq_some_iff.1 hq
    obtain ⟨a, ha, rfl⟩ := Option.map_eq_some_iff.1 hq
    obtain ⟨hm, -, hin⟩ := FileForest.innermostWhere_sound ha
    refine ⟨(l.file, a), SpanLookup.mem_located_iff.2 hm, rfl, ?_⟩
    have hnone : x.body = none := by
      cases hb : x.body with
      | none => rfl
      | some b => simp [hb] at hbare
    simp only [Symbol.LiesIn, hnone]
    exact .inl ⟨l, hl, Range.encloses_of_within hin⟩

namespace LexicalInput

open Index (of_get?_matchSpans)

variable {ix : Index} {spans : SpanTable} (h : LexicalInput ix spans)
include h

/-! ## Bodies -/

theorem not_contains {p : String × Span} (hp : p ∈ located (.build spans)) :
    ix.contains p.2.id = false := by
  obtain ⟨b, hb, hid, -⟩ := SpanLookup.exists_filed hp
  exact hid ▸ h.fresh _ hb

theorem body_of_id {p q : String × Span} (hp : p ∈ located (.build spans))
    (hq : q ∈ located (.build spans)) (hid : p.2.id = q.2.id) : p.2.body = q.2.body := by
  rw [SpanTable.OneFile.located_eq h.oneFile hp hq hid]

theorem body_of_site {p q : String × Span} (hp : p ∈ located (.build spans))
    (hq : q ∈ located (.build spans)) (hsite : p.2.site p.1 = q.2.site q.1) :
    p.2.body = q.2.body :=
  SpanLookup.body_eq_of_site h.sameBody hp hq hsite

variable {c : Config} {x y s : Symbol} {id : String}

/-- A body comes from the spans at the symbol's site. -/
theorem exists_of_body (hx : (ix.matched c spans).index.get? id = some x) {b : Range}
    (hb : x.body = some b) : ∃ p ∈ located (.build spans),
      x.site = some (p.2.site p.1) ∧ p.2.body = b := by
  rcases of_get?_matchSpans hx with ⟨t, ht, rfl⟩ | ⟨file, a, ha, -, rfl⟩
  · have hnone : t.body = none := h.bodiless t (Index.mem_all.2 ⟨id, Index.get?_of_retain ht⟩)
    rw [Symbol.takeBody_body, hnone, Option.or_none, Option.map_eq_some_iff] at hb
    obtain ⟨a, ha, rfl⟩ := hb
    have hsite := Claims.mem_atSite_of_mem_spansOf (List.mem_of_head? ha)
    obtain ⟨file, hm, hsite⟩ := SpanLookup.mem_atSite.1 hsite
    exact ⟨(file, a), hm, (Symbol.takeBody_site ..).trans hsite, rfl⟩
  · exact ⟨(file, a), ha, rfl, Option.some.inj hb⟩

/-- A symbol that claims a span has its body. -/
theorem body_of_claimed {part : Index} {a : Span}
    (ha : a ∈ part.claimedBy (.ofForest (.build spans)) s) :
    (s.takeBody (part.claimedBy (.ofForest (.build spans)) s)).body = some a.body := by
  obtain ⟨first, rest, hspans⟩ := List.exists_cons_of_ne_nil (List.ne_nil_of_mem ha)
  have hfirst : first ∈ part.claimedBy (.ofForest (.build spans)) s := by
    rw [hspans]
    exact List.mem_cons_self ..
  obtain ⟨f, hf, hsite⟩ := SpanLookup.mem_atSite.1 (Claims.mem_atSite_of_mem_spansOf hfirst)
  obtain ⟨g, hg, hsite'⟩ := SpanLookup.mem_atSite.1 (Claims.mem_atSite_of_mem_spansOf ha)
  rw [hspans]
  exact congrArg some (h.body_of_site hf hg (Option.some.inj (hsite.symm.trans hsite')))

/-- Whatever answers for a span, its owner or the symbol made from it, has its body. -/
theorem body_of_resolve {p : String × Span} (hp : p ∈ located (.build spans))
    (hy : (ix.matched c spans).index.get? ((ix.matched c spans).claims.resolve p.2.id) = some y) :
    y.body = some p.2.body := by
  unfold Claims.resolve Table.getD at hy
  cases ho : (ix.matched c spans).claims.owner.get? p.2.id with
  | some owner =>
    rw [ho, Option.getD_some] at hy
    obtain ⟨s, hs, rfl, a, ha, hid⟩ := Claims.exists_of_owner ho
    obtain ⟨file, hfile, -⟩ := SpanLookup.mem_atSite.1 (Claims.mem_atSite_of_mem_spansOf ha)
    have hknown : (ix.prefilter c {}).1.get? s.id = some s :=
      (h.keyed.retain _).get?_of_mem hs
    obtain rfl := Option.some.inj (hy.symm.trans (Index.get?_matchSpans_of_known hknown))
    rw [h.body_of_claimed ha, h.body_of_id hfile hp hid]
  | none =>
    rw [ho, Option.getD_none] at hy
    rcases of_get?_matchSpans hy with ⟨t, ht, -⟩ | ⟨file, a, ha, hid, rfl⟩
    · have hin := Index.contains_iff.2 ⟨t, Index.get?_of_retain ht⟩
      rw [h.not_contains hp] at hin
      cases hin
    · exact congrArg some (h.body_of_id ha hp hid)

/-! ## Candidates -/

theorem referenceContainer_eq_none (hx : (ix.matched c spans).index.get? id = some x) :
    (ix.parentContext c spans).referenceContainer x = none := by
  unfold ParentContext.referenceContainer
  rw [Option.map_eq_none_iff, List.findSome?_eq_none_iff]
  intro r hr
  obtain ⟨hr, hown⟩ := List.mem_filter.1 hr
  simp only [Bool.and_eq_true, Bool.or_eq_true, decide_eq_true_eq] at hown
  rcases of_get?_matchSpans hx with ⟨t, ht, rfl⟩ | ⟨file, a, -, -, rfl⟩
  · have hm : t ∈ ix.all := Index.mem_all.2 ⟨id, Index.get?_of_retain ht⟩
    rw [Symbol.takeBody_references] at hr
    rw [Symbol.takeBody_declaration, Symbol.takeBody_definition] at hown
    exact h.uncontained t hm r hr hown.1 hown.2
  · cases hr

/-- What surrounds a span at the symbol's site surrounds the symbol. -/
theorem liesIn_of_site (hx : (ix.matched c spans).index.get? id = some x) {p : String × Span}
    (hp : p ∈ located (.build spans)) (hsite : x.site = some (p.2.site p.1)) {outer : Range}
    (ho : outer.Surrounds p.2.body) : x.LiesIn spans outer := by
  unfold Symbol.LiesIn
  split
  · next b hb =>
    obtain ⟨q, hq, hsite', rfl⟩ := h.exists_of_body hx hb
    rwa [h.body_of_site hq hp (Option.some.inj (hsite'.symm.trans hsite))]
  · obtain ⟨a, ha, -, hbody, hs⟩ := SpanLookup.exists_filed hp
    refine .inr ⟨(p.1, a), ha, ?_, ?_⟩
    · rw [hs, hsite]
    · rwa [hbody]

theorem liesIn_of_bodyParent (hx : (ix.matched c spans).index.get? id = some x) {q : String}
    (hq : (ix.parentContext c spans).bodyParent x = some q) : ∃ p ∈ located (.build spans),
      q = (ix.matched c spans).claims.resolve p.2.id ∧ x.LiesIn spans p.2.body := by
  obtain ⟨parent, hparent, rfl⟩ := Option.map_eq_some_iff.1 hq
  split at hparent
  · next own hown =>
    obtain ⟨hid, file, hm⟩ := SpanLookup.mem_of_byId hown
    obtain ⟨b, hb, rfl, hin⟩ := SpanLookup.exists_parent_located hm hparent
    refine ⟨(file, b), hb, rfl, ?_⟩
    rcases of_get?_matchSpans hx with ⟨t, ht, rfl⟩ | ⟨f, a, ha, -, rfl⟩
    · have ht := Index.get?_of_retain ht
      have hknown := Index.contains_iff.2 ⟨t, ht⟩
      rw [← h.keyed.id_of_get? ht, ← Symbol.takeBody_id, ← hid, h.not_contains hm] at hknown
      cases hknown
    · rw [h.body_of_id hm ha hid] at hin
      exact h.liesIn_of_site hx ha rfl hin
  · obtain ⟨a, ha, hp⟩ := List.exists_of_findSome?_eq_some hparent
    obtain ⟨file, hm, hsite⟩ := SpanLookup.mem_atSite.1 ha
    obtain ⟨b, hb, rfl, hin⟩ := SpanLookup.exists_parent_located hm hp
    exact ⟨(file, b), hb, rfl, h.liesIn_of_site hx hm hsite hin⟩

/-- Everything that is tried as the parent of a symbol answers for a span around it. -/
theorem liesIn_of_candidate (hx : (ix.matched c spans).index.get? id = some x) {q : String}
    (hq : some q ∈ (ix.parentContext c spans).candidates x) : ∃ p ∈ located (.build spans),
      q = (ix.matched c spans).claims.resolve p.2.id ∧ x.LiesIn spans p.2.body := by
  simp only [ParentContext.candidates, List.mem_cons, List.not_mem_nil, or_false] at hq
  rcases hq with hq | hq | hq
  · rw [h.referenceContainer_eq_none hx] at hq
    cases hq
  · exact h.liesIn_of_bodyParent hx hq.symm
  · exact liesIn_of_nameContainer hq.symm

/-! ## Parents -/

theorem id_of_matched (hx : (ix.matched c spans).index.get? id = some x) : x.id = id := by
  rcases of_get?_matchSpans hx with ⟨t, ht, rfl⟩ | ⟨file, a, -, rfl, rfl⟩
  · exact (Symbol.takeBody_id ..).trans (h.keyed.id_of_get? (Index.get?_of_retain ht))
  · rfl

theorem selfFound_eq_false (hx : (ix.matched c spans).index.get? id = some x) :
    (ix.resolution c spans x).selfFound = false := by
  by_contra hself
  obtain ⟨p, hp, hid, hin⟩ :=
    h.liesIn_of_candidate hx (Resolution.mem_of_selfFound (Bool.not_eq_false _ ▸ hself))
  rw [← h.id_of_matched hx, hid] at hx
  rw [Symbol.LiesIn, h.body_of_resolve hp hx] at hin
  exact hin.2 rfl

theorem exists_of_link {a b : String} (hl : (ix.resolved c spans).ParentLink a b) :
    ∃ x y outer, (ix.matched c spans).index.get? a = some x ∧
      (ix.matched c spans).index.get? b = some y ∧ y.body = some outer ∧
      x.LiesIn spans outer := by
  obtain ⟨x, hx, hb⟩ := Index.resolution_of_parent? h.parentless hl
  obtain ⟨hcand, hknown⟩ := Resolution.mem_of_parent hb
  obtain ⟨y, hy⟩ := Index.contains_iff.1 hknown
  obtain ⟨p, hp, rfl, hin⟩ := h.liesIn_of_candidate hx hcand
  exact ⟨x, y, p.2.body, hx, hy, h.body_of_resolve hp hy, hin⟩

/-- Along a chain of parents bodies only grow. -/
theorem surrounds_of_ascends {a b : String} (hc : (ix.resolved c spans).Ascends a b) :
    ∃ y outer, (ix.matched c spans).index.get? b = some y ∧ y.body = some outer ∧
      ∀ x inner, (ix.matched c spans).index.get? a = some x → x.body = some inner →
        outer.Surrounds inner := by
  induction hc with
  | single hl =>
    obtain ⟨x, y, outer, hx, hy, hb, hin⟩ := h.exists_of_link hl
    refine ⟨y, outer, hy, hb, fun x' inner hx' hinner => ?_⟩
    obtain rfl := Option.some.inj (hx.symm.trans hx')
    rwa [Symbol.LiesIn, hinner] at hin
  | tail _ hl ih =>
    obtain ⟨y, mid, hy, hmid, hbelow⟩ := ih
    obtain ⟨y', z, outer, hy', hz, hb, hin⟩ := h.exists_of_link hl
    obtain rfl := Option.some.inj (hy.symm.trans hy')
    rw [Symbol.LiesIn, hmid] at hin
    exact ⟨z, outer, hz, hb, fun x inner hx hinner => hin.trans (hbelow x inner hx hinner)⟩

theorem not_onCycle (a : String) : ¬(ix.resolved c spans).OnCycle a := by
  intro hc
  obtain ⟨x, body, hx, hb, hself⟩ := h.surrounds_of_ascends hc
  exact (hself x body hx hb).2 rfl

theorem cycleCuts_eq_nil : (ix.resolved c spans).cycleCuts = [] :=
  List.eq_nil_iff_forall_not_mem.2 fun a ha =>
    h.not_onCycle a ((Index.cycleCuts_cutsCycles _).onCycle a ha)

end LexicalInput

/-- Where only nesting gives parents, a parent has a body and its child lies properly inside. No
symbol is found as its own parent and no cycle is cut. -/
theorem Index.reconcile_lexical {ix : Index} {spans : SpanTable} (h : LexicalInput ix spans)
    (c : Config) :
    let out := ix.reconcile c spans
    (∀ x ∈ out.index.all, ∀ p, x.parentId = some p →
      ∃ y body, out.index.get? p = some y ∧ y.body = some body ∧ x.LiesIn spans body) ∧
      out.report.cyclesBroken = 0 ∧ out.report.selfParents = 0 := by
  refine ⟨?parents, ?cycles, ?selves⟩
  case parents =>
    have hindex : (ix.reconcile c spans).index = ix.resolved c spans := by
      rw [reconcile_index, breakCycles, h.cycleCuts_eq_nil, List.foldl_nil]
    rw [hindex]
    intro x hx p hp
    obtain ⟨id, hid⟩ := mem_all.1 hx
    have hl : (ix.resolved c spans).ParentLink id p := by
      rw [ParentLink, parent?, hid, Option.bind_some, hp]
    obtain ⟨s, y, body, hs, hy, hb, hin⟩ := h.exists_of_link hl
    rw [get?_resolved, hs, Option.map_some] at hid
    cases hid
    have hout : (ix.resolved c spans).get? p =
        some ((y.adopt (ix.resolution c spans y)).moveAlias (ix.matched c spans).claims) := by
      rw [get?_resolved, hy, Option.map_some]
    exact ⟨_, body, hout, hb, hin⟩
  case cycles => rw [reconcile_cyclesBroken, h.cycleCuts_eq_nil, List.length_nil]
  case selves =>
    rw [reconcile_selfParents, List.countP_eq_zero]
    intro s hs
    obtain ⟨id, hid⟩ := mem_all.1 hs
    rw [h.selfFound_eq_false hid]
    exact Bool.false_ne_true

/-- A class and a method of it, as an index knows them. -/
def memberIndex : Index := .ofSymbols
  [{ id := "c", name := "C", kind := .classType, definition := some ⟨"f", .lines 1 1⟩ },
    { id := "m", name := "m", kind := .instanceMethod, definition := some ⟨"f", .lines 2 2⟩ }]

/-- The span of the class and the span of the method in it. -/
def memberSpans : SpanTable := .ofList
  [("f", .ofListKeepFirst
    [⟨"C", "Class", "cpp", .lines 1 1, .lines 1 9, "r", none⟩,
      ⟨"m", "Method", "cpp", .lines 2 2, .lines 2 4, "s", none⟩])]

/-- The class becomes the parent of its method and has a body. -/
theorem reconcile_member :
    LexicalInput memberIndex memberSpans ∧
      (memberIndex.reconcile {} memberSpans).index.parent? "m" = some "c" ∧
      ∃ y body, (memberIndex.reconcile {} memberSpans).index.get? "c" = some y ∧
        y.body = some body := by
  have h : LexicalInput memberIndex memberSpans :=
    ⟨by decide, by decide, by decide, by decide, by decide, by decide, by decide⟩
  have hp : (memberIndex.reconcile {} memberSpans).index.parent? "m" = some "c" := by cbv
  obtain ⟨x, hx, hxp⟩ := Option.bind_eq_some_iff.1 hp
  obtain ⟨y, body, hy, hb, -⟩ :=
    (Index.reconcile_lexical h {}).1 x (Index.mem_all.2 ⟨"m", hx⟩) "c" hxp
  exact ⟨h, hp, y, body, hy, hb⟩

end SymbolAtlas
