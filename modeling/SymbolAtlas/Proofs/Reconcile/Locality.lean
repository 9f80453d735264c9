import Mathlib
import SymbolAtlas.Proofs.Parents.Comparison
import SymbolAtlas.Proofs.Reconcile.Answers

/-!
# Files do not interfere

Where an index brings no parents and no containers and span ids are told apart, a symbol and its
parent lie in one file (`LocalInput.file_of_link`). Two tables with the same spans of a file
(`SharedFile`) lead to the same symbols there (`SharedFile.get?_matched`), which find the same
parents (`SharedFile.resolution`), so the same links of the file are cut. What is in the file
afterwards differs in alias targets alone (`Index.reconcile_inFile`): these may be spans of other
files.
-/

namespace SymbolAtlas

open SpanLookup (located)

/-- The symbol without its alias target. -/
def Symbol.unaliased (s : Symbol) : Symbol := { s with aliasedId := none }

/-- The symbols whose primary location is in a file. -/
def Index.inFile (ix : Index) (file : String) : Index := ix.retain fun s => s.file = some file

/-- The id is that of a symbol in a file. -/
def Index.FiledIn (ix : Index) (file id : String) : Prop :=
  ∃ s, ix.get? id = some s ∧ s.file = some file

theorem Index.get?_inFile {ix : Index} {file id : String} {s : Symbol} (hs : ix.get? id = some s)
    (hf : s.file = some file) : (ix.inFile file).get? id = some s := by
  rw [inFile, get?_retain, hs]
  exact Option.filter_some_pos (decide_eq_true hf)

theorem Symbol.exists_site {s : Symbol} {file : String} (h : s.file = some file) :
    ∃ site, s.site = some site ∧ site.file = file := by
  obtain ⟨l, hl, rfl⟩ := Option.map_eq_some_iff.1 h
  exact ⟨⟨s.name, l.file, l.start⟩, by rw [site, hl, Option.map_some], rfl⟩

/-- The outcome of a search depends on which candidates are known. -/
theorem Resolution.settle_congr {known known' : String → Bool} {self : String}
    {cs : List (Option String)} (h : ∀ q, some q ∈ cs → known q = known' q) :
    settle known self cs = settle known' self cs := by
  induction cs with
  | nil => rfl
  | cons o cs ih =>
    have hcs := ih fun q hq => h q (List.mem_cons_of_mem _ hq)
    cases o with
    | none => exact hcs
    | some d =>
      unfold settle
      rw [h d (List.mem_cons_self ..), hcs]

/-- An index of symbols under their ids, without parents and containers, and spans whose ids are
told apart by file and from those of the index. -/
structure LocalInput (ix : Index) (spans : SpanTable) : Prop where
  keyed : ix.Keyed
  parentless : ∀ s ∈ ix.all, s.parentId = none
  uncontained : ix.Uncontained
  oneFile : spans.OneFile
  fresh : ∀ p ∈ spans.filed, ix.contains p.2.id = false

open Index

/-! ## Links stay in a file -/

namespace LocalInput

variable {c : Config} {ix : Index} {spans : SpanTable} {file id q : String} {s x : Symbol} {a : Span}
  (h : LocalInput ix spans)
include h

theorem not_kept (ha : (file, a) ∈ located (.build spans)) :
    (ix.prefilter c {}).1.contains a.id = false := by
  obtain ⟨b, hb, hid, -⟩ := SpanLookup.exists_filed ha
  exact hid ▸ not_contains_kept (h.fresh _ hb)

theorem get?_byId_of_kept (hid : (ix.prefilter c {}).1.contains id = true) :
    (SpanLookup.ofForest (.build spans)).byId.get? id = none := by
  cases hget : (SpanLookup.ofForest (.build spans)).byId.get? id with
  | none => rfl
  | some a =>
    obtain ⟨rfl, file, ha⟩ := SpanLookup.mem_of_byId hget
    rw [h.not_kept ha] at hid
    cases hid

/-- A symbol with the id of a span is in the file of the span. -/
theorem file_of_id (ha : (file, a) ∈ located (.build spans))
    (hs : (ix.matched c spans).index.get? a.id = some s) : s.file = some file := by
  rcases of_get?_matched h.oneFile h.fresh hs with ⟨t, ht, -⟩ | ⟨-, p, hp, -, hid, rfl⟩
  · have hin := contains_iff.2 ⟨t, ht⟩
    rw [h.not_kept ha] at hin
    cases hin
  · obtain ⟨b, hb, hba, -⟩ := SpanLookup.exists_filed ha
    exact congrArg some (h.oneFile p hp (file, b) hb (hid.trans hba.symm))

/-- What stands for a span is in the file of the span. -/
theorem file_of_resolve (ha : (file, a) ∈ located (.build spans))
    (hs : (ix.matched c spans).index.get? ((ix.matched c spans).claims.resolve a.id) = some s) :
    s.file = some file := by
  have hkept : (ix.prefilter c {}).1.Keyed := h.keyed.retain _
  rw [resolve_located h.oneFile ha] at hs
  cases hlead : (ix.prefilter c {}).1.leader? (a.site file) with
  | none =>
    rw [hlead] at hs
    exact h.file_of_id ha hs
  | some y =>
    obtain ⟨t, ht, hsite, -⟩ := (leader?_eq_some_iff hkept).1 hlead
    rw [hlead, Option.getD_some, get?_matched_of_kept spans ht] at hs
    obtain rfl := Option.some.inj hs
    exact Symbol.file_of_site ((Symbol.takeBody_site ..).trans hsite)

theorem file_of_near (hs : (ix.matched c spans).index.get? id = some s)
    (hnear : s.IsNear spans file) : s.file = some file := by
  rcases hnear with hf | ⟨a, ha, hid⟩
  · exact hf
  · rw [← (h.keyed.matched c spans).id_of_get? hs, ← hid] at hs
    exact h.file_of_id ha hs

/-- Every candidate stands for a span in the file of the symbol. -/
theorem exists_of_candidate (hs : (ix.matched c spans).index.get? id = some s)
    (hq : some q ∈ (ix.parentContext c spans).candidates s) :
    ∃ file a, s.file = some file ∧ (file, a) ∈ located (.build spans) ∧
      q = (ix.matched c spans).claims.resolve a.id := by
  obtain ⟨file, a, ha, hqa, hnear⟩ :=
    Index.exists_of_candidate (referenceContainer_of_uncontained h.uncontained hs) hq
  exact ⟨file, a, h.file_of_near hs hnear, ha, hqa⟩

/-- A symbol and its parent are in one file. -/
theorem file_of_link {a b : String} (hl : (ix.resolved c spans).ParentLink a b) :
    (ix.matched c spans).index.FiledIn file a ↔ (ix.matched c spans).index.FiledIn file b := by
  obtain ⟨s, hs, hp⟩ := resolution_of_parent? h.parentless hl
  obtain ⟨hcand, hknown⟩ := Resolution.mem_of_parent hp
  obtain ⟨y, hy⟩ := contains_iff.1 hknown
  obtain ⟨file', p, hfile, hm, rfl⟩ := h.exists_of_candidate hs hcand
  have hyfile := h.file_of_resolve hm hy
  simp only [FiledIn, hs, hy, Option.some.injEq, exists_eq_left', hfile, hyfile]

end LocalInput

/-! ## Two tables -/

/-- What a result has in a file was there after matching. -/
theorem get?_inFile_of_not {c : Config} {ix : Index} {spans : SpanTable} {file id : String}
    (h : ¬(ix.matched c spans).index.FiledIn file id) :
    ((ix.reconcile c spans).index.inFile file).get? id = none := by
  cases hx : ((ix.reconcile c spans).index.inFile file).get? id with
  | none => rfl
  | some x =>
    obtain ⟨hout, hkeep⟩ := Option.filter_eq_some_iff.1 ((get?_retain ..).symm.trans hx)
    rw [get?_reconcile] at hout
    obtain ⟨s, hs, rfl⟩ := Option.map_eq_some_iff.1 hout
    exact absurd ⟨s, hs, of_decide_eq_true hkeep⟩ h

/-- Two tables with the same spans of a file. -/
structure SharedFile (file : String) (ix : Index) (spans spans' : SpanTable) : Prop where
  left : LocalInput ix spans
  right : LocalInput ix spans'
  same : spans.getD file ∅ = spans'.getD file ∅

namespace SharedFile

variable {c : Config} {ix : Index} {spans spans' : SpanTable} {file id y : String} {s : Symbol}
  {a : Span} (h : SharedFile file ix spans spans')
include h

theorem symm : SharedFile file ix spans' spans := ⟨h.right, h.left, h.same.symm⟩

/-! ### Spans of the file -/

theorem trees : (SpanForest.build spans).getD file [] = (SpanForest.build spans').getD file [] := by
  rw [SpanLookup.getD_build, SpanLookup.getD_build, h.same]

theorem located_of (ha : (file, a) ∈ located (.build spans)) :
    (file, a) ∈ located (.build spans') := by
  rwa [SpanLookup.mem_located_iff, ← h.trees, ← SpanLookup.mem_located_iff]

theorem filed_of (ha : (file, a) ∈ spans.filed) : (file, a) ∈ spans'.filed := by
  rwa [SpanTable.mem_filed_iff, ← h.same, ← SpanTable.mem_filed_iff]

theorem variants {site : NameSite} (hsite : site.file = file) :
    (SpanLookup.ofForest (.build spans)).variants.getD site [] =
      (SpanLookup.ofForest (.build spans')).variants.getD site [] := by
  subst hsite
  rw [SpanLookup.getD_variants_eq, SpanLookup.getD_variants_eq, h.trees]

/-- A span of the file stands for the same symbol. -/
theorem resolve (ha : (file, a) ∈ located (.build spans)) :
    (ix.matched c spans).claims.resolve a.id = (ix.matched c spans').claims.resolve a.id := by
  rw [resolve_located h.left.oneFile ha, resolve_located h.right.oneFile (h.located_of ha)]

theorem isOwn_of (ha : (file, a) ∈ located (.build spans))
    (hown : (ix.matched c spans).claims.isOwn y a.id = true) :
    (ix.matched c spans').claims.isOwn y a.id = true := by
  rw [isOwn_matched] at *
  refine hown.imp_right ?_
  rintro ⟨p, hp, hid, hlead⟩
  obtain ⟨b, hb, hba, -⟩ := SpanLookup.exists_filed ha
  obtain rfl : p.1 = file := h.left.oneFile p hp (file, b) hb (hid.trans hba.symm)
  exact ⟨p, h.filed_of hp, hid, hlead⟩

theorem isOwn (ha : (file, a) ∈ located (.build spans)) :
    (ix.matched c spans).claims.isOwn y a.id = (ix.matched c spans').claims.isOwn y a.id :=
  Bool.eq_iff_iff.2 ⟨h.isOwn_of ha, h.symm.isOwn_of (h.located_of ha)⟩

/-! ### Symbols of the file -/

/-- The symbols of the file are the same after matching. -/
theorem get?_matched (hs : (ix.matched c spans).index.get? id = some s)
    (hfile : s.file = some file) : (ix.matched c spans').index.get? id = some s := by
  rcases of_get?_matched h.left.oneFile h.left.fresh hs with
    ⟨t, ht, rfl⟩ | ⟨hc, p, hp, hnone, rfl, rfl⟩
  · obtain ⟨site, hsite, hsf⟩ := Symbol.exists_site hfile
    rw [Symbol.takeBody_site] at hsite
    rw [get?_matched_of_kept spans' ht, claimedBy_eq hsite, claimedBy_eq hsite, h.variants hsf]
  · obtain rfl : p.1 = file := Option.some.inj hfile
    exact exists_of_unmatched h.right.oneFile hc (h.filed_of hp) hnone
      (not_contains_kept (h.left.fresh p hp))

theorem filedIn_iff :
    (ix.matched c spans).index.FiledIn file id ↔ (ix.matched c spans').index.FiledIn file id :=
  ⟨fun ⟨_, hs, hf⟩ => ⟨_, h.get?_matched hs hf, hf⟩,
    fun ⟨_, hs, hf⟩ => ⟨_, h.symm.get?_matched hs hf, hf⟩⟩

/-! ### Parents in the file -/

theorem get?_byId (hs : (ix.matched c spans).index.get? id = some s)
    (hfile : s.file = some file) : (SpanLookup.ofForest (.build spans)).byId.get? s.id =
      (SpanLookup.ofForest (.build spans')).byId.get? s.id := by
  rcases of_get?_matched h.left.oneFile h.left.fresh hs with ⟨t, ht, rfl⟩ | ⟨-, p, hp, -, -, rfl⟩
  · have hkept : (ix.prefilter c {}).1.Keyed := h.left.keyed.retain _
    have hin : (ix.prefilter c {}).1.contains t.id = true :=
      contains_iff.2 ⟨t, (hkept.id_of_get? ht).symm ▸ ht⟩
    rw [Symbol.takeBody_id, h.left.get?_byId_of_kept hin, h.right.get?_byId_of_kept hin]
  · obtain rfl : p.1 = file := Option.some.inj hfile
    obtain ⟨a, ha, hid, -⟩ := SpanLookup.exists_located hp
    have hsid : (p.2.symbol p.1).id = a.id := hid.symm
    rw [hsid, h.left.oneFile.get?_byId ha, h.right.oneFile.get?_byId (h.located_of ha)]

theorem spanParent (hs : (ix.matched c spans).index.get? id = some s)
    (hfile : s.file = some file) : (SpanLookup.ofForest (.build spans)).spanParent s =
      (SpanLookup.ofForest (.build spans')).spanParent s := by
  obtain ⟨site, hsite, hsf⟩ := Symbol.exists_site hfile
  unfold SpanLookup.spanParent SpanLookup.atSite
  rw [h.get?_byId hs hfile, hsite]
  simp only [h.variants hsf]

/-- The symbols of the file have the same candidates. -/
theorem candidates (hs : (ix.matched c spans).index.get? id = some s)
    (hfile : s.file = some file) : (ix.parentContext c spans).candidates s =
      (ix.parentContext c spans').candidates s := by
  have hs' := h.get?_matched hs hfile
  have hbody : (ix.parentContext c spans).bodyParent s =
      (ix.parentContext c spans').bodyParent s := by
    rw [ParentContext.bodyParent_eq, ParentContext.bodyParent_eq, parentContext_lookup,
      parentContext_lookup, ← h.spanParent hs hfile]
    refine Option.map_congr fun q hq => ?_
    obtain ⟨f, a, ha, rfl, hnear⟩ := exists_of_spanParent hq
    obtain rfl := Option.some.inj (hfile.symm.trans (h.left.file_of_near hs hnear))
    exact h.resolve ha
  have hname : (ix.parentContext c spans).nameContainer s =
      (ix.parentContext c spans').nameContainer s := by
    obtain ⟨l, hl, rfl⟩ := Option.map_eq_some_iff.1 hfile
    have hcontainer : FileForest.innermostWhere ((SpanForest.build spans).getD l.file [])
        (.bareName l.file s.name s.language l.range)
        (fun a => !(ix.matched c spans).claims.isOwn s.id a.id) =
          FileForest.innermostWhere ((SpanForest.build spans').getD l.file [])
            (.bareName l.file s.name s.language l.range)
            fun a => !(ix.matched c spans').claims.isOwn s.id a.id := by
      rw [← h.trees]
      refine FileForest.innermostWhere_congr (fun a ha => ?_) _
      rw [h.isOwn (SpanLookup.mem_located_iff.2 ha)]
    rw [ParentContext.nameContainer_eq, ParentContext.nameContainer_eq, hl, Option.bind_some,
      Option.bind_some, parentContext_lookup, parentContext_lookup]
    split
    · rfl
    · refine (congrArg _ hcontainer).trans (Option.map_congr fun a ha => ?_)
      have hm := (FileForest.innermostWhere_sound ha).1
      exact h.resolve (h.symm.located_of (SpanLookup.mem_located_iff.2 hm))
  rw [ParentContext.candidates, ParentContext.candidates, hbody, hname,
    referenceContainer_of_uncontained h.left.uncontained hs,
    referenceContainer_of_uncontained h.right.uncontained hs']

theorem known_of (hs : (ix.matched c spans).index.get? id = some s) (hfile : s.file = some file)
    (hy : some y ∈ (ix.parentContext c spans).candidates s)
    (hknown : (ix.matched c spans).index.contains y = true) :
    (ix.matched c spans').index.contains y = true := by
  obtain ⟨x, hx⟩ := contains_iff.1 hknown
  obtain ⟨f, a, hf, ha, rfl⟩ := h.left.exists_of_candidate hs hy
  obtain rfl := Option.some.inj (hfile.symm.trans hf)
  exact contains_iff.2 ⟨x, h.get?_matched hx (h.left.file_of_resolve ha hx)⟩

/-- The symbols of the file find the same parents. -/
theorem resolution (hs : (ix.matched c spans).index.get? id = some s)
    (hfile : s.file = some file) : ix.resolution c spans s = ix.resolution c spans' s := by
  have hs' := h.get?_matched hs hfile
  have hcandidates := h.candidates hs hfile
  unfold Index.resolution Resolution.of
  rw [← hcandidates]
  refine Resolution.settle_congr fun q hq => Bool.eq_iff_iff.2 ⟨h.known_of hs hfile hq, ?_⟩
  exact h.symm.known_of hs' hfile (hcandidates ▸ hq)

/-- Before cycles are broken the symbols of the file have the same parents, in the file. -/
theorem agreeOn (c : Config) : AgreeOn ((ix.matched c spans).index.FiledIn file)
    (ix.resolved c spans) (ix.resolved c spans') where
  parent id hid := by
    obtain ⟨s, hs, hf⟩ := hid
    rw [parent?, parent?, get?_resolved, get?_resolved, hs, h.get?_matched hs hf]
    simp only [Option.map_some, Option.bind_some, Symbol.moveAlias, Symbol.adopt,
      h.resolution hs hf]
  closed a b hl := h.left.file_of_link hl
  closed' a b hl := by
    rw [h.filedIn_iff, h.filedIn_iff]
    exact h.right.file_of_link hl

/-- The symbols of the file have the same parents. -/
theorem parent?_reconcile (hid : (ix.matched c spans).index.FiledIn file id) :
    (ix.reconcile c spans).index.parent? id = (ix.reconcile c spans').index.parent? id := by
  classical
  refine (h.agreeOn c).parent?_breakCycles (Ascending.eq_of_mem_iff ?left ?right fun a => ?same) hid
  case left => exact (ascending_ids _).filter _
  case right => exact (ascending_ids _).filter _
  case same =>
    simp only [List.mem_filter, decide_eq_true_eq, and_congr_left_iff]
    rintro ⟨s, hs, hf⟩
    have hleft : (ix.matched c spans).index.contains a = true := contains_iff.2 ⟨s, hs⟩
    have hright : (ix.matched c spans').index.contains a = true :=
      contains_iff.2 ⟨s, h.get?_matched hs hf⟩
    rw [ids, ids, Table.mem_keys, Table.mem_keys]
    exact iff_of_true ((contains_resolved ..).trans hleft) ((contains_resolved ..).trans hright)

/-- Under one id the results have the same symbol of the file, up to its alias target. -/
theorem get?_inFile (c : Config) (id : String) :
    (((ix.reconcile c spans).index.inFile file).get? id).map Symbol.unaliased =
      (((ix.reconcile c spans').index.inFile file).get? id).map Symbol.unaliased := by
  by_cases hid : (ix.matched c spans).index.FiledIn file id
  · have hparent := h.parent?_reconcile hid
    obtain ⟨s, hs, hf⟩ := hid
    obtain ⟨parent, hout⟩ := exists_of_get?_matched hs
    obtain ⟨parent', hout'⟩ := exists_of_get?_matched (h.get?_matched hs hf)
    rw [parent?, parent?, hout, hout'] at hparent
    obtain rfl : parent = parent' := hparent
    rw [Index.get?_inFile hout hf, Index.get?_inFile hout' hf]
    simp only [Option.map_some, Symbol.unaliased]
  · rw [get?_inFile_of_not hid, get?_inFile_of_not (h.filedIn_iff.not.1 hid)]

/-- Which of them count as callables is the same: a kept symbol counts as it did, and a span by its
kind. -/
theorem isCallable_inFile (c : Config) (id : String) :
    ((ix.reconcile c spans).index.inFile file).isCallable id =
      ((ix.reconcile c spans').index.inFile file).isCallable id := by
  have hcall : ∀ spans : SpanTable, ((ix.reconcile c spans).index.inFile file).isCallable id =
      ((((ix.reconcile c spans).index.inFile file).get? id).map Symbol.unaliased).any fun s =>
        if (ix.prefilter c {}).1.contains id then ix.isCallable id else s.isCallable := by
    intro spans
    have hretain : ((ix.reconcile c spans).index.inFile file).isCallable id =
        ((ix.reconcile c spans).index.isCallable id &&
          ((ix.reconcile c spans).index.inFile file).contains id) :=
      isCallable_retain ..
    rw [hretain, isCallable_reconcile]
    cases hs : ((ix.reconcile c spans).index.inFile file).get? id with
    | none =>
      have hout : ((ix.reconcile c spans).index.inFile file).contains id = false :=
        congrArg Option.isSome hs
      rw [hout, Bool.and_false]
      rfl
    | some s =>
      rw [contains_iff.2 ⟨s, hs⟩, get?_of_retain hs, Bool.and_true]
      rfl
  rw [hcall spans, hcall spans', h.get?_inFile c id]

end SharedFile

/-- Where an index brings no parents and no containers and span ids are told apart by file and from
those of the index, two tables with the same spans of a file lead to the same symbols there, with
the same bodies and parents. Only their alias targets may differ, since these may be spans of other
files. -/
theorem Index.reconcile_inFile {ix : Index} {spans spans' : SpanTable} {file : String} (c : Config)
    (hk : ix.Keyed) (hn : ∀ s ∈ ix.all, s.parentId = none) (hu : ix.Uncontained)
    (hone : spans.OneFile) (hone' : spans'.OneFile)
    (hfresh : ∀ p ∈ spans.filed, ix.contains p.2.id = false)
    (hfresh' : ∀ p ∈ spans'.filed, ix.contains p.2.id = false)
    (hsame : spans.getD file ∅ = spans'.getD file ∅) :
    ((ix.reconcile c spans).index.inFile file).mapSymbols Symbol.unaliased =
      ((ix.reconcile c spans').index.inFile file).mapSymbols Symbol.unaliased := by
  have h : SharedFile file ix spans spans' :=
    ⟨⟨hk, hn, hu, hone, hfresh⟩, ⟨hk, hn, hu, hone', hfresh'⟩, hsame⟩
  have hrest : ∀ jx : Index,
      ((jx.inFile file).mapSymbols Symbol.unaliased).withoutSymbols = jx.withoutSymbols :=
    fun _ => rfl
  refine ext_isCallable (fun id => ?symbol) (fun id => h.isCallable_inFile c id) ?rest
  case symbol =>
    rw [get?_mapSymbols, get?_mapSymbols]
    exact h.get?_inFile c id
  case rest => rw [hrest, hrest, withoutSymbols_reconcile, withoutSymbols_reconcile]

/-- A class in one file and a variable in another. -/
def neighbourIndex : Index := .ofSymbols
  [{ id := "c", name := "C", kind := .classType, definition := some ⟨"f", .lines 1 1⟩ },
    { id := "v", name := "v", kind := .var, definition := some ⟨"g", .lines 3 3⟩ }]

/-- The class and a method that the index does not know. -/
def neighbourSpans : SpanTable := .ofList
  [("f", .ofListKeepFirst
    [⟨"C", "CLASS_DECL", "Cpp", .lines 1 1, .lines 1 9, "r", none⟩,
      ⟨"m", "CXX_METHOD", "Cpp", .lines 2 2, .lines 2 4, "s", none⟩])]

/-- The same spans, and a function around the variable in the other file. -/
def neighbourSpans' : SpanTable := neighbourSpans.insert "g"
  (.ofListKeepFirst [⟨"w", "FUNCTION_DECL", "Cpp", .lines 1 1, .lines 1 9, "t", none⟩])

/-- The class is the parent of its method, whatever is parsed in the other file. -/
theorem reconcile_neighbours :
    neighbourIndex.WellFormed ∧ (∀ s ∈ neighbourIndex.all, s.parentId = none) ∧
      neighbourIndex.Uncontained ∧ neighbourSpans.OneFile ∧ neighbourSpans'.OneFile ∧
      (∀ p ∈ neighbourSpans.filed, neighbourIndex.contains p.2.id = false) ∧
      (∀ p ∈ neighbourSpans'.filed, neighbourIndex.contains p.2.id = false) ∧
      neighbourSpans.getD "f" ∅ = neighbourSpans'.getD "f" ∅ ∧
      (((neighbourIndex.reconcile {} neighbourSpans').index.inFile "f").mapSymbols
        Symbol.unaliased).parent? "s" = some "c" := by
  have hw : neighbourIndex.WellFormed := .ofSymbols _
  have hn : ∀ s ∈ neighbourIndex.all, s.parentId = none := by decide
  have hu : neighbourIndex.Uncontained := by decide
  have hone : neighbourSpans.OneFile := by decide
  have hone' : neighbourSpans'.OneFile := by decide
  have hfresh : ∀ p ∈ neighbourSpans.filed, neighbourIndex.contains p.2.id = false := by decide
  have hfresh' : ∀ p ∈ neighbourSpans'.filed, neighbourIndex.contains p.2.id = false := by decide
  have hsame : neighbourSpans.getD "f" ∅ = neighbourSpans'.getD "f" ∅ := by decide
  have hparent : (((neighbourIndex.reconcile {} neighbourSpans).index.inFile "f").mapSymbols
      Symbol.unaliased).parent? "s" = some "c" := by cbv
  rw [Index.reconcile_inFile {} hw.toKeyed hn hu hone hone' hfresh hfresh' hsame] at hparent
  exact ⟨hw, hn, hu, hone, hone', hfresh, hfresh', hsame, hparent⟩

end SymbolAtlas
