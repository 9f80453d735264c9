import SymbolAtlas.Proofs.Linker
import SymbolAtlas.Proofs.Merge.Agreement

/-!
# The order and the batches of documents

What documents link to depends on their order in nothing but which description of a symbol comes
last (`Index.ofDocuments_perm`). Batches that describe each symbol in one way only and hold the
references to what they describe may be linked apart and merged (`Index.merge_ofDocuments`).
-/

namespace SymbolAtlas

/-- A description is not lost in the symbol it describes. -/
theorem SymbolDoc.symbol_inj {d e : SymbolDoc} : d.symbol = e.symbol ↔ d = e := by
  refine ⟨fun h => ?_, fun h => h ▸ rfl⟩
  have hkind := congrArg (fun s : Symbol => s.kind.text) h
  simp only [symbol, SymbolKind.text_ofText] at hkind
  cases d
  cases e
  simp_all [symbol]

namespace Document

variable {docs docs' : List Document} {id : String}

/-- Descriptions of one symbol are the same. -/
def Consistent (docs : List Document) : Prop :=
  ∀ d ∈ docs.filterMap description?, ∀ e ∈ docs.filterMap description?, d.id = e.id → d = e

instance (docs : List Document) : Decidable (Consistent docs) :=
  inferInstanceAs (Decidable (∀ d ∈ _, _))

/-- References to a symbol that either batch describes are listed in a batch that describes it. -/
def SelfContained (a b : List Document) : Prop :=
  ∀ d ∈ (a ++ b).filterMap listing?, Described (a ++ b) d.id →
    (d ∈ a.filterMap listing? ∧ Described a d.id) ∨ (d ∈ b.filterMap listing? ∧ Described b d.id)

instance (a b : List Document) : Decidable (SelfContained a b) :=
  inferInstanceAs (Decidable (∀ d ∈ _, _))

theorem described_append :
    Described (docs ++ docs') id ↔ Described docs id ∨ Described docs' id := by
  simp only [Described, List.filterMap_append, List.mem_append, or_and_right, exists_or]

theorem latest?_append (docs docs' : List Document) (id : String) :
    latest? (docs ++ docs') id = (latest? docs' id).or (latest? docs id) := by
  simp only [latest?, List.filterMap_append, List.filter_append, List.getLast?_append]

theorem latest?_eq_none_iff : latest? docs id = none ↔ ¬Described docs id := by
  rw [← exists_latest?_iff, Option.eq_none_iff_forall_ne_some, not_exists]

theorem latest?_append_symbol (docs : List Document) (d : SymbolDoc) :
    latest? (docs ++ [.symbol d]) d.id = some d := by
  simp [latest?, description?]

theorem described_perm (h : docs.Perm docs') : Described docs id ↔ Described docs' id := by
  simp only [Described, (h.filterMap description?).mem_iff]

/-- Where descriptions agree, it does not matter which one comes last. -/
theorem Consistent.latest?_perm (hc : Consistent docs) (h : docs.Perm docs') (id : String) :
    latest? docs id = latest? docs' id := by
  cases hd : latest? docs id with
  | none =>
    rw [latest?_eq_none_iff, described_perm h] at hd
    rw [latest?_eq_none_iff.2 hd]
  | some d =>
    obtain ⟨hm, hid⟩ := of_latest? hd
    obtain ⟨e, he⟩ := exists_latest?_iff.2 ((described_perm h).1 ⟨d, hm, hid⟩)
    obtain ⟨hm', hid'⟩ := of_latest? he
    have hsame := hc d hm e ((h.filterMap _).mem_iff.2 hm') (hid.trans hid'.symm)
    rw [he, hsame]

/-- Any description can come last. -/
theorem exists_perm_latest? {d : SymbolDoc} (h : d ∈ docs.filterMap description?) :
    ∃ docs', docs.Perm docs' ∧ latest? docs' d.id = some d := by
  obtain ⟨doc, hm, hd⟩ := List.mem_filterMap.1 h
  obtain rfl : doc = .symbol d := by
    cases doc <;> simp_all [description?]
  exact ⟨docs.erase (.symbol d) ++ [.symbol d],
    (List.perm_cons_erase hm).trans (List.perm_append_singleton _ _).symm,
    latest?_append_symbol _ d⟩

end Document

/-! ## Indexes up to their lists -/

/-- The lists hold the same items. -/
def SameItems {α : Type} (l m : List α) : Prop := ∀ x, x ∈ l ↔ x ∈ m

namespace Index

open Document

variable {a b : Index} {p : Reference → Bool}

/-- The two have the same ids and the same format, and lists of references and pairs that are the
same up to `R`. -/
structure SharesLists (R : ∀ {α : Type}, List α → List α → Prop) (a b : Index) : Prop where
  ids : ∀ id, a.contains id = b.contains id
  references : OnShared (fun s t => R s.references t.references) a b
  hasContainers : a.hasContainers = b.hasContainers
  hasCallKind : a.hasCallKind = b.hasCallKind
  inheritance : R a.inheritance b.inheritance
  overrides : R a.overrides b.overrides

/-- The two are the same, but for lists that are the same up to `R`. -/
structure SameUpTo (R : ∀ {α : Type}, List α → List α → Prop) (a b : Index) : Prop
    extends SharesLists R a b where
  symbols : ∀ id, (a.get? id).map (·.withoutReferences) = (b.get? id).map (·.withoutReferences)
  callables : a.callables = b.callables

/-- The callables can be told without the references. -/
theorem WellFormed.callables_eq_of_symbols (ha : a.WellFormed) (hb : b.WellFormed)
    (h : ∀ id, (a.get? id).map (·.withoutReferences) = (b.get? id).map (·.withoutReferences)) :
    a.callables = b.callables := by
  refine ha.callables_eq hb fun id => ?_
  have hcall := congrArg (Option.map Symbol.isCallable) (h id)
  rwa [Option.map_map, Option.map_map] at hcall

theorem HasReference.mono (h : a.HasReference p) (hids : ∀ id, a.contains id = b.contains id)
    (hrefs : OnShared (fun s t => ∀ r ∈ s.references, r ∈ t.references) a b) :
    b.HasReference p := by
  obtain ⟨id, s, hs, r, hr, hp⟩ := h
  obtain ⟨t, ht⟩ := contains_iff.1 ((hids id).symm.trans (contains_iff.2 ⟨s, hs⟩))
  exact ⟨id, t, ht, r, hrefs id s t hs ht r hr, hp⟩

theorem hasReference_congr (hids : ∀ id, a.contains id = b.contains id)
    (hrefs : OnShared (fun s t => SameItems s.references t.references) a b) :
    a.HasReference p ↔ b.HasReference p :=
  ⟨fun h => h.mono hids fun id s t hs ht r => (hrefs id s t hs ht r).1,
    fun h => h.mono (fun id => (hids id).symm) fun id t s ht hs r => (hrefs id s t hs ht r).2⟩

theorem contains_merge (hb : b.Keyed) (a : Index) (id : String) :
    (a.merge b).contains id = (a.contains id || b.contains id) := by
  rw [Index.contains, Table.contains, ← get?, get?_merge hb, Option.isSome_merge]
  rfl

/-- A merged symbol has the references that it has in either index. -/
theorem mem_references_merge_iff (hb : b.Keyed) {id : String} {m : Symbol}
    (hm : (a.merge b).get? id = some m) (r : Reference) : r ∈ m.references ↔
      (∃ s, a.get? id = some s ∧ r ∈ s.references) ∨
        ∃ t, b.get? id = some t ∧ r ∈ t.references := by
  rw [get?_merge hb] at hm
  cases hs : a.get? id with
  | none =>
    rw [hs, Option.merge_none_left] at hm
    simp [hm]
  | some s =>
    cases ht : b.get? id with
    | none =>
      rw [hs, ht, Option.merge_none_right] at hm
      simp [Option.some.inj hm]
    | some t =>
      rw [hs, ht] at hm
      obtain rfl := Option.some.inj hm
      simp only [Option.some.injEq, exists_eq_left']
      exact mem_unite

/-- A merge has the references of both indexes. -/
theorem hasReference_merge (hb : b.Keyed) :
    (a.merge b).HasReference p ↔ a.HasReference p ∨ b.HasReference p := by
  refine ⟨?_, ?_⟩
  · rintro ⟨id, m, hm, r, hr, hp⟩
    rcases (mem_references_merge_iff hb hm r).1 hr with ⟨s, hs, hr⟩ | ⟨t, ht, hr⟩
    · exact .inl ⟨id, s, hs, r, hr, hp⟩
    · exact .inr ⟨id, t, ht, r, hr, hp⟩
  · have known : ∀ id, a.contains id = true ∨ b.contains id = true →
        ∃ m, (a.merge b).get? id = some m := fun id h =>
      contains_iff.1 ((contains_merge hb a id).trans (Bool.or_eq_true_iff.2 h))
    rintro (⟨id, s, hs, r, hr, hp⟩ | ⟨id, t, ht, r, hr, hp⟩)
    · obtain ⟨m, hm⟩ := known id (.inl (contains_iff.2 ⟨s, hs⟩))
      exact ⟨id, m, hm, r, (mem_references_merge_iff hb hm r).2 (.inl ⟨s, hs, hr⟩), hp⟩
    · obtain ⟨m, hm⟩ := known id (.inr (contains_iff.2 ⟨t, ht⟩))
      exact ⟨id, m, hm, r, (mem_references_merge_iff hb hm r).2 (.inr ⟨t, ht, hr⟩), hp⟩

/-- Besides its references, a linked symbol is what its last description says. -/
theorem withoutReferences_ofDocuments (docs : List Document) (id : String) :
    ((ofDocuments docs).get? id).map (·.withoutReferences) = (latest? docs id).map (·.symbol) := by
  rw [get?_ofDocuments, Option.map_map]
  rfl

/-! ## Order -/

section Order
variable {docs docs' : List Document} (h : docs.Perm docs')
include h

theorem sharesLists_of_perm : (ofDocuments docs).SharesLists List.Perm (ofDocuments docs') := by
  have hids : ∀ id, (ofDocuments docs).contains id = (ofDocuments docs').contains id := fun id => by
    rw [Bool.eq_iff_iff, contains_ofDocuments, contains_ofDocuments, described_perm h]
  have hrefs : OnShared (fun s t => s.references.Perm t.references) (ofDocuments docs)
      (ofDocuments docs') := fun id s t hs ht => by
    show s.references.Perm t.references
    rw [references_ofDocuments hs, references_ofDocuments ht]
    exact listed_perm h id
  have hformat : ∀ p, (ofDocuments docs).HasReference p ↔ (ofDocuments docs').HasReference p :=
    fun p => hasReference_congr hids fun id s t hs ht r => (hrefs id s t hs ht).mem_iff
  refine ⟨hids, hrefs, ?_, ?_, ?_, ?_⟩
  · rw [Bool.eq_iff_iff, (format_ofDocuments docs).1, (format_ofDocuments docs').1, hformat]
  · rw [Bool.eq_iff_iff, (format_ofDocuments docs).2, (format_ofDocuments docs').2, hformat]
  · rw [inheritance_ofDocuments, inheritance_ofDocuments]
    exact related_perm h _
  · rw [overrides_ofDocuments, overrides_ofDocuments]
    exact related_perm h _

/-- In two orders documents link to the same if the same descriptions come last. -/
theorem sameUpTo_perm_iff : (ofDocuments docs).SameUpTo List.Perm (ofDocuments docs') ↔
    ∀ id, latest? docs id = latest? docs' id := by
  have hsymbols : ∀ id, ((ofDocuments docs).get? id).map (·.withoutReferences) =
      ((ofDocuments docs').get? id).map (·.withoutReferences) ↔
        latest? docs id = latest? docs' id := fun id => by
    rw [withoutReferences_ofDocuments, withoutReferences_ofDocuments]
    exact (Option.map_injective fun d e => SymbolDoc.symbol_inj.1).eq_iff
  refine ⟨fun hsame id => (hsymbols id).1 (hsame.symbols id), fun hlast => ?_⟩
  have hfields := fun id => (hsymbols id).2 (hlast id)
  exact ⟨sharesLists_of_perm h, hfields,
    (wellFormed_ofDocuments docs).callables_eq_of_symbols (wellFormed_ofDocuments docs') hfields⟩

end Order

/-- In another order documents link to the same ids, references, format and pairs, and to the same
symbols exactly if the same description of each symbol comes last. Each description comes last in
some order, so no order matters if and only if no two descriptions of a symbol differ. -/
theorem ofDocuments_perm (docs : List Document) :
    (∀ docs', docs.Perm docs' → (ofDocuments docs).SharesLists List.Perm (ofDocuments docs') ∧
      ((ofDocuments docs).SameUpTo List.Perm (ofDocuments docs') ↔
        ∀ id, latest? docs id = latest? docs' id)) ∧
    ((∀ docs', docs.Perm docs' → (ofDocuments docs).SameUpTo List.Perm (ofDocuments docs')) ↔
      Consistent docs) := by
  refine ⟨fun docs' h => ⟨sharesLists_of_perm h, sameUpTo_perm_iff h⟩, ?_, ?_⟩
  · intro hall d hd e he hid
    obtain ⟨docs₁, h₁, hlast₁⟩ := exists_perm_latest? hd
    obtain ⟨docs₂, h₂, hlast₂⟩ := exists_perm_latest? he
    have hd' := (sameUpTo_perm_iff h₁).1 (hall docs₁ h₁) d.id
    have he' := (sameUpTo_perm_iff h₂).1 (hall docs₂ h₂) e.id
    rw [hlast₁] at hd'
    rw [← hid, hd', hid, hlast₂] at he'
    exact Option.some.inj he'
  · exact fun hc docs' h => (sameUpTo_perm_iff h).2 (hc.latest?_perm h)

/-- A function as a unit that sees the header only describes it. -/
def declaredDoc : SymbolDoc where
  id := "f"
  name := "f"
  scope := ""
  kind := "Function"
  language := "C"
  declaration := some ⟨"h", .lines 1 1⟩
  definition := none
  signature := ""
  returnType := ""
  typeName := ""

/-- The same function as the unit that defines it describes it. -/
def definedDoc : SymbolDoc := { declaredDoc with definition := some ⟨"c", .lines 5 5⟩ }

/-- A call of the function. -/
def callDoc : RefsDoc := ⟨"f", [⟨⟨20⟩, ⟨"c", .lines 9 9⟩, none⟩]⟩

/-- A mention of the function in another file. -/
def mentionDoc : RefsDoc := ⟨"f", [⟨⟨4⟩, ⟨"d", .lines 3 3⟩, none⟩]⟩

/-- One description and its uses link to the same either way round; the references come in the order
of the documents. -/
theorem ofDocuments_perm_uses :
    let docs : List Document := [.symbol definedDoc, .refs callDoc, .refs mentionDoc]
    (ofDocuments docs).SameUpTo List.Perm (ofDocuments docs.reverse) ∧
      ((ofDocuments docs).get? "f").map (·.references) =
        some (callDoc.references ++ mentionDoc.references) ∧
      ((ofDocuments docs.reverse).get? "f").map (·.references) =
        some (mentionDoc.references ++ callDoc.references) := by
  intro docs
  have hall := (ofDocuments_perm docs).2.2 (by decide)
  exact ⟨hall _ (List.reverse_perm docs).symm, by cbv, by cbv⟩

/-- The definition of a function is lost where the description without it comes last. -/
theorem ofDocuments_definition_lost :
    ([.symbol declaredDoc, .symbol definedDoc] : List Document).Perm
        [.symbol definedDoc, .symbol declaredDoc] ∧
      ((ofDocuments [.symbol declaredDoc, .symbol definedDoc]).get? "f").map (·.definition) =
        some definedDoc.definition ∧
      ((ofDocuments [.symbol definedDoc, .symbol declaredDoc]).get? "f").map (·.definition) =
        some none ∧
      ¬(ofDocuments [.symbol declaredDoc, .symbol definedDoc]).SameUpTo List.Perm
        (ofDocuments [.symbol definedDoc, .symbol declaredDoc]) := by
  refine ⟨.swap .., by cbv, by cbv, fun h => ?_⟩
  have hlast := congrArg (Option.map Symbol.definition) (h.symbols "f")
  exact absurd hlast (by decide)

/-! ## Batches -/

/-- Two symbols that differ in their references at most keep what they share when one absorbs the
other. -/
theorem withoutReferences_absorb {s t : Symbol} (h : s.withoutReferences = t.withoutReferences) :
    (s.absorb t).withoutReferences = s.withoutReferences := by
  have shared {α : Type} (f : Symbol → α) : f s.withoutReferences = f t.withoutReferences :=
    congrArg f h
  have hdefinition : s.definition = t.definition := shared Symbol.definition
  have hdeclaration : s.declaration = t.declaration := shared Symbol.declaration
  have hbody : s.body = t.body := shared Symbol.body
  have hparent : s.parentId = t.parentId := shared Symbol.parentId
  have halias : s.aliasedId = t.aliasedId := shared Symbol.aliasedId
  simp only [Symbol.withoutReferences, Symbol.absorb_eq, ← hdefinition, ← hdeclaration, ← hbody,
    ← hparent, ← halias, keepMin_self]

section Batches
variable {a b : List Document} (hc : Consistent (a ++ b)) (hs : SelfContained a b)

include hc in
/-- A symbol that both batches describe has one description. -/
theorem withoutReferences_eq_of_consistent {id : String} {s t : Symbol}
    (hs : (ofDocuments a).get? id = some s) (ht : (ofDocuments b).get? id = some t) :
    s.withoutReferences = t.withoutReferences := by
  have hfields := withoutReferences_ofDocuments a id
  have hfields' := withoutReferences_ofDocuments b id
  rw [hs, Option.map_some] at hfields
  rw [ht, Option.map_some] at hfields'
  obtain ⟨d, hd, hsd⟩ := Option.map_eq_some_iff.1 hfields.symm
  obtain ⟨e, he, hte⟩ := Option.map_eq_some_iff.1 hfields'.symm
  obtain ⟨hdm, hdid⟩ := of_latest? hd
  obtain ⟨hem, heid⟩ := of_latest? he
  have hsame : d = e := hc d (by simp [hdm]) e (by simp [hem]) (hdid.trans heid.symm)
  rw [← hsd, hsame, hte]

include hc in
theorem withoutReferences_merge_ofDocuments (id : String) :
    (((ofDocuments a).merge (ofDocuments b)).get? id).map (·.withoutReferences) =
      ((ofDocuments (a ++ b)).get? id).map (·.withoutReferences) := by
  rw [withoutReferences_ofDocuments, latest?_append, Option.map_or,
    ← withoutReferences_ofDocuments, ← withoutReferences_ofDocuments,
    get?_merge (wellFormed_ofDocuments b).toKeyed]
  cases hs : (ofDocuments a).get? id with
  | none => simp
  | some s =>
    cases ht : (ofDocuments b).get? id with
    | none => rfl
    | some t =>
      have hsame := withoutReferences_eq_of_consistent hc hs ht
      exact congrArg some ((withoutReferences_absorb hsame).trans hsame)

include hs in
/-- What is listed for a described symbol is listed in a batch that describes it. -/
theorem mem_listed_append {id : String} {r : Reference} (h : Described (a ++ b) id) :
    r ∈ listed (a ++ b) id ↔
      (Described a id ∧ r ∈ listed a id) ∨ (Described b id ∧ r ∈ listed b id) := by
  simp only [mem_listed]
  refine ⟨?_, ?_⟩
  · rintro ⟨d, hd, rfl, hr⟩
    exact (hs d hd h).imp (fun ⟨hm, hdesc⟩ => ⟨hdesc, d, hm, rfl, hr⟩)
      fun ⟨hm, hdesc⟩ => ⟨hdesc, d, hm, rfl, hr⟩
  · rintro (⟨-, d, hd, hid, hr⟩ | ⟨-, d, hd, hid, hr⟩)
    · exact ⟨d, by simp [hd], hid, hr⟩
    · exact ⟨d, by simp [hd], hid, hr⟩

theorem mem_references_ofDocuments {docs : List Document} {id : String} {r : Reference} :
    (∃ s, (ofDocuments docs).get? id = some s ∧ r ∈ s.references) ↔
      Described docs id ∧ r ∈ listed docs id := by
  rw [← contains_ofDocuments, contains_iff]
  refine ⟨?_, ?_⟩
  · rintro ⟨s, hs, hr⟩
    exact ⟨⟨s, hs⟩, references_ofDocuments hs ▸ hr⟩
  · rintro ⟨⟨s, hs⟩, hr⟩
    exact ⟨s, hs, (references_ofDocuments hs).symm ▸ hr⟩

include hs in
theorem sharesLists_merge_ofDocuments :
    ((ofDocuments a).merge (ofDocuments b)).SharesLists SameItems (ofDocuments (a ++ b)) := by
  have hb := (wellFormed_ofDocuments b).toKeyed
  have hids : ∀ id, ((ofDocuments a).merge (ofDocuments b)).contains id =
      (ofDocuments (a ++ b)).contains id := fun id => by
    rw [contains_merge hb, Bool.eq_iff_iff, Bool.or_eq_true, contains_ofDocuments,
      contains_ofDocuments, contains_ofDocuments, described_append]
  have hrefs : OnShared (fun s t => SameItems s.references t.references)
      ((ofDocuments a).merge (ofDocuments b)) (ofDocuments (a ++ b)) := fun id m t hm ht r => by
    have hdesc := contains_ofDocuments.1 (contains_iff.2 ⟨t, ht⟩)
    rw [mem_references_merge_iff hb hm, mem_references_ofDocuments, mem_references_ofDocuments,
      references_ofDocuments ht, mem_listed_append hs hdesc]
  have hformat : ∀ p, (ofDocuments a).HasReference p ∨ (ofDocuments b).HasReference p ↔
      (ofDocuments (a ++ b)).HasReference p := fun p =>
    (hasReference_merge hb).symm.trans (hasReference_congr hids hrefs)
  refine ⟨hids, hrefs, ?_, ?_, ?_, ?_⟩
  · rw [Bool.eq_iff_iff, (format_ofDocuments (a ++ b)).1, ← hformat, ← (format_ofDocuments a).1,
      ← (format_ofDocuments b).1]
    exact Bool.or_eq_true_iff
  · rw [Bool.eq_iff_iff, (format_ofDocuments (a ++ b)).2, ← hformat, ← (format_ofDocuments a).2,
      ← (format_ofDocuments b).2]
    exact Bool.or_eq_true_iff
  · intro r
    rw [inheritance_ofDocuments, related_append, ← inheritance_ofDocuments,
      ← inheritance_ofDocuments, List.mem_append]
    exact mem_mergeRelations
  · intro r
    rw [overrides_ofDocuments, related_append, ← overrides_ofDocuments, ← overrides_ofDocuments,
      List.mem_append]
    exact mem_mergeRelations

include hc hs in
/-- Batches that describe each symbol in one way, and list the references to what they describe
themselves, may be linked apart: the merge is what they link to together, but for the order and the
repetitions of references and pairs. -/
theorem merge_ofDocuments : ((ofDocuments a).merge (ofDocuments b)).SameUpTo SameItems
    (ofDocuments (a ++ b)) where
  toSharesLists := sharesLists_merge_ofDocuments hs
  symbols := withoutReferences_merge_ofDocuments hc
  callables := ((wellFormed_ofDocuments a).merge (wellFormed_ofDocuments b)).callables_eq_of_symbols
    (wellFormed_ofDocuments _) (withoutReferences_merge_ofDocuments hc)

end Batches

/-- Two units that describe a function alike, with uses of it in both and of something unknown in
one. -/
theorem merge_ofDocuments_uses :
    let a : List Document := [.symbol definedDoc, .refs callDoc, .refs ⟨"g", callDoc.references⟩]
    let b : List Document := [.refs callDoc, .refs mentionDoc, .symbol definedDoc]
    Consistent (a ++ b) ∧ SelfContained a b ∧
      ((ofDocuments a).merge (ofDocuments b)).SameUpTo SameItems (ofDocuments (a ++ b)) ∧
      (((ofDocuments a).merge (ofDocuments b)).get? "f").map (·.references.length) = some 2 ∧
      ((ofDocuments (a ++ b)).get? "f").map (·.references.length) = some 3 := by
  intro a b
  have hc : Consistent (a ++ b) := by decide
  have hs : SelfContained a b := by decide
  exact ⟨hc, hs, merge_ofDocuments hc hs, by cbv, by cbv⟩

end Index

end SymbolAtlas
