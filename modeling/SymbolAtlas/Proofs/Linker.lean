import Mathlib.Data.List.Basic
import SymbolAtlas.Linker
import SymbolAtlas.Proofs.Index

/-!
# What documents link to

Under each described id a linked index holds the last description, with the references that were
listed for the id in the order they came in (`Index.get?_ofDocuments`). Its format is what these
references carry (`Index.format_ofDocuments`): what was listed for an id that nothing describes does
not count.
-/

namespace SymbolAtlas

/-! ## What documents say -/

namespace Document

def description? : Document → Option SymbolDoc
  | symbol d => some d
  | refs _ | relation _ => none

def listing? : Document → Option RefsDoc
  | refs d => some d
  | symbol _ | relation _ => none

def relation? : Document → Option RelationDoc
  | relation d => some d
  | symbol _ | refs _ => none

/-- Some document describes the symbol. -/
def Described (docs : List Document) (id : String) : Prop :=
  ∃ d ∈ docs.filterMap description?, d.id = id

instance (docs : List Document) (id : String) : Decidable (Described docs id) :=
  inferInstanceAs (Decidable (∃ d ∈ _, _))

/-- The last description of a symbol. -/
def latest? (docs : List Document) (id : String) : Option SymbolDoc :=
  ((docs.filterMap description?).filter (·.id = id)).getLast?

/-- The references that are listed for a symbol, in order. -/
def listed (docs : List Document) (id : String) : List Reference :=
  ((docs.filterMap listing?).filter (·.id = id)).flatMap (·.references)

/-- The pairs of the relations with a predicate, in order. -/
def related (docs : List Document) (predicate : UInt32) : List Relation :=
  ((docs.filterMap relation?).filter (·.predicate = predicate)).map fun d => ⟨d.subject, d.object⟩

variable {docs docs' : List Document} {id : String}

theorem of_latest? {d : SymbolDoc} (h : latest? docs id = some d) :
    d ∈ docs.filterMap description? ∧ d.id = id := by
  obtain ⟨hm, hid⟩ := List.mem_filter.1 (List.mem_of_getLast? h)
  exact ⟨hm, of_decide_eq_true hid⟩

/-- A symbol has a last description if it has one at all. -/
theorem exists_latest?_iff : (∃ d, latest? docs id = some d) ↔ Described docs id := by
  refine ⟨fun ⟨d, h⟩ => ⟨d, of_latest? h⟩, fun ⟨d, hm, hid⟩ => ?_⟩
  have hne : (docs.filterMap description?).filter (·.id = id) ≠ [] :=
    List.ne_nil_of_mem (List.mem_filter.2 ⟨hm, decide_eq_true hid⟩)
  exact ⟨_, List.getLast?_eq_some_getLast hne⟩

theorem mem_listed {r : Reference} :
    r ∈ listed docs id ↔ ∃ d ∈ docs.filterMap listing?, d.id = id ∧ r ∈ d.references := by
  simp only [listed, List.mem_flatMap, List.mem_filter, decide_eq_true_eq, and_assoc]

theorem listed_perm (h : docs.Perm docs') (id : String) : (listed docs id).Perm (listed docs' id) :=
  ((h.filterMap _).filter _).flatMap_right _

theorem related_perm (h : docs.Perm docs') (predicate : UInt32) :
    (related docs predicate).Perm (related docs' predicate) :=
  ((h.filterMap _).filter _).map _

theorem related_append (docs docs' : List Document) (predicate : UInt32) :
    related (docs ++ docs') predicate = related docs predicate ++ related docs' predicate := by
  simp [related]

end Document

/-! ## Gathering -/

namespace Linker

open Document

variable {docs : List Document} {id : String} {l : Linker}

theorem addAll_eq (docs : List Document) : ∀ l : Linker, l.addAll docs =
    { symbols := (docs.filterMap description?).foldl (fun t d => t.insert d.id d.symbol) l.symbols
      references := l.references ++ docs.filterMap listing?
      relations := l.relations ++ docs.filterMap relation? } := by
  induction docs with
  | nil => simp [addAll]
  | cons doc docs ih =>
    intro l
    rw [addAll, List.foldl_cons, ← addAll, ih]
    cases doc <;> simp [add, description?, listing?, relation?, List.filterMap_cons]

/-- Of several descriptions the last one stays. -/
theorem get?_symbols_addAll (docs : List Document) (id : String) :
    (addAll ∅ docs).symbols.get? id = (latest? docs id).map (·.symbol) := by
  have hentries : (addAll ∅ docs).symbols =
      Table.ofList ((docs.filterMap description?).map fun d => (d.id, d.symbol)) := by
    rw [addAll_eq, Table.ofList, List.foldl_map]
    rfl
  rw [hentries, Table.get?_ofList, List.filter_map, List.getLast?_map, Option.map_map]
  rfl

/-! ## Attaching -/

section Attaching
variable (state : Table String Symbol × Format)

theorem get?_attach (d : RefsDoc) (id : String) : (attach state d).1.get? id =
    (state.1.get? id).map fun s =>
      { s with references := s.references ++ if d.id = id then d.references else [] } := by
  unfold attach
  split
  · rw [Table.get?_modify]
    by_cases h : id = d.id
    · simp [h]
    · simp [h, Ne.symm h]
  · next hd =>
    by_cases h : d.id = id
    · have hnone : state.1.get? id = none := by
        rw [← h]
        exact Option.not_isSome_iff_eq_none.1 hd
      simp [hnone]
    · simp [h]

theorem contains_attach (d : RefsDoc) (id : String) :
    (attach state d).1.contains id = state.1.contains id := by
  rw [Table.contains, get?_attach, Option.isSome_map, Table.contains]

/-- A symbol gets the references that are listed for it, in order. -/
theorem get?_foldl_attach (refs : List RefsDoc) (id : String) : ∀ state,
    (refs.foldl attach state).1.get? id = (state.1.get? id).map fun s =>
      { s with references := s.references ++
          (refs.filter (·.id = id)).flatMap (·.references) } := by
  induction refs with
  | nil => simp
  | cons d refs ih =>
    intro state
    rw [List.foldl_cons, ih, get?_attach, Option.map_map]
    congr 1
    funext s
    by_cases h : d.id = id <;> simp [h]

/-- The format is taken from the references to known symbols. -/
theorem format_foldl_attach (refs : List RefsDoc) : ∀ state,
    (refs.foldl attach state).2 =
      ((refs.filter fun d => state.1.contains d.id).flatMap (·.references)).foldl
        Format.observe state.2 := by
  induction refs with
  | nil => exact fun _ => rfl
  | cons d refs ih =>
    intro state
    simp only [List.foldl_cons, ih, contains_attach]
    cases h : state.1.contains d.id <;> simp [attach, h]

end Attaching

end Linker

/-! ## Formats -/

namespace Format

/-- Containers settle the question of call kinds. -/
def Settled (f : Format) : Prop := f.hasContainers = true → f.hasCallKind = true

/-- A reference that settles the question of call kinds. -/
def marksCalls (r : Reference) : Bool := r.containerId.isSome || r.kind.reachesCall

theorem observe_eq {f : Format} (hf : f.Settled) (r : Reference) : f.observe r =
    ⟨f.hasContainers || r.containerId.isSome, f.hasCallKind || marksCalls r⟩ := by
  obtain ⟨containers, calls⟩ := f
  unfold Settled at hf
  cases containers <;> cases calls <;> cases hr : r.containerId.isSome <;>
    cases hk : r.kind.reachesCall <;> simp_all [observe, marksCalls]

theorem foldl_observe (rs : List Reference) : ∀ {f : Format}, f.Settled → rs.foldl observe f =
    ⟨f.hasContainers || rs.any (·.containerId.isSome), f.hasCallKind || rs.any marksCalls⟩ := by
  induction rs with
  | nil => simp
  | cons r rs ih =>
    intro f hf
    have hnext : (f.observe r).Settled := by
      rw [observe_eq hf]
      intro h
      rcases Bool.or_eq_true_iff.1 h with h | h
      · simp [hf h]
      · simp [marksCalls, h]
    rw [List.foldl_cons, ih hnext, observe_eq hf]
    simp only [List.any_cons, Bool.or_assoc]

end Format

/-! ## Linked indexes -/

namespace Index

open Document Linker

variable {docs : List Document} {id : String} {s : Symbol}

/-- The index that documents link to. -/
def ofDocuments (docs : List Document) : Index := (Linker.addAll ∅ docs).link

/-- Building an index of the values of a table that holds symbols under their ids. -/
theorem get?_ofSymbols_values {t : Table String Symbol}
    (keyed : ∀ id s, t.get? id = some s → s.id = id) (id : String) :
    (ofSymbols t.values).get? id = t.get? id := by
  have hmem : ∀ {s}, s ∈ t.values ↔ t.get? s.id = some s := by
    intro s
    rw [Table.mem_values]
    refine ⟨?_, fun h => ⟨_, h⟩⟩
    rintro ⟨k, hk⟩
    rwa [keyed k s hk]
  refine Option.ext fun s => (get?_foldl_insert_iff t.values (fun s hs u hu e => ?_) ∅).trans ?_
  · have hget := hmem.1 hs
    rw [e, hmem.1 hu] at hget
    exact (Option.some.inj hget).symm
  · rw [hmem]
    refine ⟨?_, fun h => .inl ?_⟩
    · rintro (⟨h, rfl⟩ | ⟨-, h⟩)
      · exact h
      · cases h
    · obtain rfl := keyed id s h
      exact ⟨h, rfl⟩

/-- The last description of a symbol stays, with the references that are listed for the symbol. -/
theorem get?_ofDocuments (docs : List Document) (id : String) : (ofDocuments docs).get? id =
    (latest? docs id).map fun d =>
      { d.symbol with references := listed docs id } := by
  have hget : ∀ id, ((addAll ∅ docs).references.foldl attach ((addAll ∅ docs).symbols,
      ⟨false, false⟩)).1.get? id = (latest? docs id).map fun d =>
        { d.symbol with references := listed docs id } := by
    intro id
    rw [get?_foldl_attach, get?_symbols_addAll, Option.map_map, addAll_eq]
    rfl
  refine (get?_ofSymbols_values (fun id s hs => ?_) id).trans (hget id)
  rw [hget] at hs
  obtain ⟨d, hd, rfl⟩ := Option.map_eq_some_iff.1 hs
  exact (of_latest? hd).2

theorem contains_ofDocuments : (ofDocuments docs).contains id = true ↔ Described docs id := by
  rw [contains_iff, get?_ofDocuments, ← exists_latest?_iff]
  simp only [Option.map_eq_some_iff]
  exact ⟨fun ⟨_, d, hd, _⟩ => ⟨d, hd⟩, fun ⟨d, hd⟩ => ⟨_, d, hd, rfl⟩⟩

/-- A described symbol has the references that are listed for it. -/
theorem references_ofDocuments (h : (ofDocuments docs).get? id = some s) :
    s.references = listed docs id := by
  rw [get?_ofDocuments] at h
  obtain ⟨d, -, rfl⟩ := Option.map_eq_some_iff.1 h
  rfl

/-- Linked indexes are well-formed, whatever was gathered. -/
theorem wellFormed_link (l : Linker) : l.link.WellFormed := by
  have h := WellFormed.ofSymbols (l.references.foldl attach (l.symbols, ⟨false, false⟩)).1.values
  exact ⟨h.keyed, h.callable⟩

theorem wellFormed_ofDocuments (docs : List Document) : (ofDocuments docs).WellFormed :=
  wellFormed_link _

theorem inheritance_ofDocuments (docs : List Document) :
    (ofDocuments docs).inheritance = related docs RelationDoc.baseOf := by
  simp only [ofDocuments, link, pairs, addAll_eq, related]
  rfl

theorem overrides_ofDocuments (docs : List Document) :
    (ofDocuments docs).overrides = related docs RelationDoc.overriddenBy := by
  simp only [ofDocuments, link, pairs, addAll_eq, related]
  rfl

/-! ## Their formats -/

/-- Some symbol has a reference with the property. -/
def HasReference (ix : Index) (p : Reference → Bool) : Prop :=
  ∃ id s, ix.get? id = some s ∧ ∃ r ∈ s.references, p r = true

/-- What is attached are the references of the symbols. -/
theorem any_attached_iff (docs : List Document) (p : Reference → Bool) :
    (((docs.filterMap listing?).filter fun d => (addAll ∅ docs).symbols.contains d.id).flatMap
      (·.references)).any p = true ↔ (ofDocuments docs).HasReference p := by
  have hknown : ∀ id, (addAll ∅ docs).symbols.contains id = (ofDocuments docs).contains id := by
    intro id
    rw [Index.contains, Table.contains, Table.contains, ← get?, get?_ofDocuments,
      get?_symbols_addAll, Option.isSome_map, Option.isSome_map]
  simp only [List.any_eq_true, List.mem_flatMap, List.mem_filter, hknown, HasReference]
  refine ⟨?_, ?_⟩
  · rintro ⟨r, ⟨d, ⟨hd, hc⟩, hr⟩, hp⟩
    obtain ⟨s, hs⟩ := contains_iff.1 hc
    refine ⟨d.id, s, hs, r, ?_, hp⟩
    rw [references_ofDocuments hs]
    exact mem_listed.2 ⟨d, hd, rfl, hr⟩
  · rintro ⟨id, s, hs, r, hr, hp⟩
    rw [references_ofDocuments hs] at hr
    obtain ⟨d, hd, rfl, hmem⟩ := mem_listed.1 hr
    exact ⟨r, ⟨d, ⟨hd, contains_iff.2 ⟨s, hs⟩⟩, hmem⟩, hp⟩

theorem format_ofDocuments (docs : List Document) :
    ((ofDocuments docs).hasContainers = true ↔
        (ofDocuments docs).HasReference (·.containerId.isSome)) ∧
      ((ofDocuments docs).hasCallKind = true ↔
        (ofDocuments docs).HasReference Format.marksCalls) := by
  have hformat := format_foldl_attach (addAll ∅ docs).references
    ((addAll ∅ docs).symbols, ⟨false, false⟩)
  rw [Format.foldl_observe _ fun h => absurd h Bool.false_ne_true, Bool.false_or, Bool.false_or]
    at hformat
  have hrefs : (addAll ∅ docs).references = docs.filterMap listing? := by
    rw [addAll_eq]
    rfl
  rw [← any_attached_iff, ← any_attached_iff, ← hrefs]
  exact ⟨iff_of_eq (congrArg (fun f : Format => f.hasContainers = true) hformat),
    iff_of_eq (congrArg (fun f : Format => f.hasCallKind = true) hformat)⟩

end Index

end SymbolAtlas
