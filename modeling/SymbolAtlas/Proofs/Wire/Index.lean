import SymbolAtlas.Proofs.Table
import SymbolAtlas.Wire.Symbol

/-!
# Reading an index back

Reading what was written of an index gives the index, but for kinds (`Index.readsAs`). A kind is
written as its spelling, so a word that was kept as it is although it spells a named kind is read as
that kind (`Symbol.reread`).
-/

namespace SymbolAtlas

/-! ## Parts -/

namespace Json

variable {α β : Type} {item : Decoder β} {write : α → Json} {f : α → β}

/-- What is written of a value is read as `f` of it. -/
def ReadsAs (item : Decoder β) (write : α → Json) (f : α → β) : Prop :=
  ∀ a, item (write a) = .ok (f a)

theorem readsAs_text : ReadsAs asText .str id := fun _ => rfl

theorem readsAs_bool : ReadsAs asBool .bool id := fun _ => rfl

theorem readsAs_word : ReadsAs asWord wordJson id := by
  intro w
  have hbound : (0 : Int) ≤ (w.toNat : Int) ∧ (w.toNat : Int) < (UInt32.size : Int) :=
    ⟨Int.natCast_nonneg _, Int.ofNat_lt.2 w.toNat_lt⟩
  rw [wordJson, asWord, if_pos hbound, Int.toNat_natCast, UInt32.ofNat_toNat, id]

theorem asItems_map (h : ReadsAs item write f) (l : List α) :
    asItems item (l.map write) = .ok (l.map f) := by
  induction l with
  | nil => rfl
  | cons a l ih =>
    rw [List.map_cons, asItems, h a]
    simp only [ih]
    rfl

theorem ReadsAs.list (h : ReadsAs item write f) :
    ReadsAs (asList item) (fun l : List α => .arr (l.map write)) (List.map f) := asItems_map h

theorem asEntries_map (h : ReadsAs item write f) (l : List (String × α)) :
    asEntries item (l.map fun e => (e.1, write e.2)) = .ok (l.map fun e => (e.1, f e.2)) := by
  induction l with
  | nil => rfl
  | cons e l ih =>
    rw [List.map_cons, asEntries, h e.2]
    simp only [ih]
    rfl

theorem ReadsAs.table (h : ReadsAs item write f) :
    ReadsAs (asTable item) (ofTable write) (Table.map · f) := by
  intro t
  have hwritten : Table.ofList (t.entries.map fun e => (e.1, write e.2)) = t.map write :=
    Table.ofList_entries (t.map write)
  rw [ofTable, asTable, hwritten]
  show (asEntries item (t.entries.map fun e => (e.1, write e.2))).map Table.ofList = _
  rw [asEntries_map h]
  exact congrArg Except.ok (Table.ofList_entries (t.map f))

theorem ReadsAs.option (h : ReadsAs item write f) {a : α} (hnull : write a ≠ .null) :
    asOption item (write a) = .ok (some (f a)) := by
  unfold asOption
  split
  · contradiction
  · rw [h a]
    rfl

/-! ## Records -/

theorem lookup_optional (name : String) (write : α → Json) (a : Option α) (n : String) :
    (optional name write a).lookup n = if n = name then a.map write else none := by
  cases a with
  | none => simp [optional]
  | some a =>
    by_cases h : n = name
    · simp [optional, h]
    · simp [optional, h, List.lookup_cons, beq_false_of_ne h]

/-- An object whose fields are all valid is read, if more members may follow. -/
theorem asRecord_obj {s : Shape} {body : Fields → Checked α} {ms : List (String × Json)} {a : α}
    (hopen : s.closed = false) (h : body ⟨fun n => ms.lookup n, .missingField⟩ = .valid a) :
    asRecord s body (.obj ms) = .ok a := by
  simp [asRecord, h, Shape.unknown, hopen]

namespace Fields

variable {r : Fields} {name : String} {a : α}

theorem required_eq (h : ReadsAs item write f) (hf : r.find? name = some (write a)) :
    r.required name item = .valid (f a) := by
  rw [required, hf]
  simp only [h a, check]

theorem withDefault_eq (h : ReadsAs item write f) {b : β} (hf : r.find? name = some (write a)) :
    r.withDefault name item b = .valid (f a) := by
  rw [withDefault, hf]
  simp only [h a, check]

theorem optional_eq (h : ReadsAs item write f) (hnull : ∀ a, write a ≠ .null) {o : Option α}
    (hf : r.find? name = o.map write) : r.optional name item = .valid (o.map f) := by
  cases o with
  | none =>
    rw [Fields.optional, withDefault, hf]
    rfl
  | some a =>
    rw [Fields.optional, withDefault, hf, Option.map_some]
    simp only [h.option (hnull a), check]
    rfl

end Fields

end Json

open Json

/-! ## Coordinates and references -/

theorem Range.fields_eq {r : Fields} (a : Range)
    (h : ∀ n ∈ coordinateNames, r.find? n = a.members.lookup n) : fields r = .valid a := by
  rw [fields, Fields.required_eq readsAs_word (a := a.start.line),
    Fields.required_eq readsAs_word (a := a.start.column),
    Fields.required_eq readsAs_word (a := a.stop.line),
    Fields.required_eq readsAs_word (a := a.stop.column)]
  · rfl
  all_goals
    rw [h _ (by simp [coordinateNames])]
    simp [members, List.lookup_cons]

theorem Range.readsAs : ReadsAs decode toJson id := fun a =>
  asRecord_obj rfl (fields_eq a fun _ _ => rfl)

theorem Location.readsAs : ReadsAs decode toJson id := by
  intro l
  refine asRecord_obj rfl ?_
  rw [Fields.required_eq readsAs_text (a := l.file) (by simp), Range.fields_eq l.range]
  · rfl
  · intro n hn
    simp only [Range.coordinateNames, List.mem_cons, List.not_mem_nil, or_false] at hn
    rcases hn with rfl | rfl | rfl | rfl <;> rfl

theorem Reference.readsAs : ReadsAs decode toJson id := by
  intro r
  refine asRecord_obj rfl ?_
  rw [Fields.required_eq readsAs_word (a := r.kind.bits),
    Fields.required_eq Location.readsAs (a := r.location),
    Fields.optional_eq readsAs_text (fun _ => nofun) (o := r.containerId)]
  · simp
  all_goals simp [List.lookup_cons, lookup_optional]

/-! ## Symbols and indexes -/

theorem SymbolKind.readsAs : ReadsAs decode toJson fun k => .ofText k.text := fun _ => rfl

/-- The symbol with its kind as the spelling of the kind is read. -/
def Symbol.reread (s : Symbol) : Symbol := { s with kind := .ofText s.kind.text }

theorem Symbol.readsAs : ReadsAs decode toJson reread := by
  intro s
  refine asRecord_obj rfl ?_
  have null (text : String) : Json.str text ≠ .null := nofun
  rw [Fields.required_eq readsAs_text (a := s.id), Fields.required_eq readsAs_text (a := s.name),
    Fields.required_eq SymbolKind.readsAs (a := s.kind),
    Fields.optional_eq Location.readsAs (fun _ => nofun) (o := s.declaration),
    Fields.optional_eq Location.readsAs (fun _ => nofun) (o := s.definition),
    Fields.withDefault_eq Reference.readsAs.list (a := s.references),
    Fields.withDefault_eq readsAs_text (a := s.scope),
    Fields.withDefault_eq readsAs_text (a := s.language),
    Fields.withDefault_eq readsAs_text (a := s.signature),
    Fields.withDefault_eq readsAs_text (a := s.returnType),
    Fields.withDefault_eq readsAs_text (a := s.typeName),
    Fields.optional_eq Range.readsAs (fun _ => nofun) (o := s.body),
    Fields.optional_eq readsAs_text null (o := s.parentId),
    Fields.optional_eq readsAs_text null (o := s.aliasedId),
    Fields.optional_eq readsAs_text null (o := s.aliasedKind),
    Fields.optional_eq readsAs_text null (o := s.aliasedSpelling)]
  · simp [reread]
  all_goals simp [List.lookup_cons, List.lookup_append, lookup_optional]

theorem Relation.readsAs : ReadsAs decode toJson id := fun _ => rfl

theorem KeySet.readsAs : ReadsAs decode toJson id := by
  intro s
  rw [toJson, decode, strs, readsAs_text.list s.toList, List.map_id]
  refine congrArg Except.ok (ext_mem fun k => ?_)
  rw [mem_ofList, mem_toList, id]

/-- An index is read back with the kinds of its symbols as their spellings are read. -/
theorem Index.readsAs : ReadsAs decode toJson (·.mapSymbols Symbol.reread) := by
  intro ix
  refine asRecord_obj rfl ?_
  rw [Fields.required_eq Symbol.readsAs.table (a := ix.symbols),
    Fields.required_eq KeySet.readsAs (a := ix.callables),
    Fields.required_eq readsAs_bool (a := ix.hasContainers),
    Fields.required_eq readsAs_bool (a := ix.hasCallKind),
    Fields.required_eq Relation.readsAs.list (a := ix.inheritance),
    Fields.required_eq Relation.readsAs.list (a := ix.overrides)]
  · simp [mapSymbols]
  all_goals simp [List.lookup_cons]

end SymbolAtlas
