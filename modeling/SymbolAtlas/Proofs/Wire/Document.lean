import SymbolAtlas.Proofs.Wire.Index
import SymbolAtlas.Wire.Document

/-!
# Reading a document back

A document is read from what is written of it (`Document.ofJson_toJson`). Readers look for members
by name, so it does not matter in which order an object has them; the proofs are for every change of
values that keeps what stands under a name (`Json.Rearranges`), which sorting by name is one of. Of
the three kinds of documents each lacks a field that the kinds tried before it require. So a linker
takes in whatever was written (`Linker.addValues_rearranged`).
-/

namespace SymbolAtlas

namespace Json

/-! ## Values with their members in order -/

mutual

/-- The value with the members of each object in the order of their names; of several with one name
the last. -/
def sorted : Json → Json
  | .arr items => .arr (sortedItems items)
  | .obj members => .obj (Table.ofList (sortedMembers members)).entries
  | .null => .null
  | .bool b => .bool b
  | .int n => .int n
  | .double bits => .double bits
  | .str s => .str s

def sortedItems : List Json → List Json
  | [] => []
  | j :: js => sorted j :: sortedItems js

def sortedMembers : List (String × Json) → List (String × Json)
  | [] => []
  | (name, j) :: ms => (name, sorted j) :: sortedMembers ms

end

theorem sortedItems_eq (js : List Json) : sortedItems js = js.map sorted := by
  induction js with
  | nil => rfl
  | cons j js ih => rw [sortedItems, ih, List.map_cons]

theorem sortedMembers_eq (ms : List (String × Json)) :
    sortedMembers ms = ms.map fun m => (m.1, sorted m.2) := by
  induction ms with
  | nil => rfl
  | cons m ms ih => rw [sortedMembers, ih, List.map_cons]

/-- The change goes through arrays item by item, and an object holds under each name what it held
there, changed in turn; texts, integers and `null` stay. -/
structure Rearranges (g : Json → Json) : Prop where
  null : g .null = .null
  int (n : Int) : g (.int n) = .int n
  str (s : String) : g (.str s) = .str s
  arr (js : List Json) : g (.arr js) = .arr (js.map g)
  obj (ms : List (String × Json)) (hms : (ms.map (·.1)).Nodup) :
    ∃ ms', g (.obj ms) = .obj ms' ∧ ∀ n, ms'.lookup n = (ms.lookup n).map g

theorem rearranges_id : Rearranges id where
  null := rfl
  int _ := rfl
  str _ := rfl
  arr js := by rw [List.map_id, id]
  obj ms _ := ⟨ms, rfl, fun n => by rw [Option.map_id, id]⟩

theorem lookup_eq_tableLookup (n : String) (ms : List (String × Json)) :
    ms.lookup n = Table.lookup n ms := by
  induction ms with
  | nil => rfl
  | cons m ms ih =>
    rw [List.lookup_cons, Table.lookup, ih]
    by_cases h : n = m.1
    · simp [h]
    · simp [h, beq_false_of_ne h]

theorem rearranges_sorted : Rearranges sorted where
  null := rfl
  int _ := rfl
  str _ := rfl
  arr js := by rw [sorted, sortedItems_eq]
  obj ms hms := by
    refine ⟨_, rfl, fun n => ?_⟩
    have hnames : ((ms.map fun m => (m.1, sorted m.2)).map (·.1)).Nodup := by
      rwa [List.map_map]
    rw [sortedMembers_eq, lookup_eq_tableLookup, lookup_eq_tableLookup]
    calc Table.lookup n (Table.ofList (ms.map fun m => (m.1, sorted m.2))).entries
        = Table.lookup n (ms.map fun m => (m.1, sorted m.2)) := Table.get?_ofList_of_nodup hnames n
      _ = (Table.lookup n ms).map sorted := Table.lookup_map n (fun _ => sorted) ms

/-! ## Reading what was rearranged -/

/-- The value, if nothing is wrong with it. -/
def Checked.value? {α : Type} : Checked α → Option α
  | valid a => some a
  | faulty _ _ => none

namespace Checked

variable {α β : Type}

@[simp] theorem value?_map (f : α → β) (c : Checked α) : (f <$> c).value? = c.value?.map f := by
  cases c <;> rfl

@[simp] theorem value?_seq (f : Checked (α → β)) (c : Checked α) :
    (f <*> c).value? = f.value?.bind fun f => c.value?.map f := by
  cases f <;> cases c <;> rfl

end Checked

theorem Fields.value?_required {α : Type} {r : Fields} {name : String} (h : r.find? name = none)
    (item : Decoder α) : (r.required name item).value? = none := by
  rw [required, h]
  rfl

namespace Rearranges

variable {g : Json → Json} {α β : Type} {item : Decoder β} {write : α → Json} {f : α → β}
  {s : Shape} {body : Fields → Checked α} {ms : List (String × Json)}

section
variable (hg : Rearranges g)
include hg

theorem readsAs_text : ReadsAs asText (fun s => g (.str s)) id := by
  intro s
  show asText (g (.str s)) = _
  rw [hg.str]
  exact Json.readsAs_text s

theorem readsAs_word : ReadsAs asWord (fun w => g (wordJson w)) id := by
  intro w
  show asWord (g (.int w.toNat)) = _
  rw [hg.int]
  exact Json.readsAs_word w

theorem readsAs_list (h : ReadsAs item (fun a => g (write a)) f) :
    ReadsAs (asList item) (fun l : List α => g (.arr (l.map write))) (List.map f) := by
  intro l
  show asList item (g (.arr (l.map write))) = _
  rw [hg.arr, List.map_map]
  exact h.list l

theorem obj_ne_null (hms : (ms.map (·.1)).Nodup) : g (.obj ms) ≠ .null := by
  obtain ⟨ms', hobj, -⟩ := hg.obj ms hms
  rw [hobj]
  nofun

theorem readsAs_orNull (h : ReadsAs item (fun a => g (write a)) f)
    (hnull : ∀ a, g (write a) ≠ .null) :
    ReadsAs (asOption item) (fun o : Option α => g (orNull write o)) (Option.map f) := by
  intro o
  cases o with
  | none =>
    show asOption item (g .null) = _
    rw [hg.null]
    rfl
  | some a => exact h.option (hnull a)

/-- A record is read from the members of an object, in whatever order. -/
theorem asRecord_eq (hopen : s.closed = false) (hms : (ms.map (·.1)).Nodup) {a : α}
    (h : ∀ r : Fields, (∀ n, r.find? n = (ms.lookup n).map g) → body r = .valid a) :
    asRecord s body (g (.obj ms)) = .ok a := by
  obtain ⟨ms', hobj, hlookup⟩ := hg.obj ms hms
  rw [hobj]
  exact asRecord_obj hopen (h _ hlookup)

/-- A record is refused where a name that it requires is not there. -/
theorem asRecord_error (hms : (ms.map (·.1)).Nodup) {n : String} (hn : ms.lookup n = none)
    (h : ∀ r : Fields, r.find? n = none → (body r).value? = none) :
    ∃ e, asRecord s body (g (.obj ms)) = .error e := by
  obtain ⟨ms', hobj, hlookup⟩ := hg.obj ms hms
  have hbody := h ⟨fun n => ms'.lookup n, .missingField⟩ ((hlookup n).trans (by rw [hn]; rfl))
  rw [hobj, asRecord]
  cases hc : body ⟨fun n => ms'.lookup n, .missingField⟩ with
  | valid a =>
    rw [hc] at hbody
    cases hbody
  | faulty first more => exact ⟨_, rfl⟩

end

end Rearranges

end Json

open Json

namespace Document

variable {g : Json → Json} (hg : Rearranges g)
include hg

/-! ## Parts -/

theorem readsAs_position : ReadsAs position (fun p => g (positionJson p)) id := by
  intro p
  apply hg.asRecord_eq rfl (by simp)
  intro r hr
  rw [Fields.required_eq hg.readsAs_word (a := p.line),
    Fields.required_eq hg.readsAs_word (a := p.column)]
  · rfl
  all_goals simp [hr, List.lookup_cons]

theorem readsAs_location : ReadsAs location (fun l => g (locationJson l)) id := by
  intro l
  apply hg.asRecord_eq rfl (by simp)
  intro r hr
  rw [Fields.required_eq hg.readsAs_text (a := l.file),
    Fields.required_eq (readsAs_position hg) (a := l.start),
    Fields.required_eq (readsAs_position hg) (a := l.stop)]
  · rfl
  all_goals simp [hr, List.lookup_cons]

theorem locationJson_ne_null (l : Location) : g (locationJson l) ≠ .null :=
  hg.obj_ne_null (by simp)

theorem readsAs_symbolInfo :
    ReadsAs symbolInfo (fun i : String × String => g (symbolInfoJson i.1 i.2)) id := by
  intro i
  apply hg.asRecord_eq rfl (by simp)
  intro r hr
  rw [Fields.required_eq hg.readsAs_text (a := i.1),
    Fields.withDefault_eq hg.readsAs_text (a := i.2)]
  · rfl
  all_goals simp [hr, List.lookup_cons]

theorem readsAs_identity : ReadsAs identity (fun id => g (identityJson id)) id := by
  intro i
  apply hg.asRecord_eq rfl (by simp)
  intro r hr
  exact Fields.required_eq hg.readsAs_text (a := i) (by simp [hr])

theorem identityJson_ne_null (i : String) : g (identityJson i) ≠ .null :=
  hg.obj_ne_null (by simp)

theorem readsAs_reference : ReadsAs reference (fun r => g (referenceJson r)) id := by
  intro ref
  have hcontainer := hg.readsAs_orNull (readsAs_identity hg) (identityJson_ne_null hg)
  apply hg.asRecord_eq rfl (by simp)
  intro r hr
  rw [Fields.required_eq hg.readsAs_word (a := ref.kind.bits),
    Fields.required_eq (readsAs_location hg) (a := ref.location), Fields.optional,
    Fields.withDefault_eq hcontainer (a := ref.containerId)]
  · simp
  all_goals simp [hr, List.lookup_cons]

/-! ## Kinds of documents -/

theorem readsAs_symbolDoc : ReadsAs SymbolDoc.decode (fun d => g d.toJson) id := by
  intro d
  have hlocation := hg.readsAs_orNull (readsAs_location hg) (locationJson_ne_null hg)
  apply hg.asRecord_eq rfl (by simp)
  intro r hr
  rw [Fields.required_eq hg.readsAs_text (a := d.id),
    Fields.required_eq hg.readsAs_text (a := d.name),
    Fields.withDefault_eq hg.readsAs_text (a := d.scope),
    Fields.required_eq (readsAs_symbolInfo hg) (a := (d.kind, d.language)), Fields.optional,
    Fields.withDefault_eq hlocation (a := d.declaration), Fields.optional,
    Fields.withDefault_eq hlocation (a := d.definition),
    Fields.withDefault_eq hg.readsAs_text (a := d.signature),
    Fields.withDefault_eq hg.readsAs_text (a := d.returnType),
    Fields.withDefault_eq hg.readsAs_text (a := d.typeName)]
  · simp
  all_goals simp [hr, List.lookup_cons]

theorem readsAs_refsDoc : ReadsAs RefsDoc.decode (fun d => g d.toJson) id := by
  intro d
  apply hg.asRecord_eq rfl (by simp)
  intro r hr
  rw [Fields.required_eq hg.readsAs_text (a := d.id),
    Fields.required_eq (hg.readsAs_list (readsAs_reference hg)) (a := d.references)]
  · simp
  all_goals simp [hr, List.lookup_cons]

theorem readsAs_relationDoc : ReadsAs RelationDoc.decode (fun d => g d.toJson) id := by
  intro d
  apply hg.asRecord_eq rfl (by simp)
  intro r hr
  rw [Fields.required_eq (readsAs_identity hg) (a := d.subject),
    Fields.required_eq hg.readsAs_word (a := d.predicate),
    Fields.required_eq (readsAs_identity hg) (a := d.object)]
  · rfl
  all_goals simp [hr, List.lookup_cons]

/-- No description is read from a list of references, which has no name. -/
theorem symbolDoc_refuses_refs (d : RefsDoc) : ∃ e, SymbolDoc.decode (g d.toJson) = .error e := by
  apply hg.asRecord_error (n := "Name") (by simp) (by simp [List.lookup_cons])
  intro r hr
  simp [Fields.value?_required hr]

/-- No description is read from a relation, which has no id. -/
theorem symbolDoc_refuses_relation (d : RelationDoc) :
    ∃ e, SymbolDoc.decode (g d.toJson) = .error e := by
  apply hg.asRecord_error (n := "ID") (by simp) (by simp [List.lookup_cons])
  intro r hr
  simp [Fields.value?_required hr]

/-- No list of references is read from a relation. -/
theorem refsDoc_refuses_relation (d : RelationDoc) :
    ∃ e, RefsDoc.decode (g d.toJson) = .error e := by
  apply hg.asRecord_error (n := "ID") (by simp) (by simp [List.lookup_cons])
  intro r hr
  simp [Fields.value?_required hr]

/-! ## Documents -/

/-- The kind that fits first is the kind that was written. -/
theorem fit?_rearranged (d : Document) : fit? (g d.toJson) = some d := by
  cases d with
  | symbol d =>
    have hread : SymbolDoc.decode (g d.toJson) = .ok d := readsAs_symbolDoc hg d
    simp only [fit?, toJson, hread]
  | refs d =>
    obtain ⟨e, hsymbol⟩ := symbolDoc_refuses_refs hg d
    have hread : RefsDoc.decode (g d.toJson) = .ok d := readsAs_refsDoc hg d
    simp only [fit?, toJson, hsymbol, hread]
  | relation d =>
    obtain ⟨e, hsymbol⟩ := symbolDoc_refuses_relation hg d
    obtain ⟨e', hrefs⟩ := refsDoc_refuses_relation hg d
    have hread : RelationDoc.decode (g d.toJson) = .ok d := readsAs_relationDoc hg d
    simp only [fit?, toJson, hsymbol, hrefs, hread]

omit hg in
/-- A document is written as an object with distinct names, which tell that it is one. -/
theorem exists_members (d : Document) : ∃ ms, d.toJson = .obj ms ∧ (ms.map (·.1)).Nodup ∧
    ((ms.lookup "ID").isNone && (ms.lookup "Subject").isNone) = false := by
  cases d <;> exact ⟨_, rfl, by simp, by simp [List.lookup_cons]⟩

theorem ofJson_rearranged (d : Document) : ofJson (g d.toJson) = .ok (some d) := by
  have hfit := fit?_rearranged hg d
  obtain ⟨ms, hd, hms, hidentified⟩ := exists_members d
  obtain ⟨ms', hobj, hlookup⟩ := hg.obj ms hms
  rw [hd, hobj] at hfit ⊢
  have hknown : ((ms'.lookup "ID").isNone && (ms'.lookup "Subject").isNone) = false := by
    rwa [hlookup, hlookup, Option.isNone_map, Option.isNone_map]
  rw [ofJson, if_neg (by rw [hknown]; exact Bool.false_ne_true), hfit]

omit hg in
/-- A document is read back from what is written of it, whether the members of objects stand as they
are declared or in the order of their names. -/
theorem ofJson_toJson (d : Document) :
    ofJson d.toJson = .ok (some d) ∧ ofJson d.toJson.sorted = .ok (some d) :=
  ⟨ofJson_rearranged rearranges_id d, ofJson_rearranged rearranges_sorted d⟩

end Document

/-- A linker takes in all documents of a list that was written. -/
theorem Linker.addValues_rearranged {g : Json → Json} (hg : Rearranges g) (docs : List Document) :
    ∀ (l : Linker) (added : Nat), l.addValues added (docs.map fun d => g d.toJson) =
      (.ok (added + docs.length), l.addAll docs) := by
  induction docs with
  | nil => exact fun _ _ => rfl
  | cons d docs ih =>
    intro l added
    rw [List.map_cons, addValues, Document.ofJson_rearranged hg d]
    show addValues (l.add d) (added + 1) (docs.map fun d => g d.toJson) = _
    rw [ih, List.length_cons, Nat.add_right_comm, Nat.add_assoc]
    rfl

end SymbolAtlas
