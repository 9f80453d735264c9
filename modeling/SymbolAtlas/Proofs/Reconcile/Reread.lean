import SymbolAtlas.Proofs.Linker
import SymbolAtlas.Proofs.Reconcile.Added
import SymbolAtlas.Proofs.Wire.Index

/-!
# Reading reconciled indexes back

Documents give no kind that reading changes. A parser's word that stands for no kind is kept as it
is, and read as the kind that it spells if there is one; so what reconciling makes of linked
documents is read back unchanged exactly if no span that becomes a symbol has such a word
(`Index.decode_reconcile_ofDocuments`).
-/

namespace SymbolAtlas

/-! ## Kinds -/

namespace SymbolKind

/-- The words of parsers that stand for a named kind. -/
def parserWords : List String :=
  ["FUNCTION_DECL", "FUNCTION_TEMPLATE", "Function", "CXX_METHOD", "CONSTRUCTOR", "DESTRUCTOR",
   "CONVERSION_FUNCTION", "STRUCT_DECL", "UNION_DECL", "ENUM_DECL", "CLASS_DECL", "CLASS_TEMPLATE",
   "CLASS_TEMPLATE_PARTIAL_SPECIALIZATION"]

variable {word : String}

/-- Such a word gives a kind that is read back, and spells no named kind but `function`. -/
theorem ofText_text_of_mem : ∀ word ∈ parserWords,
    ofText (ofParserWord word).text = ofParserWord word ∧
      ∀ k ∈ named, k ≠ function → word ≠ k.text := by
  decide

theorem ofParserWord_of_not_mem (h : word ∉ parserWords) : ofParserWord word = other word := by
  simp only [parserWords, List.mem_cons, List.not_mem_nil, or_false, not_or] at h
  simp [ofParserWord, h]

/-- A text spells a named kind or none. -/
theorem ofText_cases (word : String) : (ofText word ∈ named ∧ word = (ofText word).text) ∨
    (ofText word = other word ∧ ∀ k ∈ named, word ≠ k.text) := by
  unfold ofText
  cases h : named.find? fun k => k.text = word with
  | none => exact .inr ⟨rfl, fun k hk => by simpa [eq_comm] using List.find?_eq_none.1 h k hk⟩
  | some k => exact .inl ⟨List.mem_of_find?_eq_some h, by simpa [eq_comm] using List.find?_some h⟩

theorem ofText_text_of_named : ∀ k ∈ named, ofText k.text = k := by decide

theorem ofText_ne_function (h : word ∉ parserWords) : ofText word ≠ function := by
  intro e
  rcases ofText_cases word with ⟨-, hword⟩ | ⟨hother, -⟩
  · rw [e] at hword
    exact h (hword ▸ by decide)
  · rw [hother] at e
    cases e

/-- The kind of a parser's word is read back unless the word spells another named kind than
`function`. -/
theorem ofText_ofParserWord_iff : ofText (ofParserWord word).text = ofParserWord word ↔
    ∀ k ∈ named, k ≠ function → word ≠ k.text := by
  by_cases h : word ∈ parserWords
  · obtain ⟨hread, hspell⟩ := ofText_text_of_mem word h
    exact iff_of_true hread hspell
  · rw [ofParserWord_of_not_mem h, text]
    rcases ofText_cases word with ⟨hnamed, hword⟩ | ⟨hother, hspell⟩
    · have hnot : ofText word ≠ other word := by
        intro e
        rw [e] at hnamed
        simp [named] at hnamed
      exact iff_of_false hnot fun hspell => hspell _ hnamed (ofText_ne_function h) hword
    · exact iff_of_true hother fun k hk _ => hspell k hk

/-- Whether it is callable is read back unless the word spells a kind of method. -/
theorem isCallable_ofText_ofParserWord_iff :
    (ofText (ofParserWord word).text).isCallable = (ofParserWord word).isCallable ↔
      ∀ k ∈ named, k.isMethod = true → word ≠ k.text := by
  by_cases h : word ∈ parserWords
  · obtain ⟨hread, hspell⟩ := ofText_text_of_mem word h
    refine iff_of_true (congrArg isCallable hread) fun k hk hmethod => hspell k hk ?_
    rintro rfl
    cases hmethod
  · rw [ofParserWord_of_not_mem h, text, show (other word).isCallable = false from rfl]
    rcases ofText_cases word with ⟨hnamed, hword⟩ | ⟨hother, hspell⟩
    · refine ⟨fun hcall k hk hmethod hspell => ?_, fun hmethods => ?_⟩
      · rw [hspell, ofText_text_of_named k hk] at hcall
        rw [isMethod, hcall] at hmethod
        cases hmethod
      · refine Bool.eq_false_iff.2 fun hcall => ?_
        exact hmethods _ hnamed (by simp [isMethod, hcall, ofText_ne_function h]) hword
    · exact iff_of_true (by rw [hother]; rfl) fun k hk _ => hspell k hk

end SymbolKind

/-! ## Indexes -/

namespace Index

open SymbolKind

variable {ix : Index} {s : Symbol}

theorem reread_eq_self_iff : ix.mapSymbols Symbol.reread = ix ↔
    ∀ s ∈ ix.all, ofText s.kind.text = s.kind := by
  refine mapSymbols_eq_self_iff.trans (forall₂_congr fun s _ => ⟨fun h => ?_, fun h => ?_⟩)
  · exact congrArg Symbol.kind h
  · rw [Symbol.reread, h]

/-- The callables fit the kinds that are read if reading changes no kind from or to a callable
one. -/
theorem wellFormed_reread_iff (hw : ix.WellFormed) : (ix.mapSymbols Symbol.reread).WellFormed ↔
    ∀ s ∈ ix.all, (ofText s.kind.text).isCallable = s.kind.isCallable := by
  have hread : ∀ {id s}, ix.get? id = some s →
      (ix.mapSymbols Symbol.reread).get? id = some s.reread := fun hs => by
    rw [get?_mapSymbols, hs, Option.map_some]
  refine ⟨fun h s hs => ?_, fun h => ⟨fun e he => ?_, fun id => ?_⟩⟩
  · obtain ⟨id, hid⟩ := mem_all.1 hs
    exact (h.isCallable_of_get? (hread hid)).symm.trans (hw.isCallable_of_get? hid)
  · obtain ⟨d, hd, rfl⟩ := List.mem_map.1 he
    exact hw.keyed d hd
  · refine (hw.callable id).trans ⟨?_, ?_⟩
    · rintro ⟨s, hs, hcall⟩
      exact ⟨s.reread, hread hs, (h s (mem_all.2 ⟨id, hs⟩)).trans hcall⟩
    · rintro ⟨t, ht, hcall⟩
      obtain ⟨s, hs, rfl⟩ := Option.map_eq_some_iff.1 ((get?_mapSymbols ..).symm.trans ht)
      exact ⟨s, hs, (h s (mem_all.2 ⟨id, hs⟩)).symm.trans hcall⟩

/-- A linked symbol has a kind that is read back. -/
theorem ofText_kind_ofDocuments {docs : List Document} (hs : s ∈ (ofDocuments docs).all) :
    ofText s.kind.text = s.kind := by
  obtain ⟨id, hid⟩ := mem_all.1 hs
  rw [get?_ofDocuments, Option.map_eq_some_iff] at hid
  obtain ⟨d, -, rfl⟩ := hid
  show ofText (ofText d.kind).text = ofText d.kind
  rw [text_ofText]

/-- What reconciling makes of linked documents is read back with its kinds as they are spelled. This
is the same index exactly if the word of no span that becomes a symbol spells a named kind other
than that of functions, and its callables are still those of callable kind exactly if no such word
spells a kind of method. -/
theorem decode_reconcile_ofDocuments (docs : List Document) (c : Config) (spans : SpanTable) :
    let kept := ((ofDocuments docs).prefilter c {}).1
    let out := ((ofDocuments docs).reconcile c spans).index
    let read := out.mapSymbols Symbol.reread
    decode out.toJson = .ok read ∧
      (read = out ↔ (c.synthesizeUnmatched = true → ∀ p, kept.Adds spans p →
        ∀ k ∈ named, k ≠ .function → p.2.kind ≠ k.text)) ∧
      (read.WellFormed ↔ (c.synthesizeUnmatched = true → ∀ p, kept.Adds spans p →
        ∀ k ∈ named, k.isMethod = true → p.2.kind ≠ k.text)) := by
  intro kept out read
  have hkept : ∀ s ∈ kept.all, ofText s.kind.text = s.kind := fun s hs =>
    ofText_kind_ofDocuments (mem_all_of_retain hs)
  refine ⟨readsAs out, ?same, ?callables⟩
  case same =>
    refine reread_eq_self_iff.trans ?_
    refine (forall_reconcile_iff (fun _ _ _ _ => .rfl) hkept).trans ?_
    exact forall₃_congr fun _ _ _ => ofText_ofParserWord_iff
  case callables =>
    have hcallable : ∀ s ∈ kept.all, (ofText s.kind.text).isCallable = s.kind.isCallable :=
      fun s hs => congrArg SymbolKind.isCallable (hkept s hs)
    refine (wellFormed_reread_iff ((wellFormed_ofDocuments docs).reconcile c spans)).trans ?_
    refine (forall_reconcile_iff (fun _ _ _ _ => .rfl) hcallable).trans ?_
    exact forall₃_congr fun _ _ _ => isCallable_ofText_ofParserWord_iff

/-- The description of a class. -/
def classDocs : List Document :=
  [.symbol {
    id := "c", name := "C", scope := "", kind := "Class", language := "Cpp", declaration := none
    definition := some ⟨"a.cpp", .lines 1 1⟩, signature := "", returnType := "", typeName := "" }]

/-- A method that only the parser saw, with the parser's word for it. -/
def methodSpan (word : String) : Span :=
  ⟨"m", word, "Cpp", .lines 2 2, .lines 2 3, "m-span", none⟩

/-- The class and the method. -/
def classSpans (word : String) : SpanTable := .ofList
  [("a.cpp", .ofListKeepFirst
    [⟨"C", "CLASS_DECL", "Cpp", .lines 1 1, .lines 1 4, "c-span", none⟩, methodSpan word])]

/-- What reconciling makes of the class and the method. -/
def classIndex (word : String) : Index :=
  ((ofDocuments classDocs).reconcile {} (classSpans word)).index

theorem wellFormed_classIndex (word : String) : (classIndex word).WellFormed :=
  (wellFormed_ofDocuments classDocs).reconcile {} (classSpans word)

/-- With a word for methods the index is read back as it is. -/
theorem decode_reconcile_method :
    decode (classIndex "CXX_METHOD").toJson = .ok (classIndex "CXX_METHOD") ∧
      (classIndex "CXX_METHOD").isCallable "m-span" = true := by
  have hwords : ∀ p ∈ (classSpans "CXX_METHOD").filed,
      ∀ k ∈ named, k ≠ .function → p.2.kind ≠ k.text := by decide
  have hadds : ((ofDocuments classDocs).prefilter {} {}).1.Adds (classSpans "CXX_METHOD")
      ("a.cpp", methodSpan "CXX_METHOD") := ⟨by decide, by decide, by decide, by decide⟩
  obtain ⟨hread, hsame, -⟩ := decode_reconcile_ofDocuments classDocs {} (classSpans "CXX_METHOD")
  obtain ⟨parent, hget⟩ := hadds.exists_get? rfl
  rw [hsame.2 fun _ p hp => hwords p hp.filed] at hread
  exact ⟨hread, (wellFormed_classIndex "CXX_METHOD").isCallable_of_get? hget⟩

/-- A parser that spells the kind as the index does gives a method that is not callable, and it is
read back as one whose kind is. -/
theorem decode_reconcile_spelled :
    ∃ read, decode (classIndex "InstanceMethod").toJson = .ok read ∧
      read ≠ classIndex "InstanceMethod" ∧
      (read.get? "m-span").map (·.isCallable) = some true ∧ read.isCallable "m-span" = false := by
  have hadds : ((ofDocuments classDocs).prefilter {} {}).1.Adds (classSpans "InstanceMethod")
      ("a.cpp", methodSpan "InstanceMethod") := ⟨by decide, by decide, by decide, by decide⟩
  obtain ⟨parent, hget⟩ := hadds.exists_get? rfl
  have hcall : (classIndex "InstanceMethod").isCallable "m-span" = false :=
    (wellFormed_classIndex "InstanceMethod").isCallable_of_get? hget
  have hbefore : ((classIndex "InstanceMethod").get? "m-span").map (·.isCallable) = some false :=
    congrArg (Option.map Symbol.isCallable) hget
  have hafter : (((classIndex "InstanceMethod").mapSymbols Symbol.reread).get? "m-span").map
      (·.isCallable) = some true := by
    rw [get?_mapSymbols]
    exact congrArg (fun o => (o.map Symbol.reread).map Symbol.isCallable) hget
  refine ⟨(classIndex "InstanceMethod").mapSymbols Symbol.reread, readsAs _, fun h => ?_, hafter,
    hcall⟩
  rw [h, hbefore] at hafter
  cases hafter

end Index

end SymbolAtlas
