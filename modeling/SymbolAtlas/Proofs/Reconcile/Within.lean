import SymbolAtlas.Atlas
import SymbolAtlas.Proofs.Reconcile.Added

/-!
# Symbols within the project root

The filter drops what lies outside the project root and is no namespace (`Index.within_prefilter`).
Spans are not filtered, so the result of a run lies within the root exactly if the spans that become
symbols do (`Atlas.build_within_iff`).
-/

namespace SymbolAtlas

/-- If it is located and no namespace, the symbol is located in the project. -/
def Symbol.Within (s : Symbol) (project : Project) : Prop :=
  s.kind ≠ .nameSpace → ∀ l, s.primary = some l → project.containsUri l.file = true

theorem SymbolKind.ofParserWord_ne_nameSpace (word : String) : ofParserWord word ≠ .nameSpace := by
  unfold ofParserWord
  repeat' split
  all_goals exact nofun

/-- What becomes of a span is in the project if the file is. -/
theorem Span.within_symbol {project : Project} {file : String} {a : Span} :
    (a.symbol file).Within project ↔ project.containsUri file = true := by
  refine ⟨fun h => ?_, fun h _ l hl => ?_⟩
  · exact h (SymbolKind.ofParserWord_ne_nameSpace a.kind) ⟨file, a.nameRange⟩ rfl
  · have hl : some (⟨file, a.nameRange⟩ : Location) = some l := hl
    rwa [← Option.some.inj hl]

/-- Every symbol is in the project or exempt from being there. -/
def Index.Within (ix : Index) (project : Project) : Prop := ∀ s ∈ ix.all, s.Within project

theorem Index.within_prefilter {c : Config} {root : String} (hroot : c.projectRoot = some root)
    (ix : Index) : (ix.prefilter c {}).1.Within (.ofPath (.ofText root)) := by
  intro s hs hkind l hl
  have hkept : (c.dropReason s).isNone = true := by
    rw [prefilter, all_retain] at hs
    exact (List.mem_filter.1 hs).2
  simpa [Config.dropReason, hl, hroot, hkind] using hkept

theorem Atlas.build_of_valid {c : Config} (h : c.validate = .ok ()) (ix : Index)
    (spans : SpanTable) : build c (some ix) (some spans) = .ok (run c ix spans) := by
  simp only [build, h]

/-- A run within a project root gives symbols that lie within the root, namespaces excepted, exactly
if every span that becomes a symbol is in a file within the root: dropped symbols do not come back
otherwise. -/
theorem Atlas.build_within_iff {c : Config} {root : String} (hvalid : c.validate = .ok ())
    (hroot : c.projectRoot = some root) (ix : Index) (spans : SpanTable) :
    ∃ a, build c (some ix) (some spans) = .ok a ∧
      (a.index.Within (.ofPath (.ofText root)) ↔ (c.synthesizeUnmatched = true →
        ∀ p, (ix.prefilter c {}).1.Adds spans p →
          (Project.ofPath (.ofText root)).containsUri p.1 = true)) := by
  refine ⟨run c ix spans, build_of_valid hvalid ix spans, ?_⟩
  have hsymbols := Index.within_prefilter hroot ix
  refine (Index.forall_reconcile_iff (fun _ _ _ _ => .rfl) hsymbols).trans ?_
  simp only [Span.within_symbol]

/-- A function of the system and one of the project. -/
def systemIndex : Index := .ofSymbols
  [{ id := "f", name := "f", kind := .function, definition := some ⟨"file:///r/f.c", .lines 1 1⟩ },
    { id := "g", name := "g", kind := .function, definition := some ⟨"file:///g.h", .lines 1 1⟩ }]

/-- The span of a function. -/
def functionSpan (name : String) (line : UInt32) : Span :=
  ⟨name, "FUNCTION_DECL", "C", .lines line line, .lines line line, name ++ "-span", none⟩

/-- A file of the project with a function that the index does not know. -/
def projectSpans : SpanTable :=
  .ofList [("file:///r/f.c", .ofListKeepFirst [functionSpan "f" 1, functionSpan "h" 2])]

/-- The same with the header that declares the function of the system. -/
def systemSpans : SpanTable :=
  projectSpans.insert "file:///g.h" (.ofListKeepFirst [functionSpan "g" 1])

/-- The function of the system goes, and the one that becomes a symbol is of the project. -/
theorem Atlas.build_within_project :
    (Config.incremental "/r").validate = .ok () ∧
      ∃ a, build (.incremental "/r") (some systemIndex) (some projectSpans) = .ok a ∧
        a.index.Within (.ofPath (.ofText "/r")) ∧ a.index.contains "h-span" = true := by
  have hvalid : (Config.incremental "/r").validate = .ok () := by cbv
  have hfiles : ∀ p ∈ projectSpans.filed,
      (Project.ofPath (.ofText "/r")).containsUri p.1 = true := by decide +kernel
  have hnew : ∃ p ∈ projectSpans.filed,
      (systemIndex.prefilter (.incremental "/r") {}).1.Unmatched p ∧ p.2.id = "h-span" := by
    decide +kernel
  obtain ⟨a, ha, hiff⟩ := build_within_iff hvalid rfl systemIndex projectSpans
  refine ⟨hvalid, a, ha, hiff.2 fun _ p hp => hfiles p hp.filed, ?_⟩
  rw [build_of_valid hvalid, Except.ok.injEq] at ha
  subst ha
  exact Index.contains_reconcile.2 (.inr ⟨rfl, hnew⟩)

/-- The function of the system goes and comes back as the span of its declaration. -/
theorem Atlas.build_brings_back :
    (Config.incremental "/r").validate = .ok () ∧
      (systemIndex.prefilter (.incremental "/r") {}).1.ids = ["f"] ∧
      ∃ a s, build (.incremental "/r") (some systemIndex) (some systemSpans) = .ok a ∧
        a.index.get? "g-span" = some s ∧ s.name = "g" ∧ s.file = some "file:///g.h" ∧
        ¬a.index.Within (.ofPath (.ofText "/r")) := by
  have hvalid : (Config.incremental "/r").validate = .ok () := by cbv
  have hadds : (systemIndex.prefilter (.incremental "/r") {}).1.Adds systemSpans
      ("file:///g.h", functionSpan "g" 1) :=
    ⟨by decide, by decide +kernel, by decide +kernel, by decide +kernel⟩
  have hoff : (Project.ofPath (.ofText "/r")).containsUri "file:///g.h" = false := by decide +kernel
  obtain ⟨parent, hget⟩ := hadds.exists_get? rfl
  refine ⟨hvalid, by decide +kernel, _, _, build_of_valid hvalid systemIndex systemSpans, hget, rfl,
    rfl, fun hall => ?_⟩
  have hkind := SymbolKind.ofParserWord_ne_nameSpace "FUNCTION_DECL"
  have hin := hall _ (Index.mem_all.2 ⟨_, hget⟩) hkind ⟨"file:///g.h", .lines 1 1⟩ rfl
  rw [hoff] at hin
  cases hin

end SymbolAtlas
