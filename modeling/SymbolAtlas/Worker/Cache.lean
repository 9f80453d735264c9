import SymbolAtlas.Location
import SymbolAtlas.Path.Project
import SymbolAtlas.SourceFile
import SymbolAtlas.Worker.Macros

/-!
# Caches of a parse worker

A worker remembers which headers it has claimed and which declarations in headers it has seen, each
under the macro flags of the time: one header under other flags is another header.
-/

namespace SymbolAtlas

open Std

/-- A header under the macro flags with a certain hash. -/
structure HeaderKey where
  file : String
  macros : String
  deriving DecidableEq, Repr

namespace HeaderKey

instance : Ord HeaderKey := ⟨compareLex (compareOn file) (compareOn macros)⟩

instance : TransOrd HeaderKey := inferInstanceAs (TransCmp (compareLex _ _))

instance : LawfulEqOrd HeaderKey where
  eq_of_compare {a b} h := by
    have h : compareLex (compareOn file) (compareOn macros) a b = .eq := h
    simp only [compareLex_eq_eq, compareOn, LawfulEqOrd.compare_eq_iff_eq] at h
    cases a; cases b; simp_all

end HeaderKey

/-- A declaration in a header. -/
structure DeclarationKey where
  header : HeaderKey
  name : String
  position : Position
  deriving DecidableEq, Repr

namespace DeclarationKey

instance : Ord DeclarationKey :=
  ⟨compareLex (compareOn header) (compareLex (compareOn name) (compareOn position))⟩

instance : TransOrd DeclarationKey := inferInstanceAs (TransCmp (compareLex _ (compareLex _ _)))

instance : LawfulEqOrd DeclarationKey where
  eq_of_compare {a b} h := by
    have h : compareLex (compareOn header)
      (compareLex (compareOn name) (compareOn position)) a b = .eq := h
    simp only [compareLex_eq_eq, compareOn, LawfulEqOrd.compare_eq_iff_eq] at h
    cases a; cases b; simp_all

end DeclarationKey

structure Worker where
  project : Project
  /-- The hash of the current macro flags. -/
  macros : String
  headers : KeySet HeaderKey
  declarations : KeySet DeclarationKey

namespace Worker

/-- A worker that has seen nothing, under no macro flags. -/
def start (project : Project) : Worker := ⟨project, (∅ : Macros).hash, ∅, ∅⟩

/-- Go on to a translation unit with these flags. -/
def enter (w : Worker) (m : Macros) : Worker := { w with macros := m.hash }

/-- The key of a header under the current flags. -/
def headerKey (w : Worker) (file : String) : HeaderKey := ⟨file, w.macros⟩

def isClaimed (w : Worker) (file : String) : Bool := w.headers.contains (w.headerKey file)

/-- Claim a header; it succeeds the first time under the current flags. -/
def claim (w : Worker) (file : String) : Bool × Worker :=
  (!w.isClaimed file, { w with headers := w.headers.insert (w.headerKey file) })

/-- Whether a declaration is worth a span: outside headers always, in a header the first time it is
seen under the current flags. -/
def declare (w : Worker) (file name : String) (position : Position) : Bool × Worker :=
  if (SourceFile.ofPath (.ofText file)).isHeader then
    let key : DeclarationKey := ⟨w.headerKey file, name, position⟩
    (!w.declarations.contains key, { w with declarations := w.declarations.insert key })
  else (true, w)

/-- Files outside the project give no spans. -/
def accepts (w : Worker) (file : Path) : Bool := w.project.contains file

end Worker

end SymbolAtlas
