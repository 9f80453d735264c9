import SymbolAtlas.Path

/-!
# Roles of source files

A file's extension, in either case of its letters, says whether it is compiled on its own.
-/

namespace SymbolAtlas

inductive SourceFile where
  | cSource
  | cppSource
  /-- A module interface unit. -/
  | cppModule
  | header
  | other
  deriving DecidableEq, Repr

namespace SourceFile

def ofExtension (ext : String) : SourceFile :=
  if ext = "c" then cSource
  else if ["cpp", "cc", "cxx"].contains ext then cppSource
  else if ["cppm", "ccm", "cxxm", "c++m"].contains ext then cppModule
  else if ["h", "hpp", "hh", "hxx", "h++"].contains ext then header
  else other

def ofPath (p : Path) : SourceFile :=
  match p.extension?.bind Text.ofUtf8? with
  | some ext => ofExtension (String.ofList (ext.toList.map Char.toLower))
  | none => other

def isTranslationUnit : SourceFile → Bool
  | cSource | cppSource | cppModule => true
  | _ => false

def isHeader (f : SourceFile) : Bool := f = header

end SourceFile

end SymbolAtlas
