import SymbolAtlas.Text.Utf8

/-!
# Unix paths

A path is a list of bytes, read as its components. `Path.normalize` removes `.` and resolves `..`
by the components alone: nothing climbs above the root, nor above the start of a relative path.
-/

namespace SymbolAtlas

/-- The bytes of a path. -/
abbrev Path := List UInt8

namespace Path

def slash : UInt8 := 47

def dot : UInt8 := 46

/-- A part of a path between slashes. -/
inductive Component where
  | root
  | here
  | up
  | name (bytes : List UInt8)
  deriving DecidableEq, Repr

def isAbsolute (p : Path) : Bool := p.head? = some slash

/-- A piece as a component; empty pieces and `.` are none. -/
def componentOf (piece : List UInt8) : Option Component :=
  if piece = [] ∨ piece = [dot] then none
  else if piece = [dot, dot] then some .up
  else some (.name piece)

/-- The components; a relative path may start with `.`. -/
def components (p : Path) : List Component :=
  let ps := p.splitOn slash
  let first := if p.isAbsolute then [.root] else if ps.head? = some [dot] then [.here] else []
  first ++ ps.filterMap componentOf

def Component.bytes : Component → List UInt8
  | root => []
  | here => [dot]
  | up => [dot, dot]
  | name bytes => bytes

/-- The path of components, with one slash between neighbours. -/
def ofComponents : List Component → Path
  | [.root] => [slash]
  | cs => [slash].intercalate (cs.map Component.bytes)

/-- Follow one more component lexically. -/
def follow (stack : List Component) : Component → List Component
  | .here => stack
  | .root => [.root]
  | .up =>
    match stack.getLast? with
    | some (.name _) => stack.dropLast
    | _ => stack
  | .name n => stack ++ [.name n]

/-- The components without `.`, and with `..` resolved. -/
def normalize (p : Path) : List Component := p.components.foldl follow []

/-- The last component, if it is a name. -/
def fileName? (p : Path) : Option (List UInt8) :=
  match p.components.getLast? with
  | some (.name n) => some n
  | _ => none

/-- What follows the last dot of the file name, unless that dot comes first. -/
def extension? (p : Path) : Option (List UInt8) := do
  let name ← p.fileName?
  let parts := name.splitOn dot
  if parts.length < 2 || (parts.length = 2 && parts.head? = some []) then none else parts.getLast?

def ofText (s : String) : Path := Text.utf8 s

/-- The text of a path, with U+FFFD for what is not UTF-8. -/
def text (p : Path) : String := Text.lossy p

end Path

end SymbolAtlas
