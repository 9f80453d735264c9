import SymbolAtlas.Path.FileUri

/-!
# Paths within a project

Files are told apart by their path relative to the project root, by components alone: the file
system is never asked.
-/

namespace SymbolAtlas

structure Project where
  /-- The normalized components of the root. -/
  root : List Path.Component
  deriving DecidableEq, Repr

namespace Project

def ofPath (root : Path) : Project := ⟨root.normalize⟩

def rootPath (p : Project) : Path := Path.ofComponents p.root

def contains (p : Project) (path : Path) : Bool := p.root.isPrefixOf path.normalize

/-- A URI without a local path is in no project. -/
def containsUri (p : Project) (uri : String) : Bool :=
  match FileUri.path uri with
  | .ok path => p.contains path
  | .error _ => false

/-- The normalized path, without the root if it lies below it. -/
def relative (p : Project) (path : Path) : Path :=
  let cs := path.normalize
  Path.ofComponents (if p.root.isPrefixOf cs then cs.drop p.root.length else cs)

/-- The name of a file in the project: relative below the root, absolute outside it. A URI without
a local path names itself. -/
def key (p : Project) (uri : String) : String :=
  match FileUri.path uri with
  | .ok path => (p.relative path).text
  | .error _ => uri

end Project

end SymbolAtlas
