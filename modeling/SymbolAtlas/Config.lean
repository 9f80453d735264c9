import SymbolAtlas.Error
import SymbolAtlas.Text.Blank

/-!
# Configuration

What a run of the atlas does beyond its inputs, with defaults for everything. `Config.validate`
asks for an absolute project root, if there is one, and for at least one scope relation.
-/

namespace SymbolAtlas

/-- The relations that a scope follows for one step. -/
structure ScopeRelations where
  /-- Callers and callees. -/
  calls : Bool := true
  lexicalParent : Bool := true
  /-- The namespace that a member's scope names. -/
  namespaceParent : Bool := true
  /-- Base and derived classes. -/
  inheritance : Bool := true
  /-- Overridden and overriding methods. -/
  overrides : Bool := true
  children : Bool := true
  deriving DecidableEq, Repr, Inhabited

def ScopeRelations.any (r : ScopeRelations) : Bool :=
  r.calls || r.lexicalParent || r.namespaceParent || r.inheritance || r.overrides || r.children

structure Config where
  /-- Symbols outside this directory are dropped, namespaces excepted. -/
  projectRoot : Option String := none
  /-- Drop symbols with neither a definition nor a declaration. -/
  dropUnlocated : Bool := true
  /-- Make symbols for spans that no symbol matches. -/
  synthesizeUnmatched : Bool := true
  /-- Keep the calls by callee as well. -/
  reverseCalls : Bool := false
  /-- Refuse a scope none of whose seeds is known. -/
  requireSeeds : Bool := false
  relations : ScopeRelations := {}
  deriving DecidableEq, Repr, Inhabited

namespace Config

/-- A build of everything. -/
def fullBuild : Config := { reverseCalls := true }

/-- An update within one project. -/
def incremental (root : String) : Config := { projectRoot := some root, requireSeeds := true }

def checkRoot (root : String) : Except ConfigError Unit :=
  if Text.isAllBlank root then .error .emptyRoot
  else if (Path.ofText root).isAbsolute then .ok ()
  else .error (.relativeRoot root)

def validate (c : Config) : Except ConfigError Unit := do
  if let some root := c.projectRoot then checkRoot root
  if !c.relations.any then .error .noRelation

end Config

end SymbolAtlas
