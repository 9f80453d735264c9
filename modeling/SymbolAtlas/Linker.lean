import SymbolAtlas.Document
import SymbolAtlas.Index

/-!
# Linking documents

A `Linker` gathers documents from any number of batches. `Linker.link` attaches the references to
the symbols they are about, takes the format of the index from what it attached, and sorts the
relations by predicate. References to unknown symbols and unknown predicates do not count.
-/

namespace SymbolAtlas

structure Linker where
  symbols : Table String Symbol := ∅
  references : List RefsDoc := []
  relations : List RelationDoc := []
  deriving DecidableEq, Inhabited

/-- What the references of an index carry, as far as it has been seen. -/
structure Format where
  hasContainers : Bool
  hasCallKind : Bool
  deriving DecidableEq, Repr

/-- A container settles both questions; without one the call bit settles the second. -/
def Format.observe (f : Format) (r : Reference) : Format :=
  if !f.hasContainers && r.containerId.isSome then ⟨true, true⟩
  else if !f.hasCallKind && r.kind.reachesCall then { f with hasCallKind := true }
  else f

namespace Linker

instance : EmptyCollection Linker := ⟨{}⟩

/-- Of several descriptions of one symbol the last counts. -/
def add (l : Linker) : Document → Linker
  | .symbol d => { l with symbols := l.symbols.insert d.id d.symbol }
  | .refs d => { l with references := l.references ++ [d] }
  | .relation d => { l with relations := l.relations ++ [d] }

def addAll (l : Linker) (ds : List Document) : Linker := ds.foldl add l

/-- Add what another linker has gathered, after one's own. -/
def extend (l other : Linker) : Linker where
  symbols := other.symbols.entries.foldl (fun t e => t.insert e.1 e.2) l.symbols
  references := l.references ++ other.references
  relations := l.relations ++ other.relations

/-- Attach one document's references, if its symbol is known. -/
def attach (state : Table String Symbol × Format) (d : RefsDoc) : Table String Symbol × Format :=
  if state.1.contains d.id then
    (state.1.modify d.id fun s => { s with references := s.references ++ d.references },
     d.references.foldl Format.observe state.2)
  else state

/-- The pairs of the relations with a predicate, in order. -/
def pairs (l : Linker) (predicate : UInt32) : List Relation :=
  (l.relations.filter (·.predicate = predicate)).map fun d => ⟨d.subject, d.object⟩

def link (l : Linker) : Index :=
  let (symbols, format) := l.references.foldl attach (l.symbols, ⟨false, false⟩)
  { Index.ofSymbols symbols.values with
    hasContainers := format.hasContainers
    hasCallKind := format.hasCallKind
    inheritance := l.pairs RelationDoc.baseOf
    overrides := l.pairs RelationDoc.overriddenBy }

end Linker

end SymbolAtlas
