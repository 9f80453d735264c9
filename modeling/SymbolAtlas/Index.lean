import SymbolAtlas.KeySet
import SymbolAtlas.Symbol

/-!
# The symbol index

Symbols by id, the set of ids of callables, the format flags of the references, and the lists of
inheritance and override pairs. `Index.WellFormed` says that the keys are the symbols' own ids and
that the callables are the symbols of callable kind; the operations keep it.
-/

namespace SymbolAtlas

open Std

/-- A pair of ids: a base and what derives from it, or a method and what overrides it. -/
structure Relation where
  base : String
  derived : String
  deriving DecidableEq, Repr, Inhabited

namespace Relation

instance : Ord Relation := ⟨compareLex (compareOn base) (compareOn derived)⟩

instance : TransOrd Relation := inferInstanceAs (TransCmp (compareLex _ _))

instance : LawfulEqOrd Relation where
  eq_of_compare {a b} h := by
    have h : compareLex (compareOn base) (compareOn derived) a b = .eq := h
    simp only [compareLex_eq_eq, compareOn, LawfulEqOrd.compare_eq_iff_eq] at h
    cases a; cases b; simp_all

end Relation

structure Index where
  symbols : Table String Symbol := ∅
  callables : KeySet String := ∅
  /-- References carry the id of their enclosing symbol. -/
  hasContainers : Bool := false
  /-- Reference kinds carry the call bit. -/
  hasCallKind : Bool := false
  inheritance : List Relation := []
  overrides : List Relation := []
  deriving DecidableEq, Inhabited

namespace Index

instance : EmptyCollection Index := ⟨{}⟩

/-- The keys are the symbols' ids, and the callables are those of callable kind. -/
structure WellFormed (ix : Index) : Prop where
  keyed : ∀ e ∈ ix.symbols.entries, e.1 = e.2.id
  callable : ∀ id, id ∈ ix.callables ↔ ∃ s, ix.symbols.get? id = some s ∧ s.isCallable = true

/-! ## Reading -/

def get? (ix : Index) (id : String) : Option Symbol := ix.symbols.get? id

def contains (ix : Index) (id : String) : Bool := ix.symbols.contains id

def size (ix : Index) : Nat := ix.symbols.size

def ids (ix : Index) : List String := ix.symbols.keys

/-- The symbols in id order. -/
def all (ix : Index) : List Symbol := ix.symbols.values

def isCallable (ix : Index) (id : String) : Bool := ix.callables.contains id

/-- The callable symbols in id order. -/
def callableSymbols (ix : Index) : List Symbol := ix.callables.toList.filterMap ix.get?

/-- Namespace ids by qualified name; of several namespaces with one name the last by id. -/
def namespaces (ix : Index) : Table String String :=
  Table.ofList (ix.all.filterMap fun s => s.qualifiedNamespace.map (·, s.id))

/-- The ids of the symbols defined or declared in one of the files. -/
def seedsIn (ix : Index) (files : List String) : KeySet String :=
  .ofList ((ix.all.filter fun s => s.locatedWhere files.contains).map (·.id))

/-! ## Building -/

/-- Insert a symbol, in place of the one that has its id. -/
def insert (ix : Index) (s : Symbol) : Index :=
  { ix with
    symbols := ix.symbols.insert s.id s
    callables := if s.isCallable then ix.callables.insert s.id else ix.callables.erase s.id }

def ofSymbols (l : List Symbol) : Index := l.foldl insert ∅

def withFormat (ix : Index) (hasContainers hasCallKind : Bool) : Index :=
  { ix with hasContainers, hasCallKind }

def withInheritance (ix : Index) (r : Relation) : Index :=
  { ix with inheritance := ix.inheritance ++ [r] }

def withOverride (ix : Index) (r : Relation) : Index := { ix with overrides := ix.overrides ++ [r] }

/-- Change every symbol, where `f` keeps ids and kinds. -/
def mapSymbols (ix : Index) (f : Symbol → Symbol) : Index :=
  { ix with symbols := ix.symbols.map f }

/-- Change the symbol under an id, where `f` keeps ids and kinds. -/
def modify (ix : Index) (id : String) (f : Symbol → Symbol) : Index :=
  { ix with symbols := ix.symbols.modify id f }

/-- The symbols that `keep` accepts. -/
def retain (ix : Index) (keep : Symbol → Bool) : Index :=
  let symbols := ix.symbols.filter fun _ s => keep s
  { ix with symbols, callables := ix.callables.filter symbols.contains }

/-- The symbols with an id in the set, and the pairs with both ends in it. -/
def restrict (ix : Index) (ids : KeySet String) : Index :=
  let kept := fun r : Relation => ids.contains r.base && ids.contains r.derived
  { ofSymbols (ids.toList.filterMap ix.get?) with
    hasContainers := ix.hasContainers
    hasCallKind := ix.hasCallKind
    inheritance := ix.inheritance.filter kept
    overrides := ix.overrides.filter kept }

end Index

end SymbolAtlas
