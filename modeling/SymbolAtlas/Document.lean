import SymbolAtlas.Symbol

/-!
# Index documents

The stream an indexer writes: descriptions of symbols, lists of references to a symbol, and
relations between symbols, in any order.
-/

namespace SymbolAtlas

structure SymbolDoc where
  id : String
  name : String
  scope : String
  kind : String
  language : String
  declaration : Option Location
  definition : Option Location
  signature : String
  returnType : String
  typeName : String
  deriving DecidableEq, Repr

structure RefsDoc where
  id : String
  references : List Reference
  deriving DecidableEq, Repr

structure RelationDoc where
  subject : String
  predicate : UInt32
  object : String
  deriving DecidableEq, Repr

/-- One document of the stream. -/
inductive Document where
  | symbol (doc : SymbolDoc)
  | refs (doc : RefsDoc)
  | relation (doc : RelationDoc)
  deriving DecidableEq, Repr

/-- The symbol a document describes, without references. -/
def SymbolDoc.symbol (d : SymbolDoc) : Symbol where
  id := d.id
  name := d.name
  kind := .ofText d.kind
  declaration := d.declaration
  definition := d.definition
  scope := d.scope
  language := d.language
  signature := d.signature
  returnType := d.returnType
  typeName := d.typeName

/-- The subject is a base class of the object. -/
def RelationDoc.baseOf : UInt32 := 0

/-- The subject method is overridden by the object method. -/
def RelationDoc.overriddenBy : UInt32 := 1

end SymbolAtlas
