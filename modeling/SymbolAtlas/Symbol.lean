import SymbolAtlas.Reference
import SymbolAtlas.Symbol.Kind

/-!
# Symbols

A `Symbol` is a program entity as the index describes it. Its body and its parent come from the
spans of the source.
-/

namespace SymbolAtlas

structure Symbol where
  id : String
  name : String
  kind : SymbolKind
  declaration : Option Location := none
  definition : Option Location := none
  references : List Reference := []
  /-- The qualified name of the enclosing scope, with its separator at the end. -/
  scope : String := ""
  language : String := ""
  signature : String := ""
  returnType : String := ""
  typeName : String := ""
  /-- The full lexical extent. -/
  body : Option Range := none
  /-- The id of the lexically enclosing symbol. -/
  parentId : Option String := none
  /-- The id of the type that an alias names. -/
  aliasedId : Option String := none
  aliasedKind : Option String := none
  aliasedSpelling : Option String := none
  deriving DecidableEq, Repr, Inhabited

/-- The label a symbol is filed under in the graph. -/
inductive NodeLabel where
  | nameSpace
  | function
  | method
  | classStructure
  | dataStructure
  | field
  | var
  | typeAlias
  deriving DecidableEq, Repr

def NodeLabel.text : NodeLabel → String
  | nameSpace => "NAMESPACE"
  | function => "FUNCTION"
  | method => "METHOD"
  | classStructure => "CLASS_STRUCTURE"
  | dataStructure => "DATA_STRUCTURE"
  | field => "FIELD"
  | var => "VARIABLE"
  | typeAlias => "TYPE_ALIAS"

def NodeLabel.all : List NodeLabel :=
  [nameSpace, function, method, classStructure, dataStructure, field, var, typeAlias]

namespace Symbol

/-- The definition, or else the declaration. -/
def primary (s : Symbol) : Option Location := s.definition.or s.declaration

def file (s : Symbol) : Option String := s.primary.map (·.file)

/-- Whether the definition or the declaration lies in a file that `wanted` accepts. -/
def locatedWhere (s : Symbol) (wanted : String → Bool) : Bool :=
  s.definition.any (fun l => wanted l.file) || s.declaration.any fun l => wanted l.file

def isLocatedIn (s : Symbol) (file : String) : Bool := s.locatedWhere (· = file)

def isCallable (s : Symbol) : Bool := s.kind.isCallable

/-- A callable with a body denotes one function body. -/
def isFunctionBody (s : Symbol) : Bool := s.kind.isCallable && s.body.isSome

/-- The name of a namespace as its members' scopes spell it. -/
def qualifiedNamespace (s : Symbol) : Option String :=
  if s.kind = .nameSpace then some (s.scope ++ s.name ++ "::") else none

/-- Whether the language is C++, in either case of its letters. -/
def isCpp (s : Symbol) : Bool := s.language.toList.map Char.toLower = ['c', 'p', 'p']

/-- A struct counts as a class in C++ and as data elsewhere; other words than the named kinds have
no label. -/
def label (s : Symbol) : Option NodeLabel :=
  match s.kind with
  | .nameSpace => some .nameSpace
  | .function => some .function
  | .instanceMethod | .staticMethod | .constructor | .destructor | .conversion => some .method
  | .classType => some .classStructure
  | .structType => some (if s.isCpp then .classStructure else .dataStructure)
  | .unionType | .enumType => some .dataStructure
  | .field | .staticProperty | .enumConstant => some .field
  | .var => some .var
  | .typeAlias => some .typeAlias
  | .other _ => none

end Symbol

end SymbolAtlas
