/-!
# Kinds of symbols

The kinds an index names, each with its spelling (`SymbolKind.text`, read back by
`SymbolKind.ofText`), the classes of kinds the rest of the library asks about, and the kind a span
parser's word stands for. A word that names no kind is kept as it is.
-/

namespace SymbolAtlas

inductive SymbolKind where
  | function
  | instanceMethod
  | staticMethod
  | constructor
  | destructor
  | conversion
  | classType
  | structType
  | unionType
  | enumType
  | enumConstant
  | field
  | staticProperty
  | var
  | nameSpace
  | typeAlias
  | other (word : String)
  deriving DecidableEq, Repr, Inhabited

namespace SymbolKind

def text : SymbolKind → String
  | function => "Function"
  | instanceMethod => "InstanceMethod"
  | staticMethod => "StaticMethod"
  | constructor => "Constructor"
  | destructor => "Destructor"
  | conversion => "ConversionFunction"
  | classType => "Class"
  | structType => "Struct"
  | unionType => "Union"
  | enumType => "Enum"
  | enumConstant => "EnumConstant"
  | field => "Field"
  | staticProperty => "StaticProperty"
  | var => "Variable"
  | nameSpace => "Namespace"
  | typeAlias => "TypeAlias"
  | other word => word

/-- The kinds with a spelling of their own. -/
def named : List SymbolKind :=
  [function, instanceMethod, staticMethod, constructor, destructor, conversion, classType,
   structType, unionType, enumType, enumConstant, field, staticProperty, var, nameSpace, typeAlias]

def ofText (word : String) : SymbolKind := (named.find? fun k => k.text = word).getD (other word)

theorem text_ofText (word : String) : (ofText word).text = word := by
  unfold ofText
  cases h : named.find? fun k => k.text = word with
  | none => rfl
  | some k => simpa using List.find?_some h

/-- Functions and methods of every flavour. -/
def isCallable : SymbolKind → Bool
  | function | instanceMethod | staticMethod | constructor | destructor | conversion => true
  | _ => false

def isMethod (k : SymbolKind) : Bool := k.isCallable && k ≠ function

/-- Entities that never own a body. -/
def isMemberLike : SymbolKind → Bool
  | field | staticProperty | var | enumConstant => true
  | _ => false

def isOther : SymbolKind → Bool
  | other _ => true
  | _ => false

/-- The kind that a span parser's word stands for. -/
def ofParserWord (word : String) : SymbolKind :=
  if ["FUNCTION_DECL", "FUNCTION_TEMPLATE", "Function"].contains word then function
  else if word = "CXX_METHOD" then instanceMethod
  else if word = "CONSTRUCTOR" then constructor
  else if word = "DESTRUCTOR" then destructor
  else if word = "CONVERSION_FUNCTION" then conversion
  else if word = "STRUCT_DECL" then structType
  else if word = "UNION_DECL" then unionType
  else if word = "ENUM_DECL" then enumType
  else if ["CLASS_DECL", "CLASS_TEMPLATE", "CLASS_TEMPLATE_PARTIAL_SPECIALIZATION"].contains word then
    classType
  else other word

end SymbolKind

end SymbolAtlas
