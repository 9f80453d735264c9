import SymbolAtlas.Path.FileUri

/-!
# Errors

What can be wrong with index documents and file URIs (`IndexError`), and with a request to the
atlas (`AtlasError`), each with its message.
-/

namespace SymbolAtlas

inductive IndexError where
  /-- An index document is no object. -/
  | notAnObject
  /-- An index document names nothing it is about. -/
  | unidentified
  /-- A text is not JSON. -/
  | notJson
  /-- An object has the fields of no kind of document. -/
  | noVariant
  | noLocalPath (uri : String) (why : UriError)
  | relativePath (path : String)
  deriving DecidableEq, Repr

inductive IndexError.Family where
  | malformedDocument
  | invalidUri
  | serialization
  deriving DecidableEq, Repr

namespace IndexError

def family : IndexError → Family
  | notAnObject | unidentified => .malformedDocument
  | notJson | noVariant => .serialization
  | noLocalPath .. | relativePath _ => .invalidUri

/-- The message; the text of a syntax error is not part of it. -/
def message : IndexError → Option String
  | notAnObject => some "Malformed index document: document is not an object"
  | unidentified => some "Malformed index document: document has neither ID nor Subject"
  | notJson => none
  | noVariant =>
    some "Serialization error: data did not match any variant of untagged enum RawDocument"
  | noLocalPath uri why => some ("Invalid file URI: " ++ uri ++ ": " ++ why.message)
  | relativePath path => some ("Invalid file URI: " ++ path ++ ": path is not absolute")

end IndexError

/-- The local path of a URI. -/
def pathOfUri (uri : String) : Except IndexError Path :=
  match FileUri.path uri with
  | .ok p => .ok p
  | .error why => .error (.noLocalPath uri why)

/-- The URI of an absolute path. -/
def uriOfPath (p : Path) : Except IndexError String :=
  match FileUri.ofPath? p with
  | some uri => .ok uri
  | none => .error (.relativePath p.text)

/-- An input table that must be there. -/
inductive InputTable where
  | symbolIndex
  | spanTable
  deriving DecidableEq, Repr

inductive ConfigError where
  /-- The text is neither JSON nor TOML. -/
  | unreadable
  /-- The value is no configuration. -/
  | undecodable (message : String)
  | emptyRoot
  | relativeRoot (root : String)
  | noRelation
  deriving DecidableEq, Repr

def ConfigError.message : ConfigError → Option String
  | unreadable => none
  | undecodable m => some ("Invalid configuration: config parse error: " ++ m)
  | emptyRoot => some "Invalid configuration: project_root must not be empty"
  | relativeRoot root => some ("Invalid configuration: project_root must be absolute, got " ++ root)
  | noRelation => some "Invalid configuration: at least one scope relation must be enabled"

inductive AtlasError where
  | missingTable (table : InputTable)
  | noSeedPresent (requested : Nat)
  | nodeNotFound (id : String)
  | invalidConfig (why : ConfigError)
  | index (why : IndexError)
  deriving DecidableEq, Repr

def AtlasError.message : AtlasError → Option String
  | missingTable .symbolIndex => some "Missing input: symbol index"
  | missingTable .spanTable => some "Missing input: source span table"
  | noSeedPresent n =>
    some ("Missing input: none of the " ++ toString n ++
      " requested seeds is in the symbol table")
  | nodeNotFound id => some ("Node not found: " ++ id)
  | invalidConfig why => why.message
  | index why => why.message

end SymbolAtlas
