import SymbolAtlas.Hash.Sha256
import SymbolAtlas.KeySet
import SymbolAtlas.Location
import SymbolAtlas.Text.Utf8

/-!
# Lexical spans

A `Span` is a named region of a source file. Its id is the hash of everything that describes it
(`Span.keyText`), so parsers that see one region independently agree on its id, and a `SpanSet`
holds at most one span of each id.
-/

namespace SymbolAtlas

structure Span where
  name : String
  /-- The parser's own word for the kind of region. -/
  kind : String
  language : String
  nameRange : Range
  body : Range
  id : String
  /-- The id of the span that encloses this one. -/
  parentId : Option String
  deriving DecidableEq, Repr, Inhabited

namespace Span

def coordinates (p : Position) : String := toString p.line ++ "_" ++ toString p.column

/-- The text that a span's id is the hash of. -/
def keyText (file name kind language : String) (nameStart : Position) (body : Range) : String :=
  file ++ "#" ++ name ++ "#" ++ kind ++ "#" ++ language ++ "#" ++ coordinates nameStart ++ "#" ++
    coordinates body.start ++ "_" ++ coordinates body.stop

/-- Half a SHA-256 digest of the key text. -/
def idFor (file name kind language : String) (nameRange body : Range) : String :=
  Sha256.hexDigest 16 (Text.utf8 (keyText file name kind language nameRange.start body))

def make (file name kind language : String) (nameRange body : Range) : Span :=
  { name, kind, language, nameRange, body
    id := idFor file name kind language nameRange body
    parentId := none }

/-- The empty region at a name, to ask what encloses an entity without a body. -/
def bareName (file name language : String) (nameRange : Range) : Span :=
  make file name "Field" language nameRange (.point nameRange.start)

/-- The kinds that are bare names whatever their extent. -/
def bareKinds : List String := ["Field", "Variable", "EnumConstant", "FIELD_DECL", "VAR_DECL"]

/-- Bare names and variables may sit in a body of one line. -/
def isBare (s : Span) : Bool := s.body.zeroWidth || bareKinds.contains s.kind

end Span

/-- Spans with pairwise distinct ids, in id order. -/
structure SpanSet where
  byId : Table String Span
  keyed : ∀ e ∈ byId.entries, e.1 = e.2.id

namespace SpanSet

instance : EmptyCollection SpanSet := ⟨⟨∅, by simp⟩⟩

instance : Inhabited SpanSet := ⟨∅⟩

instance : DecidableEq SpanSet := fun s t =>
  decidable_of_iff (s.byId = t.byId) ⟨fun h => by cases s; cases t; cases h; rfl, fun h => h ▸ rfl⟩

def toList (s : SpanSet) : List Span := s.byId.values

def ids (s : SpanSet) : List String := s.byId.keys

def size (s : SpanSet) : Nat := s.byId.size

def contains (s : SpanSet) (id : String) : Bool := s.byId.contains id

/-- Insert a span, in place of the one that has its id. -/
def insert (s : SpanSet) (a : Span) : SpanSet where
  byId := s.byId.insert a.id a
  keyed e h := by
    rcases Table.mem_put h with rfl | h
    · rfl
    · exact s.keyed e h

/-- Insert a span unless its id is taken. -/
def insertNew (s : SpanSet) (a : Span) : SpanSet := if s.contains a.id then s else s.insert a

/-- The set of a list; of several spans with one id the first stays. -/
def ofListKeepFirst (l : List Span) : SpanSet := l.foldl insertNew ∅

/-- The set of a list; of several spans with one id the last stays. -/
def ofListKeepLast (l : List Span) : SpanSet := l.foldl insert ∅

def union (s t : SpanSet) : SpanSet := t.toList.foldl insertNew s

end SpanSet

/-- The spans of each file. -/
abbrev SpanTable := Table String SpanSet

end SymbolAtlas
