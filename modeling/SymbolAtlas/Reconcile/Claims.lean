import SymbolAtlas.Adjacency
import SymbolAtlas.Forest
import SymbolAtlas.Index
import SymbolAtlas.Table.Group

/-!
# Spans and the symbols that claim them

A span and a symbol meet at a `NameSite`: a name, its file and where it starts. `SpanLookup` finds
the spans of a site (one region may have been parsed in several languages) and the span of an id;
`Claims` records which symbol claimed which spans.
-/

namespace SymbolAtlas

open Std

structure NameSite where
  name : String
  file : String
  start : Position
  deriving DecidableEq, Repr

namespace NameSite

instance : Ord NameSite :=
  ⟨compareLex (compareOn name) (compareLex (compareOn file) (compareOn start))⟩

instance : TransOrd NameSite := inferInstanceAs (TransCmp (compareLex _ (compareLex _ _)))

instance : LawfulEqOrd NameSite where
  eq_of_compare {a b} h := by
    have h : compareLex (compareOn name)
      (compareLex (compareOn file) (compareOn start)) a b = .eq := h
    simp only [compareLex_eq_eq, compareOn, LawfulEqOrd.compare_eq_iff_eq] at h
    cases a; cases b; simp_all

end NameSite

/-- Where a span of a file has its name. -/
def Span.site (file : String) (s : Span) : NameSite := ⟨s.name, file, s.nameRange.start⟩

/-- Where a symbol's primary location has its name. -/
def Symbol.site (s : Symbol) : Option NameSite := s.primary.map fun l => ⟨s.name, l.file, l.start⟩

/-! ## Looking spans up -/

structure SpanLookup where
  forest : SpanForest
  /-- The spans of a site, by id. -/
  variants : Table NameSite (List Span)
  byId : Table String Span

namespace SpanLookup

/-- Every span of a forest with its file, in file order. -/
def located (forest : SpanForest) : List (String × Span) :=
  forest.entries.flatMap fun e => (FileForest.spans e.2).map (e.1, ·)

def idOrder (a b : Span) : Bool := compare a.id b.id ≠ .gt

/-- Of several spans with one id the last is found. -/
def ofForest (forest : SpanForest) : SpanLookup where
  forest
  variants := (Table.group (fun e => e.2.site e.1) (located forest)).map fun es =>
    (es.map (·.2)).mergeSort idOrder
  byId := Table.ofList ((located forest).map fun e => (e.2.id, e.2))

/-- The spans at the site of a symbol. -/
def atSite (l : SpanLookup) (s : Symbol) : List Span :=
  match s.site with
  | some site => l.variants.getD site []
  | none => []

/-- The number of sites with several spans. -/
def shared (l : SpanLookup) : Nat := l.variants.values.countP fun vs => 1 < vs.length

end SpanLookup

/-! ## Claims -/

structure Claims where
  /-- The symbol that claimed a span. -/
  owner : Table String String := ∅
  /-- The spans that a symbol claimed. -/
  owned : Adjacency := ∅

namespace Claims

instance : EmptyCollection Claims := ⟨{}⟩

/-- A symbol claims a span. A span has one owner, the last; what a symbol claimed stays its own. -/
def claim (c : Claims) (span symbol : String) : Claims where
  owner := c.owner.insert span symbol
  owned := c.owned.link symbol span

/-- The owner of a span; any other id stands for itself. -/
def resolve (c : Claims) (id : String) : String := c.owner.getD id id

/-- The span became the symbol, or the symbol claimed it. -/
def isOwn (c : Claims) (symbol span : String) : Bool :=
  symbol = span || (c.owned.of symbol).contains span

def size (c : Claims) : Nat := c.owner.size

/-- The first symbol at each site that has spans. -/
def claimants (l : SpanLookup) (symbols : List Symbol) : Table NameSite String :=
  symbols.foldl (fun t s =>
    match s.site with
    | some site => if l.variants.contains site then t.insertNew site s.id else t
    | none => t) ∅

/-- The spans that a symbol claims. -/
def spansOf (l : SpanLookup) (claimants : Table NameSite String) (s : Symbol) : List Span :=
  match s.site with
  | some site => if claimants.get? site = some s.id then l.variants.getD site [] else []
  | none => []

/-- Everything that the symbols claim. -/
def ofSymbols (l : SpanLookup) (claimants : Table NameSite String) (symbols : List Symbol) : Claims :=
  symbols.foldl (fun c s => (spansOf l claimants s).foldl (fun c a => c.claim a.id s.id) c) ∅

end Claims

end SymbolAtlas
