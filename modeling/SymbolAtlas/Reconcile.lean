import SymbolAtlas.Config
import SymbolAtlas.Path.Project
import SymbolAtlas.Reconcile.Cycle
import SymbolAtlas.Reconcile.Parent
import SymbolAtlas.Reconcile.Report
import SymbolAtlas.Total

/-!
# Reconciling the index with the spans

Symbols that are not wanted go first (`Index.prefilter`). Then symbols and spans are matched: the
first symbol by id at a site takes the body of the site's first span and claims all of its spans,
and the spans that no symbol claimed become symbols themselves. With the claims complete, every
symbol gets its parent and alias targets move from spans to their owners, so the order in which
symbols are visited does not show. Last, cycles of parents are broken.
-/

namespace SymbolAtlas

/-! ## Filtering -/

/-- Why a symbol is dropped. -/
inductive DropReason where
  | unlocated
  | outside
  deriving DecidableEq, Repr

/-- Namespaces are kept wherever they are. -/
def Config.dropReason (c : Config) (s : Symbol) : Option DropReason :=
  match s.primary with
  | none => if c.dropUnlocated then some .unlocated else none
  | some l =>
    let inside :=
      match c.projectRoot with
      | none => true
      | some root => (Project.ofPath (.ofText root)).containsUri l.file
    if !inside && s.kind ≠ .nameSpace then some .outside else none

def Index.prefilter (c : Config) (ix : Index) (r : Report) : Index × Report :=
  let dropped := fun why => ix.all.countP fun s => c.dropReason s = some why
  (ix.retain fun s => (c.dropReason s).isNone,
   { r with
     unlocated := r.unlocated + dropped .unlocated
     outsideProject := r.outsideProject + dropped .outside })

/-! ## Matching -/

/-- The symbol that a span becomes. -/
def Span.symbol (file : String) (s : Span) : Symbol where
  id := s.id
  name := s.name
  kind := .ofParserWord s.kind
  declaration := some ⟨file, s.nameRange⟩
  definition := some ⟨file, s.nameRange⟩
  language := s.language
  body := some s.body

/-- Give a symbol the body of the first span it claims. -/
def Symbol.takeBody (spans : List Span) (s : Symbol) : Symbol :=
  match spans with
  | a :: _ => { s with body := some a.body }
  | [] => s

/-- Insert the symbol of a span unless its id is taken. -/
def Index.addSpan (file : String) (ix : Index) (a : Span) : Index :=
  if ix.contains a.id then ix else ix.insert (a.symbol file)

/-- Insert the symbols of the spans that no symbol claimed. -/
def Index.synthesize (ix : Index) (l : SpanLookup) (claimants : Table NameSite String) : Index :=
  (l.variants.entries.filter fun e => !claimants.contains e.1).foldl
    (fun ix e => e.2.foldl (Index.addSpan e.1.file) ix) ix

/-- The index and the claims after matching. -/
structure Matched where
  index : Index
  claims : Claims
  matched : Nat
  synthesized : Nat

def Index.matchSpans (c : Config) (ix : Index) (l : SpanLookup) : Matched :=
  let claimants := Claims.claimants l ix.all
  let bodied := ix.mapSymbols fun s => s.takeBody (Claims.spansOf l claimants s)
  let full := if c.synthesizeUnmatched then bodied.synthesize l claimants else bodied
  { index := full
    claims := .ofSymbols l claimants ix.all
    matched := claimants.size
    synthesized := full.size - bodied.size }

/-! ## Resolving -/

/-- The alias target becomes the owner of the span it names. -/
def Symbol.moveAlias (claims : Claims) (s : Symbol) : Symbol :=
  { s with aliasedId := s.aliasedId.map claims.resolve }

/-- A parent that was found replaces the one there was. -/
def Symbol.adopt (r : Resolution) (s : Symbol) : Symbol :=
  { s with parentId := r.parent.or s.parentId }

/-- The index with parents and alias targets, before cycles are broken. -/
def Index.resolveLinks (ix : Index) (ctx : ParentContext) : Index :=
  ix.mapSymbols fun s => (s.adopt (.of ctx ix s)).moveAlias ctx.claims

/-- Reconcile an index with a forest, adding to the counts of a report. -/
def Index.reconcileForest (c : Config) (ix : Index) (forest : SpanForest) (r : Report) :
    Index × Report :=
  let lookup := SpanLookup.ofForest forest
  let m := ix.matchSpans c lookup
  let ctx : ParentContext := ⟨lookup, m.claims⟩
  let found := m.index.all.map fun s => Resolution.of ctx m.index s
  let linked := m.index.resolveLinks ctx
  (linked.breakCycles,
   { r with
     matched := r.matched + m.matched
     synthesized := r.synthesized + m.synthesized
     sharedVariants := r.sharedVariants + lookup.shared
     parentsAssigned := r.parentsAssigned + found.countP (·.parent.isSome)
     selfParents := r.selfParents + found.countP (·.selfFound)
     danglingParents := r.danglingParents + total (found.map (·.dangling))
     aliasesRemapped := r.aliasesRemapped +
       m.index.all.countP fun s => s.aliasedId.any fun id => m.claims.resolve id ≠ id
     cyclesBroken := r.cyclesBroken + linked.cycleCuts.length })

structure Reconciliation where
  index : Index
  forest : SpanForest
  report : Report

/-- Filter an index and reconcile it with a table of spans. -/
def Index.reconcile (c : Config) (ix : Index) (spans : SpanTable) : Reconciliation :=
  let forest := SpanForest.build spans
  let (filtered, report) := ix.prefilter c {}
  let (index, report) := filtered.reconcileForest c forest report
  ⟨index, forest, report⟩

end SymbolAtlas
