import SymbolAtlas.Adjacency
import SymbolAtlas.Index
import SymbolAtlas.Nesting
import SymbolAtlas.Table.Group
import SymbolAtlas.Total

/-!
# Calls

Who calls whom, from the references of an index. Where references carry their enclosing symbol, it
is the caller; elsewhere the caller is the function whose body holds the reference. A `CallGraph`
keeps the calls by caller and, on request, by callee too.
-/

namespace SymbolAtlas

/-! ## Call marks -/

/-- How the kind of a reference marks a spelled call. -/
inductive CallMark where
  /-- A plain reference is a call. -/
  | plain
  /-- A reference with the call bit is a call. -/
  | callBit
  deriving DecidableEq, Repr

namespace CallMark

def ofFormat (hasCallKind : Bool) : CallMark := if hasCallKind then callBit else plain

/-- The kinds that mark a call, spelled in full or not. -/
def kinds : CallMark → List UInt32
  | plain => [RefKind.reference, RefKind.reference ||| RefKind.spelled]
  | callBit =>
    [RefKind.reference ||| RefKind.call, RefKind.reference ||| RefKind.spelled ||| RefKind.call]

def isCall (m : CallMark) (k : RefKind) : Bool := m.kinds.contains k.bits

end CallMark

/-! ## Call graphs -/

structure Call where
  caller : String
  callee : String
  deriving DecidableEq, Repr

structure CallGraph where
  callees : Adjacency := ∅
  /-- The same calls by callee, where they are kept. -/
  callers : Option Adjacency := none
  deriving DecidableEq

namespace CallGraph

instance : EmptyCollection CallGraph := ⟨{}⟩

instance : Inhabited CallGraph := ⟨∅⟩

/-- No calls, kept by callee too if `reverse`. -/
def start (reverse : Bool) : CallGraph := ⟨∅, if reverse then some ∅ else none⟩

def add (g : CallGraph) (c : Call) : CallGraph where
  callees := g.callees.link c.caller c.callee
  callers := g.callers.map fun t => Adjacency.link t c.callee c.caller

def ofCalls (reverse : Bool) (l : List Call) : CallGraph := l.foldl add (start reverse)

/-- The calls, by caller and then by callee. -/
def calls (g : CallGraph) : List Call := g.callees.pairs.map fun p => ⟨p.1, p.2⟩

def size (g : CallGraph) : Nat := total (g.callees.values.map KeySet.size)

def isEmpty (g : CallGraph) : Bool := g.callees.isEmpty

def calleesOf (g : CallGraph) (caller : String) : KeySet String := g.callees.of caller

/-- The callers of `callee`, found by search where they are not kept. -/
def callersOf (g : CallGraph) (callee : String) : KeySet String :=
  match g.callers with
  | some t => t.of callee
  | none => .ofKeys (g.callees.filter fun _ cs => cs.contains callee)

theorem callees_add (g : CallGraph) (c : Call) :
    (g.add c).callees = g.callees.link c.caller c.callee := rfl

end CallGraph

/-! ## Extraction -/

/-- Where the caller of a reference is found. -/
inductive CallerSource where
  /-- In the enclosing symbol that the reference carries. -/
  | container
  /-- Around the place of the reference. -/
  | place
  deriving DecidableEq, Repr

/-- The body of a callable. -/
structure FunctionBody where
  owner : String
  body : Range
  deriving DecidableEq, Repr

namespace Index

def callMark (ix : Index) : CallMark := .ofFormat ix.hasCallKind

def callerSource (ix : Index) : CallerSource := if ix.hasContainers then .container else .place

/-- The callables that have a body and a definition, each with the file of its definition. -/
def functionBodies (ix : Index) : List (String × FunctionBody) :=
  ix.callableSymbols.filterMap fun f => do
    let body ← f.body
    let definition ← f.definition
    return (definition.file, ⟨f.id, body⟩)

def earlierLine (a b : FunctionBody) : Bool := a.body.start.line ≤ b.body.start.line

/-- The function bodies of each file, earlier start lines first. -/
def bodiesByFile (ix : Index) : Table String (List FunctionBody) :=
  (Table.group (·.1) ix.functionBodies).map fun l => (l.map (·.2)).mergeSort earlierLine

/-- The first function around a place in its file. -/
def functionAround (bodies : Table String (List FunctionBody)) (l : Location) : Option String :=
  ((bodies.getD l.file []).find? fun b => l.range.within b.body true).map (·.owner)

/-- The calls that the references to callables make, where `caller?` finds the caller. -/
def callsWhere (ix : Index) (m : CallMark) (caller? : Reference → Option String) : List Call :=
  ix.callableSymbols.flatMap fun f =>
    (f.references.filter fun r => m.isCall r.kind).filterMap fun r =>
      (caller? r).map fun caller => ⟨caller, f.id⟩

/-- References that carry containers carry the call bit as well. -/
def callsFrom (ix : Index) : CallerSource → List Call
  | .container => ix.callsWhere .callBit fun r => r.container.filter ix.isCallable
  | .place =>
    let bodies := ix.bodiesByFile
    ix.callsWhere ix.callMark fun r => functionAround bodies r.location

def callGraphFrom (ix : Index) (source : CallerSource) (reverse : Bool) : CallGraph :=
  .ofCalls reverse (ix.callsFrom source)

/-- The calls of an index, found as its format allows. -/
def callGraph (ix : Index) (reverse : Bool) : CallGraph := ix.callGraphFrom ix.callerSource reverse

end Index

end SymbolAtlas
