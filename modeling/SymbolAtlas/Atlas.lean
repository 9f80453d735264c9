import SymbolAtlas.Calls.Stats
import SymbolAtlas.Graph
import SymbolAtlas.Reconcile
import SymbolAtlas.Scope

/-!
# The atlas

Everything that a run makes of an index and a table of spans: the reconciled index, its forest, its
calls and its graph. `Atlas.scope` then says what an update has to build again.
-/

namespace SymbolAtlas

structure Atlas where
  config : Config
  index : Index
  forest : SpanForest
  report : Report
  calls : CallGraph
  stats : CallStats
  graph : Graph

namespace Atlas

def run (c : Config) (ix : Index) (spans : SpanTable) : Atlas :=
  let r := ix.reconcile c spans
  let calls := r.index.callGraph c.reverseCalls
  { config := c
    index := r.index
    forest := r.forest
    report := r.report
    calls
    stats := .of r.index calls
    graph := .ofIndex r.index calls }

/-- Run on what was supplied. An invalid configuration is reported before a missing table. -/
def build (c : Config) (index : Option Index) (spans : Option SpanTable) : Except AtlasError Atlas :=
  match c.validate, index, spans with
  | .error e, _, _ => .error (.invalidConfig e)
  | .ok _, none, _ => .error (.missingTable .symbolIndex)
  | .ok _, some _, none => .error (.missingTable .spanTable)
  | .ok _, some ix, some s => .ok (run c ix s)

/-- The scope of an update of the seeds. -/
def scope (a : Atlas) (seeds : KeySet String) : Except AtlasError Scope :=
  let s := Scope.around a.index (.build a.index a.calls) a.config.relations seeds
  if a.config.requireSeeds && s.seeds.isEmpty then .error (.noSeedPresent seeds.size) else .ok s

/-- The scope of an update of files. -/
def fileScope (a : Atlas) (files : List String) : Except AtlasError Scope :=
  a.scope (a.index.seedsIn files)

end Atlas

end SymbolAtlas
