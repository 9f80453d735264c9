import SymbolAtlas.Calls

/-!
# Call statistics
-/

namespace SymbolAtlas

/-- Counts over an index and its calls. -/
structure CallStats where
  functions : Nat
  functionsWithBodies : Nat
  /-- Functions that call or are called. -/
  functionsInGraph : Nat
  callers : Nat
  callees : Nat
  calls : Nat
  /-- Functions that call themselves. -/
  recursive : Nat
  /-- Functions that call and are not called. -/
  entryPoints : Nat
  /-- Functions that are called and do not call. -/
  leaves : Nat
  deriving DecidableEq, Repr

namespace CallStats

def callerSet (g : CallGraph) : KeySet String := .ofKeys g.callees

def calleeSet (g : CallGraph) : KeySet String := .ofList (g.calls.map (·.callee))

def of (ix : Index) (g : CallGraph) : CallStats :=
  let callers := callerSet g
  let callees := calleeSet g
  { functions := ix.callables.size
    functionsWithBodies := ix.callableSymbols.countP fun f => f.body.isSome
    functionsInGraph := (callers.union callees).size
    callers := callers.size
    callees := callees.size
    calls := g.size
    recursive := g.callees.entries.countP fun e => e.2.contains e.1
    entryPoints := (callers.diff callees).size
    leaves := (callees.diff callers).size }

def text (s : CallStats) : String :=
  "\n".intercalate
    ["Call Graph Statistics:",
     "=====================",
     "Total functions in index: " ++ toString s.functions,
     "Functions with body spans: " ++ toString s.functionsWithBodies,
     "Total unique functions in call graph: " ++ toString s.functionsInGraph,
     "Functions that call others: " ++ toString s.callers,
     "Functions that are called: " ++ toString s.callees,
     "Total call relationships: " ++ toString s.calls,
     "Recursive calls: " ++ toString s.recursive,
     "Functions that only call (entry points): " ++ toString s.entryPoints,
     "Functions that are only called (leaf functions): " ++ toString s.leaves]

end CallStats

end SymbolAtlas
