/-!
# Reconciliation reports
-/

namespace SymbolAtlas

/-- What a reconciliation counted. -/
structure Report where
  outsideProject : Nat := 0
  /-- Symbols with neither a definition nor a declaration. -/
  unlocated : Nat := 0
  matched : Nat := 0
  synthesized : Nat := 0
  /-- Name sites with spans of several languages. -/
  sharedVariants : Nat := 0
  parentsAssigned : Nat := 0
  selfParents : Nat := 0
  /-- Candidate parents that named no known symbol. -/
  danglingParents : Nat := 0
  aliasesRemapped : Nat := 0
  cyclesBroken : Nat := 0
  deriving DecidableEq, Repr, Inhabited

def Report.text (r : Report) : String :=
  "\n".intercalate
    ["Reconciliation:",
     "  filtered (outside project): " ++ toString r.outsideProject,
     "  filtered (no location):     " ++ toString r.unlocated,
     "  matched to spans:           " ++ toString r.matched,
     "  synthetic symbols:          " ++ toString r.synthesized,
     "  shared span variants:       " ++ toString r.sharedVariants,
     "  parents assigned:           " ++ toString r.parentsAssigned,
     "  self-parent rejections:     " ++ toString r.selfParents,
     "  dangling parents:           " ++ toString r.danglingParents,
     "  aliases remapped:           " ++ toString r.aliasesRemapped,
     "  cycles broken:              " ++ toString r.cyclesBroken]

end SymbolAtlas
