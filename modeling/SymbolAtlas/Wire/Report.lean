import SymbolAtlas.Json.Decode
import SymbolAtlas.Reconcile.Report

/-!
# JSON form of reports
-/

namespace SymbolAtlas.Report

open Json

def toJson (r : Report) : Json :=
  .obj [("outside_project", nat r.outsideProject), ("unlocated", nat r.unlocated),
    ("matched", nat r.matched), ("synthesized", nat r.synthesized),
    ("shared_span_variants", nat r.sharedVariants), ("parents_assigned", nat r.parentsAssigned),
    ("self_parent_rejections", nat r.selfParents), ("dangling_parents", nat r.danglingParents),
    ("aliases_remapped", nat r.aliasesRemapped), ("cycles_broken", nat r.cyclesBroken)]

def decode : Decoder Report :=
  asRecord ⟨"ReconcileReport",
    ["outside_project", "unlocated", "matched", "synthesized", "shared_span_variants",
     "parents_assigned", "self_parent_rejections", "dangling_parents", "aliases_remapped",
     "cycles_broken"], false⟩ fun r =>
    Report.mk <$> r.required "outside_project" asCount <*> r.required "unlocated" asCount
      <*> r.required "matched" asCount <*> r.required "synthesized" asCount
      <*> r.required "shared_span_variants" asCount <*> r.required "parents_assigned" asCount
      <*> r.required "self_parent_rejections" asCount <*> r.required "dangling_parents" asCount
      <*> r.required "aliases_remapped" asCount <*> r.required "cycles_broken" asCount

end SymbolAtlas.Report
