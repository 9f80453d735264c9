import SymbolAtlas.Atlas
import SymbolAtlas.Context
import SymbolAtlas.Index.Merge
import SymbolAtlas.Json.Writer
import SymbolAtlas.Proofs.Calls.Counts
import SymbolAtlas.Proofs.Calls.Innermost
import SymbolAtlas.Proofs.Forest.Branches
import SymbolAtlas.Proofs.Forest.Canonical
import SymbolAtlas.Proofs.Forest.Container
import SymbolAtlas.Proofs.Graph.Indexes
import SymbolAtlas.Proofs.Graph.Navigation
import SymbolAtlas.Proofs.Graph.Neighbours
import SymbolAtlas.Proofs.Graph.Related
import SymbolAtlas.Proofs.Index.Made
import SymbolAtlas.Proofs.Index.Restrict
import SymbolAtlas.Proofs.Linker.Format
import SymbolAtlas.Proofs.Merge.Agreement
import SymbolAtlas.Proofs.Path.Project
import SymbolAtlas.Proofs.Reconcile.Again
import SymbolAtlas.Proofs.Reconcile.Counts
import SymbolAtlas.Proofs.Reconcile.Cuts
import SymbolAtlas.Proofs.Reconcile.Lexical
import SymbolAtlas.Proofs.Reconcile.Locality
import SymbolAtlas.Proofs.Reconcile.Reread
import SymbolAtlas.Proofs.Reconcile.Within
import SymbolAtlas.Proofs.Scope.OneStep
import SymbolAtlas.Proofs.Span.Identity
import SymbolAtlas.Proofs.Wire.Document
import SymbolAtlas.Proofs.Worker
import SymbolAtlas.Proofs.Worker.Arguments
import SymbolAtlas.Proofs.Worker.Cache
import SymbolAtlas.Wire.Calls
import SymbolAtlas.Wire.Config
import SymbolAtlas.Wire.Document
import SymbolAtlas.Wire.Forest
import SymbolAtlas.Wire.Graph
import SymbolAtlas.Wire.Report
import SymbolAtlas.Wire.Scope
import SymbolAtlas.Wire.Symbol
