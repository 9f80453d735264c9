import SymbolAtlas.Reconcile.Claims

/-!
# Parents of symbols

Three sources name a symbol's lexical parent: the container that the index records where the symbol
is declared or defined, the span around the span of its body, and, without a body, the innermost
span around its name. The first that names a known symbol counts (`Resolution.of`); one that names
the symbol itself ends the search.
-/

namespace SymbolAtlas

/-- What parents are looked up in. -/
structure ParentContext where
  lookup : SpanLookup
  claims : Claims

namespace ParentContext

/-- The container of the reference that declares or defines the symbol itself. -/
def referenceContainer (ctx : ParentContext) (s : Symbol) : Option String :=
  let own := s.references.filter fun r =>
    r.kind.declares && (some r.location = s.declaration || some r.location = s.definition)
  (own.findSome? Reference.container).map ctx.claims.resolve

/-- The parent of the span that the symbol was made from, or else of the spans at its site. -/
def bodyParent (ctx : ParentContext) (s : Symbol) : Option String :=
  let parent :=
    match ctx.lookup.byId.get? s.id with
    | some own => own.parentId
    | none => (ctx.lookup.atSite s).findSome? Span.parentId
  parent.map ctx.claims.resolve

/-- The innermost span around the name of a symbol without a body. Namespaces have no container of
this kind, and no symbol has a span of its own for one. -/
def nameContainer (ctx : ParentContext) (s : Symbol) : Option String :=
  if s.body.isSome || s.kind = .nameSpace then none
  else
    match s.primary with
    | none => none
    | some l =>
      match ctx.lookup.forest.get? l.file with
      | none => none
      | some trees =>
        let target := Span.bareName l.file s.name s.language l.range
        (FileForest.innermostWhere trees target fun c => !ctx.claims.isOwn s.id c.id).map fun c =>
          ctx.claims.resolve c.id

/-- The candidates in the order they are tried. -/
def candidates (ctx : ParentContext) (s : Symbol) : List (Option String) :=
  [ctx.referenceContainer s, ctx.bodyParent s, ctx.nameContainer s]

end ParentContext

/-- The outcome of a search for a parent. -/
structure Resolution where
  parent : Option String
  /-- The search ended at the symbol itself. -/
  selfFound : Bool
  /-- Candidates that named no known symbol. -/
  dangling : Nat
  deriving DecidableEq, Repr

namespace Resolution

/-- Try candidates for the symbol `self` in order. -/
def settle (known : String → Bool) (self : String) : List (Option String) → Resolution
  | [] => ⟨none, false, 0⟩
  | none :: cs => settle known self cs
  | some c :: cs =>
    if c = self then ⟨none, true, 0⟩
    else if known c then ⟨some c, false, 0⟩
    else
      let r := settle known self cs
      { r with dangling := r.dangling + 1 }

def of (ctx : ParentContext) (ix : Index) (s : Symbol) : Resolution :=
  settle ix.contains s.id (ctx.candidates s)

end Resolution

end SymbolAtlas
