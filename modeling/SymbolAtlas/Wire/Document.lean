import SymbolAtlas.Error
import SymbolAtlas.Linker
import SymbolAtlas.Json.Reader
import SymbolAtlas.Wire.Location

/-!
# JSON form of index documents

A document carries no tag: it is read as the first of a symbol, a list of references and a relation
whose fields it has. Absent parts are written as `null`, and fields that no document has do not
count.
-/

namespace SymbolAtlas

open Json

/-! ## Parts -/

namespace Document

def positionJson (p : Position) : Json :=
  .obj [("Line", wordJson p.line), ("Column", wordJson p.column)]

def position : Decoder Position :=
  asRecord ⟨"RawPosition", ["Line", "Column"], false⟩ fun r =>
    Position.mk <$> r.required "Line" asWord <*> r.required "Column" asWord

def locationJson (l : Location) : Json :=
  .obj [("FileURI", .str l.file), ("Start", positionJson l.start), ("End", positionJson l.stop)]

def location : Decoder Location :=
  asRecord ⟨"RawLocation", ["FileURI", "Start", "End"], false⟩ fun r =>
    (fun file start stop => ⟨file, ⟨start, stop⟩⟩) <$> r.required "FileURI" asText
      <*> r.required "Start" position <*> r.required "End" position

def symbolInfoJson (kind language : String) : Json := .obj [("Kind", .str kind), ("Lang", .str language)]

/-- A kind and a language. -/
def symbolInfo : Decoder (String × String) :=
  asRecord ⟨"RawSymInfo", ["Kind", "Lang"], false⟩ fun r =>
    Prod.mk <$> r.required "Kind" asText <*> r.withDefault "Lang" asText ""

def identityJson (id : String) : Json := .obj [("ID", .str id)]

def identity : Decoder String :=
  asRecord ⟨"RawIdRef", ["ID"], false⟩ fun r => r.required "ID" asText

def referenceJson (r : Reference) : Json :=
  .obj [("Kind", wordJson r.kind.bits), ("Location", locationJson r.location),
    ("Container", orNull identityJson r.containerId)]

def reference : Decoder Reference :=
  asRecord ⟨"RawReference", ["Kind", "Location", "Container"], false⟩ fun r =>
    (fun kind location container => ⟨⟨kind⟩, location, container⟩)
      <$> r.required "Kind" asWord <*> r.required "Location" location
      <*> r.optional "Container" identity

end Document

/-! ## Documents -/

open Document in
def SymbolDoc.toJson (d : SymbolDoc) : Json :=
  .obj [("ID", .str d.id), ("Name", .str d.name), ("Scope", .str d.scope),
    ("SymInfo", symbolInfoJson d.kind d.language),
    ("CanonicalDeclaration", orNull locationJson d.declaration),
    ("Definition", orNull locationJson d.definition), ("Signature", .str d.signature),
    ("ReturnType", .str d.returnType), ("Type", .str d.typeName)]

open Document in
def SymbolDoc.decode : Decoder SymbolDoc :=
  asRecord ⟨"RawSymbolDoc",
    ["ID", "Name", "Scope", "SymInfo", "CanonicalDeclaration", "Definition", "Signature",
     "ReturnType", "Type"], false⟩ fun r =>
    (fun id name scope info declaration definition signature returnType typeName =>
      SymbolDoc.mk id name scope info.1 info.2 declaration definition signature returnType typeName)
      <$> r.required "ID" asText <*> r.required "Name" asText <*> r.withDefault "Scope" asText ""
      <*> r.required "SymInfo" symbolInfo <*> r.optional "CanonicalDeclaration" location
      <*> r.optional "Definition" location <*> r.withDefault "Signature" asText ""
      <*> r.withDefault "ReturnType" asText "" <*> r.withDefault "Type" asText ""

open Document in
def RefsDoc.toJson (d : RefsDoc) : Json :=
  .obj [("ID", .str d.id), ("References", .arr (d.references.map referenceJson))]

open Document in
def RefsDoc.decode : Decoder RefsDoc :=
  asRecord ⟨"RawRefsDoc", ["ID", "References"], false⟩ fun r =>
    RefsDoc.mk <$> r.required "ID" asText <*> r.required "References" (asList reference)

open Document in
def RelationDoc.toJson (d : RelationDoc) : Json :=
  .obj [("Subject", identityJson d.subject), ("Predicate", wordJson d.predicate),
    ("Object", identityJson d.object)]

open Document in
def RelationDoc.decode : Decoder RelationDoc :=
  asRecord ⟨"RawRelationDoc", ["Subject", "Predicate", "Object"], false⟩ fun r =>
    RelationDoc.mk <$> r.required "Subject" identity <*> r.required "Predicate" asWord
      <*> r.required "Object" identity

namespace Document

def toJson : Document → Json
  | symbol d => d.toJson
  | refs d => d.toJson
  | relation d => d.toJson

/-- The first kind of document that fits. -/
def fit? (j : Json) : Option Document :=
  match SymbolDoc.decode j with
  | .ok d => some (symbol d)
  | .error _ =>
    match RefsDoc.decode j with
    | .ok d => some (refs d)
    | .error _ =>
      match RelationDoc.decode j with
      | .ok d => some (relation d)
      | .error _ => none

/-- The document that a value denotes; `null` separates documents and denotes none. -/
def ofJson : Json → Except IndexError (Option Document)
  | .null => .ok none
  | .obj ms =>
    if (ms.lookup "ID").isNone && (ms.lookup "Subject").isNone then .error .unidentified
    else
      match fit? (.obj ms) with
      | some d => .ok (some d)
      | none => .error .noVariant
  | _ => .error .notAnObject

end Document

namespace Linker

/-- Add the documents of a list, up to the first that is none: how many were added, or why it
stopped, and the linker either way. -/
def addValues (l : Linker) (added : Nat) : List Json → Except IndexError Nat × Linker
  | [] => (.ok added, l)
  | j :: js =>
    match Document.ofJson j with
    | .error e => (.error e, l)
    | .ok none => addValues l added js
    | .ok (some d) => addValues (l.add d) (added + 1) js

/-- Add the documents of a JSON text that holds one or an array of them. -/
def addText (l : Linker) (text : String) : Except IndexError Nat × Linker :=
  match parse? text with
  | none => (.error .notJson, l)
  | some (.arr js) => l.addValues 0 js
  | some j => l.addValues 0 [j]

/-- A linker with the documents of all texts. -/
def ofTexts (texts : List String) : Except IndexError Linker :=
  texts.foldlM (fun l t =>
    match l.addText t with
    | (.ok _, l) => .ok l
    | (.error e, _) => .error e) ∅

end Linker

end SymbolAtlas
