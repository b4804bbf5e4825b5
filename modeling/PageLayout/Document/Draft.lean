import PageLayout.Document.Basic
import PageLayout.Json.Record

/-!
# Drafts of documents

What the text of a document says before it is checked: every field may be missing, and an
identifier may be any value. The readers here accept any JSON text of that form.
-/

namespace PageLayout

/-- An element as it is written. -/
structure ElementDraft where
  id : Option Json.Value
  kind : Option String
  x : Option Float
  y : Option Float
  width : Option Float
  height : Option Float
  properties : Option Properties
deriving Inhabited

/-- A document as it is written. -/
structure DocumentDraft where
  name : Option String
  elements : Option (List ElementDraft)
  settings : Option Properties
deriving Inhabited

namespace Properties

/-- Reads an object as properties. -/
def read (levels : Nat) : Json.Reader Properties := fun cs =>
  match Json.skipSpace cs, levels with
  | '\x7b' :: rest, 0 => Json.failPast .recursionLimit 1 ('\x7b' :: rest)
  | '\x7b' :: rest, levels + 1 =>
    let member (properties : Properties) (key : String) : Json.Reader Properties := fun cs => do
      let (value, rest) ← Json.readValue levels (← Json.readColon cs)
      return (properties.insert key value, rest)
    Json.readMembers member .empty rest
  | rest, _ => Json.failType "a map" rest

end Properties

/-- A field that may be missing or `null`. -/
def optionalField {σ α : Type} (name : String) (read : Json.Reader α)
    (set : σ → Option α → σ) : Json.Field σ where
  name := name
  read := fun record cs =>
    (Json.readOptional read cs).map fun (value, rest) => (set record value, rest)

namespace ElementDraft

/-- The fields of an element. -/
def recordType (levels : Nat) : Json.RecordType ElementDraft where
  name := "struct RawElement"
  fields :=
    [optionalField "id" (Json.readValue levels) fun d id => { d with id },
      optionalField "type" Json.readText fun d kind => { d with kind },
      optionalField "x" Json.readFloat fun d x => { d with x },
      optionalField "y" Json.readFloat fun d y => { d with y },
      optionalField "width" Json.readFloat fun d width => { d with width },
      optionalField "height" Json.readFloat fun d height => { d with height },
      optionalField "properties" (Properties.read levels) fun d properties => { d with properties }]
  blank := ⟨none, none, none, none, none, none, none⟩

end ElementDraft

namespace DocumentDraft

/-- The fields of a document. -/
def recordType (levels : Nat) : Json.RecordType DocumentDraft where
  name := "struct RawDocument"
  fields :=
    [optionalField "name" Json.readText fun d name => { d with name },
      optionalField "elements" (Json.readList (Json.readRecord ElementDraft.recordType) levels)
        fun d elements => { d with elements },
      optionalField "settings" (Properties.read levels) fun d settings => { d with settings }]
  blank := ⟨none, none, none⟩

/-- Reads a document as it is written. -/
def read : Json.Reader DocumentDraft :=
  Json.readRecord recordType Json.maxLevels

end DocumentDraft

end PageLayout
