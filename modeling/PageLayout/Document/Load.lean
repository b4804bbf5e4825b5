import PageLayout.Document.Draft
import PageLayout.Text.Blank

/-!
# Loading documents

A draft becomes a document if its name is there, is not blank and is not too long, and if every
element has an identifier, a type and the four numbers that place it. Of several faults the first
is reported: the name before the elements, the elements in order, and within an element the
identifier, the type, then the numbers.

## Main definitions

* `LoadError` is why a text is no document; `LoadError.message` says it in words.
* `DocumentDraft.check` turns a draft into a document or finds its first fault.
* `Document.load` loads a whole text, `Document.loadEmbedded` a value inside another reading.
-/

namespace PageLayout

/-- What can be wrong with the name of a document. -/
inductive NameFault where
  | missing
  | blank
  | tooLong
deriving DecidableEq, Repr

/-- The fields of an element that must be there, apart from its identifier. -/
inductive RequiredField where
  | kind
  | x
  | y
  | width
  | height
deriving DecidableEq, Repr

/-- What can be wrong with an element. -/
inductive ElementFault where
  | missingId
  | invalidId
  /-- The element with this identifier lacks a field. -/
  | missingField (id : String) (field : RequiredField)
deriving DecidableEq, Repr

/-- Why a text is no document. -/
inductive LoadError where
  /-- The text is no JSON text of the right form. -/
  | json (error : Json.Error)
  /-- The element at this place of the list, counted from zero, is faulty. -/
  | element (index : Nat) (fault : ElementFault)
  /-- The name is faulty. -/
  | name (fault : NameFault)
deriving DecidableEq, Repr

/-- The greatest number of characters in a name. -/
def maxNameLength : Nat := 255

/-- The fault in words. -/
def NameFault.reason : NameFault → String
  | .missing => "missing"
  | .blank => "must not be empty"
  | .tooLong => "longer than " ++ Decimal.intText maxNameLength ++ " characters"

/-- The name under which a field is written. -/
def RequiredField.name : RequiredField → String
  | .kind => "type"
  | .x => "x"
  | .y => "y"
  | .width => "width"
  | .height => "height"

/-- The fault in words. -/
def ElementFault.reason : ElementFault → String
  | .missingId => "missing id"
  | .invalidId => "id must be a non-empty string or a number"
  | .missingField id field => "'" ++ id ++ "' is missing " ++ field.name

/-- The error in words. -/
def LoadError.message : LoadError → String
  | .json error => "invalid document JSON: " ++ error.message
  | .element index fault =>
    "invalid element at index " ++ Decimal.intText index ++ ": " ++ fault.reason
  | .name fault => "invalid project name: " ++ fault.reason

namespace ElementDraft

/-- The identifier of an element: a string that is not empty, or the text of a number. -/
def checkedId (draft : ElementDraft) : Except ElementFault String :=
  match draft.id with
  | none => .error .missingId
  | some (.number n) => .ok n.text
  | some (.string s) => if s.isEmpty then .error .invalidId else .ok s
  | some _ => .error .invalidId

/-- The value of a field that must be there. -/
def required {α : Type} (id : String) (field : RequiredField) (value : Option α) :
    Except ElementFault α :=
  match value with
  | some value => .ok value
  | none => .error (.missingField id field)

/-- The element that a draft describes. -/
def check (draft : ElementDraft) : Except ElementFault Element := do
  let id ← draft.checkedId
  let kind ← required id .kind draft.kind
  let x ← required id .x draft.x
  let y ← required id .y draft.y
  let width ← required id .width draft.width
  let height ← required id .height draft.height
  return { id, kind, x, y, width, height, properties := draft.properties.getD .empty }

/-- The elements that drafts describe, the first of them standing at `index`. -/
def checkAll (index : Nat) : List ElementDraft → Except LoadError (List Element)
  | [] => .ok []
  | draft :: drafts => do
    let element ← draft.check.mapError (LoadError.element index)
    let elements ← checkAll (index + 1) drafts
    return element :: elements

end ElementDraft

namespace DocumentDraft

/-- The name of a document. It must hold a character that is not blank; its length counts the
blanks at its ends. -/
def checkedName (draft : DocumentDraft) : Except NameFault String :=
  match draft.name with
  | none => .error .missing
  | some name =>
    if (Text.trimBlanks name.toList).isEmpty then .error .blank
    else if maxNameLength < name.length then .error .tooLong
    else .ok name

/-- The document that a draft describes. -/
def check (draft : DocumentDraft) : Except LoadError Document := do
  let name ← draft.checkedName.mapError LoadError.name
  let elements ← ElementDraft.checkAll 0 (draft.elements.getD [])
  return { name, elements, settings := draft.settings.getD .empty }

end DocumentDraft

namespace Document

/-- Loads a document from JSON text: the whole text is read before anything is checked. -/
def load (source : String) : Except LoadError Document := do
  let draft ← (Json.readWhole DocumentDraft.read source).mapError LoadError.json
  draft.check

/-- Loads a document as a value inside some reading of JSON: it is checked as soon as it is read,
before the reader looks for the end of the text. A faulty document is then a refused value, which
has no place in the text. -/
def loadEmbedded (source : String) : Except LoadError Document :=
  let text := source.toList
  match DocumentDraft.read text with
  | .error failure => .error (.json (failure.toError text))
  | .ok (draft, rest) =>
    match draft.check with
    | .error fault => .error (.json ⟨.refused fault.message, none⟩)
    | .ok document =>
      match Json.skipSpace rest with
      | [] => .ok document
      | rest => .error (.json (Json.Failure.toError text ⟨.trailingCharacters, rest, 1⟩))

end Document

end PageLayout
