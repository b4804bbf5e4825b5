import PageLayout.Document.Load
import PageLayout.Proofs.Decimal.Shape
import PageLayout.Proofs.Results
import PageLayout.Proofs.Text.Trim

/-!
# What drafts are refused for

A draft becomes a document if its name is there, holds a character that is not blank and is not too
long, and if all of its elements are complete. Otherwise it is refused for its first fault, where
the name comes before the elements, the elements come in their order, and the fields of an element
come in a fixed one.

- `ElementDraft.Describes` and `DocumentDraft.Describes`: what becomes of a draft.
- `ElementDraft.FirstFault` and `DocumentDraft.FirstFault`: what a draft is refused for.
- `ElementDraft.check_eq_ok_iff` and `ElementDraft.check_eq_error_iff`: one element.
- `DocumentDraft.check_eq_ok_iff` and `DocumentDraft.check_eq_error_iff`: a document.
-/

namespace PageLayout

/-! ## Elements -/

/-- The fields that an element must give after its identifier, in the order in which they are looked
for. -/
def RequiredField.order : List RequiredField :=
  [.kind, .x, .y, .width, .height]

namespace ElementDraft

/-- The identifier that a value gives: a string that is not empty is one itself, and a number gives
its text. -/
inductive GivesId : Json.Value → String → Prop
  | string {s : String} (hs : s ≠ "") : GivesId (.string s) s
  | number (n : Json.Number) : GivesId (.number n) n.text

/-- Whether a draft gives a field. -/
def gives (draft : ElementDraft) : RequiredField → Bool
  | .kind => draft.kind.isSome
  | .x => draft.x.isSome
  | .y => draft.y.isSome
  | .width => draft.width.isSome
  | .height => draft.height.isSome

/-- A draft gives an identifier and all other fields that an element must have. -/
structure IsComplete (draft : ElementDraft) : Prop where
  id : ∃ value ∈ draft.id, ∃ id, GivesId value id
  field : ∀ field, draft.gives field

/-- A draft says what an element is. Properties that are not given are empty. -/
structure Describes (draft : ElementDraft) (element : Element) : Prop where
  id : ∃ value ∈ draft.id, GivesId value element.id
  kind : draft.kind = some element.kind
  x : draft.x = some element.x
  y : draft.y = some element.y
  width : draft.width = some element.width
  height : draft.height = some element.height
  properties : draft.properties.getD .empty = element.properties

/-- The first fault of a draft of an element: its identifier, or the first of the other fields that
it does not give. -/
inductive FirstFault (draft : ElementDraft) : ElementFault → Prop
  | missingId (hid : draft.id = none) : FirstFault draft .missingId
  | invalidId {value : Json.Value} (hid : draft.id = some value)
      (hvalue : ∀ id, ¬ GivesId value id) : FirstFault draft .invalidId
  | missingField {value : Json.Value} {id : String} {i : Nat} {field : RequiredField}
      (hid : draft.id = some value) (hvalue : GivesId value id)
      (hfield : RequiredField.order[i]? = some field) (hmissing : draft.gives field = false)
      (hbefore : ∀ j < i, ∀ earlier ∈ RequiredField.order[j]?, draft.gives earlier) :
    FirstFault draft (.missingField id field)

variable {draft : ElementDraft}

/-- No identifier is empty. -/
theorem GivesId.ne_empty {value : Json.Value} {id : String} (h : GivesId value id) : id ≠ "" := by
  cases h with
  | string hs => exact hs
  | number n => exact n.text_ne_empty

theorem checkedId_eq_ok_iff {id : String} :
    draft.checkedId = .ok id ↔ ∃ value ∈ draft.id, GivesId value id := by
  rw [checkedId]
  constructor
  · intro h
    split at h
    · cases h
    · next n hid => cases h; exact ⟨_, hid, .number n⟩
    · next s hid =>
      split at h
      · cases h
      · next hs => cases h; exact ⟨_, hid, .string (by simpa using hs)⟩
    · cases h
  · rintro ⟨value, hid, hvalue⟩
    rw [hid]
    cases hvalue with
    | string hs => simp [hs]
    | number n => rfl

/-- The identifier is missing, or it is a value that gives none. -/
theorem checkedId_eq_error_iff {fault : ElementFault} :
    draft.checkedId = .error fault ↔
      (draft.id = none ∧ fault = .missingId) ∨
        ∃ value ∈ draft.id, (∀ id, ¬ GivesId value id) ∧ fault = .invalidId := by
  cases hid : draft.id with
  | none => simp [checkedId, hid, eq_comm]
  | some value =>
    -- A value that gives an identifier is accepted, and any other is refused for the same reason.
    by_cases hvalue : ∃ id, GivesId value id
    · obtain ⟨id, hid'⟩ := hvalue
      have hok : draft.checkedId = .ok id := checkedId_eq_ok_iff.2 ⟨value, hid, hid'⟩
      constructor
      · intro h
        cases hok.symm.trans h
      · rintro (⟨⟨⟩, -⟩ | ⟨_, ⟨⟩, hno, -⟩)
        exact absurd hid' (hno id)
    · rw [not_exists] at hvalue
      have herror : draft.checkedId = .error .invalidId := by
        rw [checkedId, hid]
        cases value with
        | number n => exact absurd (.number n) (hvalue _)
        | string s =>
          by_cases hs : s = ""
          · subst hs
            rfl
          · exact absurd (.string hs) (hvalue s)
        | _ => rfl
      constructor
      · intro h
        cases herror.symm.trans h
        exact .inr ⟨value, rfl, hvalue, rfl⟩
      · rintro (⟨⟨⟩, -⟩ | ⟨_, ⟨⟩, -, rfl⟩)
        exact herror

theorem required_eq_ok_iff {α : Type} {id : String} {field : RequiredField} {value : Option α}
    {a : α} : required id field value = .ok a ↔ value = some a := by
  cases value <;> simp [required]

/-- A draft becomes the element that it describes. -/
theorem check_eq_ok_iff {element : Element} :
    draft.check = .ok element ↔ draft.Describes element := by
  simp only [check, bind_eq_ok_iff, checkedId_eq_ok_iff, required_eq_ok_iff]
  constructor
  · rintro ⟨id, hid, kind, hkind, x, hx, y, hy, width, hwidth, height, hheight, ⟨⟩⟩
    exact ⟨hid, hkind, hx, hy, hwidth, hheight, rfl⟩
  · rintro ⟨hid, hkind, hx, hy, hwidth, hheight, hproperties⟩
    refine ⟨_, hid, _, hkind, _, hx, _, hy, _, hwidth, _, hheight, ?_⟩
    rw [hproperties]
    rfl

/-- Looks for one field. -/
def checkField (draft : ElementDraft) (id : String) (field : RequiredField) :
    Except ElementFault PUnit :=
  if draft.gives field then .ok ⟨⟩ else .error (.missingField id field)

/-- An element is checked for its identifier and then for the other fields in their order. -/
theorem check_map_eq (draft : ElementDraft) :
    (draft.check.map fun _ => PUnit.unit) =
      draft.checkedId >>= fun id => RequiredField.order.forM (draft.checkField id) := by
  obtain ⟨id, kind, x, y, width, height, properties⟩ := draft
  rw [check]
  cases checkedId _ with
  | error fault => rfl
  | ok text =>
    cases kind with
    | none => rfl
    | some kind =>
      cases x with
      | none => rfl
      | some x =>
        cases y with
        | none => rfl
        | some y =>
          cases width with
          | none => rfl
          | some width => cases height <;> rfl

/-- The walk over the fields stops at the first one that is not given. -/
theorem firstFailure_checkField_iff {id : String} {i : Nat} {fault : ElementFault} :
    FirstFailure (draft.checkField id) RequiredField.order i fault ↔
      ∃ field, RequiredField.order[i]? = some field ∧ draft.gives field = false ∧
        fault = .missingField id field ∧
        ∀ j < i, ∀ earlier ∈ RequiredField.order[j]?, draft.gives earlier := by
  have hok : ∀ field, (∃ y, draft.checkField id field = .ok y) ↔ draft.gives field := by
    intro field
    rw [checkField]
    cases draft.gives field <;> simp
  have herror : ∀ field, draft.checkField id field = .error fault ↔
      draft.gives field = false ∧ fault = .missingField id field := by
    intro field
    rw [checkField]
    cases draft.gives field <;> simp [eq_comm]
  constructor
  · rintro ⟨⟨field, hfield, hrefused⟩, haccepted⟩
    obtain ⟨hmissing, hfault⟩ := (herror field).1 hrefused
    exact ⟨field, hfield, hmissing, hfault, fun j hj earlier hearlier =>
      (hok earlier).1 (haccepted j hj earlier hearlier)⟩
  · rintro ⟨field, hfield, hmissing, hfault, hbefore⟩
    exact ⟨⟨field, hfield, (herror field).2 ⟨hmissing, hfault⟩⟩, fun j hj earlier hearlier =>
      (hok earlier).2 (hbefore j hj earlier hearlier)⟩

/-- A draft of an element is refused for its first fault. -/
theorem check_eq_error_iff {fault : ElementFault} :
    draft.check = .error fault ↔ draft.FirstFault fault := by
  rw [← map_eq_error_iff, check_map_eq, bind_eq_error_iff, checkedId_eq_error_iff]
  simp only [checkedId_eq_ok_iff, forM_eq_error_iff, firstFailure_checkField_iff]
  constructor
  · rintro ((⟨hid, rfl⟩ | ⟨value, hid, hvalue, rfl⟩) | ⟨id, ⟨value, hid, hvalue⟩, i, field, hfield,
      hmissing, rfl, hbefore⟩)
    · exact .missingId hid
    · exact .invalidId hid hvalue
    · exact .missingField hid hvalue hfield hmissing hbefore
  · rintro (hid | ⟨hid, hvalue⟩ | ⟨hid, hvalue, hfield, hmissing, hbefore⟩)
    · exact .inl (.inl ⟨hid, rfl⟩)
    · exact .inl (.inr ⟨_, hid, hvalue, rfl⟩)
    · exact .inr ⟨_, ⟨_, hid, hvalue⟩, _, _, hfield, hmissing, rfl, hbefore⟩

/-- The complete drafts are those that describe an element. -/
theorem exists_describes_iff : (∃ element, draft.Describes element) ↔ draft.IsComplete := by
  constructor
  · rintro ⟨element, h⟩
    obtain ⟨value, hid, hvalue⟩ := h.id
    refine ⟨⟨value, hid, _, hvalue⟩, fun field => ?_⟩
    cases field <;> simp [gives, h.kind, h.x, h.y, h.width, h.height]
  · rintro ⟨⟨value, hid, id, hvalue⟩, hfield⟩
    obtain ⟨kind, hkind⟩ := Option.isSome_iff_exists.1 (hfield .kind)
    obtain ⟨x, hx⟩ := Option.isSome_iff_exists.1 (hfield .x)
    obtain ⟨y, hy⟩ := Option.isSome_iff_exists.1 (hfield .y)
    obtain ⟨width, hwidth⟩ := Option.isSome_iff_exists.1 (hfield .width)
    obtain ⟨height, hheight⟩ := Option.isSome_iff_exists.1 (hfield .height)
    exact ⟨⟨id, kind, x, y, width, height, _⟩, ⟨value, hid, hvalue⟩, hkind, hx, hy, hwidth, hheight,
      rfl⟩

/-- The drafts that are accepted are the complete ones. -/
theorem exists_check_eq_ok_iff : (∃ element, draft.check = .ok element) ↔ draft.IsComplete := by
  simp only [check_eq_ok_iff, exists_describes_iff]

/-- The first of several drafts that is refused is the first one that is not complete. -/
theorem firstFailure_check_iff {drafts : List ElementDraft} {i : Nat} {fault : ElementFault} :
    FirstFailure check drafts i fault ↔
      ∃ element, drafts[i]? = some element ∧ element.FirstFault fault ∧
        ∀ j < i, ∀ earlier ∈ drafts[j]?, earlier.IsComplete := by
  constructor
  · rintro ⟨⟨element, helement, hrefused⟩, haccepted⟩
    exact ⟨element, helement, check_eq_error_iff.1 hrefused, fun j hj earlier hearlier =>
      exists_check_eq_ok_iff.1 (haccepted j hj earlier hearlier)⟩
  · rintro ⟨element, helement, hfault, hbefore⟩
    exact ⟨⟨element, helement, check_eq_error_iff.2 hfault⟩, fun j hj earlier hearlier =>
      exists_check_eq_ok_iff.2 (hbefore j hj earlier hearlier)⟩

/-- Elements are checked in their order. -/
theorem checkAll_eq_ok_iff {index : Nat} {drafts : List ElementDraft} {elements : List Element} :
    checkAll index drafts = .ok elements ↔ List.Forall₂ Describes drafts elements := by
  induction drafts generalizing index elements with
  | nil =>
    rw [checkAll, List.forall₂_nil_left_iff, Except.ok.injEq]
    exact eq_comm
  | cons draft drafts ih =>
    rw [List.forall₂_cons_left_iff]
    simp only [checkAll, bind_eq_ok_iff, mapError_eq_ok_iff, check_eq_ok_iff, ih]
    constructor
    · rintro ⟨element, hdraft, elements, hdrafts, ⟨⟩⟩
      exact ⟨element, elements, hdraft, hdrafts, rfl⟩
    · rintro ⟨element, elements, hdraft, hdrafts, rfl⟩
      exact ⟨element, hdraft, elements, hdrafts, rfl⟩

/-- The first element that is refused is reported with its place. -/
theorem checkAll_eq_error_iff {index : Nat} {drafts : List ElementDraft} {error : LoadError} :
    checkAll index drafts = .error error ↔
      ∃ i fault, FirstFailure check drafts i fault ∧ error = .element (index + i) fault := by
  induction drafts generalizing index with
  | nil => simp [checkAll, not_firstFailure_nil]
  | cons draft drafts ih =>
    simp only [checkAll, bind_eq_error_iff, mapError_eq_error_iff, mapError_eq_ok_iff, ih]
    constructor
    · rintro (⟨fault, hdraft, rfl⟩ | ⟨element, hdraft, hrest⟩)
      · exact ⟨0, fault, firstFailure_cons_iff.2 (.inl ⟨rfl, hdraft⟩), rfl⟩
      · obtain ⟨i, fault, hdrafts, rfl⟩ | ⟨elements, -, ⟨⟩⟩ := hrest
        refine ⟨i + 1, fault, firstFailure_cons_iff.2 (.inr ⟨i, element, rfl, hdraft, hdrafts⟩), ?_⟩
        rw [Nat.add_assoc, Nat.add_comm 1 i]
    · rintro ⟨i, fault, hfailure, rfl⟩
      obtain ⟨rfl, hdraft⟩ | ⟨j, element, rfl, hdraft, hdrafts⟩ := firstFailure_cons_iff.1 hfailure
      · exact .inl ⟨fault, hdraft, rfl⟩
      · refine .inr ⟨element, hdraft, .inl ⟨j, fault, hdrafts, ?_⟩⟩
        rw [Nat.add_assoc, Nat.add_comm 1 j]

end ElementDraft

/-! ## Documents -/

/-- A name that a document may have: it holds a character that is not blank, and its length, blanks
included, is within the limit. -/
structure IsDocumentName (name : String) : Prop where
  not_blank : ∃ c ∈ name.toList, Text.isBlank c = false
  length_le : name.length ≤ maxNameLength

namespace DocumentDraft

/-- What is wrong with the name of a draft. -/
inductive NameFails (draft : DocumentDraft) : NameFault → Prop
  | missing (hname : draft.name = none) : NameFails draft .missing
  | blank {name : String} (hname : draft.name = some name)
      (hblank : ∀ c ∈ name.toList, Text.isBlank c) : NameFails draft .blank
  | tooLong {name : String} (hname : draft.name = some name)
      (hblank : ∃ c ∈ name.toList, Text.isBlank c = false) (hlength : maxNameLength < name.length) :
    NameFails draft .tooLong

/-- A draft says what a document is. Elements and settings that are not given are empty. -/
structure Describes (draft : DocumentDraft) (document : Document) : Prop where
  name : draft.name = some document.name
  isName : IsDocumentName document.name
  elements : List.Forall₂ ElementDraft.Describes (draft.elements.getD []) document.elements
  settings : draft.settings.getD .empty = document.settings

/-- The first fault of a draft: its name, or the first fault of the first element that is not
complete. -/
inductive FirstFault (draft : DocumentDraft) : LoadError → Prop
  | name {fault : NameFault} (hname : draft.NameFails fault) : FirstFault draft (.name fault)
  | element {name : String} {index : Nat} {element : ElementDraft} {fault : ElementFault}
      (hname : draft.name = some name) (hisName : IsDocumentName name)
      (helement : (draft.elements.getD [])[index]? = some element)
      (hfault : element.FirstFault fault)
      (hbefore : ∀ j < index, ∀ earlier ∈ (draft.elements.getD [])[j]?, earlier.IsComplete) :
    FirstFault draft (.element index fault)

variable {draft : DocumentDraft}

theorem checkedName_of_isDocumentName {name : String} (hname : draft.name = some name)
    (h : IsDocumentName name) : draft.checkedName = .ok name := by
  obtain ⟨c, hc, hblank⟩ := h.not_blank
  have htrim := Text.trimBlanks_ne_nil hc hblank
  have hlength : ¬ maxNameLength < name.length := Nat.not_lt.2 h.length_le
  simp [checkedName, hname, htrim, hlength]

theorem checkedName_of_nameFails {fault : NameFault} (h : draft.NameFails fault) :
    draft.checkedName = .error fault := by
  cases h with
  | missing hname => simp [checkedName, hname]
  | blank hname hblank => simp [checkedName, hname, Text.trimBlanks_eq_nil_iff.2 hblank]
  | tooLong hname hblank hlength =>
    obtain ⟨c, hc, hblank⟩ := hblank
    have htrim := Text.trimBlanks_ne_nil hc hblank
    simp [checkedName, hname, htrim, hlength]

/-- A name is one that a document may have, or there is something wrong with it. -/
theorem isDocumentName_or_nameFails (draft : DocumentDraft) :
    (∃ name, draft.name = some name ∧ IsDocumentName name) ∨ ∃ fault, draft.NameFails fault := by
  cases hname : draft.name with
  | none => exact .inr ⟨_, .missing hname⟩
  | some name =>
    by_cases hblank : ∃ c ∈ name.toList, Text.isBlank c = false
    · by_cases hlength : name.length ≤ maxNameLength
      · exact .inl ⟨name, rfl, hblank, hlength⟩
      · exact .inr ⟨_, .tooLong hname hblank (by omega)⟩
    · simp only [not_exists, not_and, Bool.not_eq_false] at hblank
      exact .inr ⟨_, .blank hname hblank⟩

theorem checkedName_eq_ok_iff {name : String} :
    draft.checkedName = .ok name ↔ draft.name = some name ∧ IsDocumentName name := by
  constructor
  · intro h
    obtain ⟨name', hname, hisName⟩ | ⟨fault, hfault⟩ := isDocumentName_or_nameFails draft
    · cases h.symm.trans (checkedName_of_isDocumentName hname hisName)
      exact ⟨hname, hisName⟩
    · cases h.symm.trans (checkedName_of_nameFails hfault)
  · rintro ⟨hname, hisName⟩
    exact checkedName_of_isDocumentName hname hisName

theorem checkedName_eq_error_iff {fault : NameFault} :
    draft.checkedName = .error fault ↔ draft.NameFails fault := by
  constructor
  · intro h
    obtain ⟨name, hname, hisName⟩ | ⟨fault', hfault⟩ := isDocumentName_or_nameFails draft
    · cases h.symm.trans (checkedName_of_isDocumentName hname hisName)
    · cases h.symm.trans (checkedName_of_nameFails hfault)
      exact hfault
  · exact checkedName_of_nameFails

/-- A draft becomes the document that it describes. -/
theorem check_eq_ok_iff {document : Document} :
    draft.check = .ok document ↔ draft.Describes document := by
  simp only [check, bind_eq_ok_iff, mapError_eq_ok_iff, checkedName_eq_ok_iff,
    ElementDraft.checkAll_eq_ok_iff]
  constructor
  · rintro ⟨name, ⟨hname, hisName⟩, elements, helements, ⟨⟩⟩
    exact ⟨hname, hisName, helements, rfl⟩
  · rintro ⟨hname, hisName, helements, hsettings⟩
    refine ⟨_, ⟨hname, hisName⟩, _, helements, ?_⟩
    rw [hsettings]
    rfl

/-- No element of a document that a draft describes has an empty identifier. -/
theorem Describes.id_ne_empty {document : Document} (h : draft.Describes document) :
    ∀ element ∈ document.elements, element.id ≠ "" := by
  intro element helement
  obtain ⟨_, -, hdescribes⟩ := exists_mem_of_forall₂_right h.elements helement
  obtain ⟨value, -, hvalue⟩ := hdescribes.id
  exact hvalue.ne_empty

/-- A draft is refused for its first fault. -/
theorem check_eq_error_iff {error : LoadError} :
    draft.check = .error error ↔ draft.FirstFault error := by
  simp only [check, bind_eq_error_iff, mapError_eq_error_iff, mapError_eq_ok_iff,
    checkedName_eq_ok_iff, checkedName_eq_error_iff, ElementDraft.checkAll_eq_error_iff,
    ElementDraft.firstFailure_check_iff, Nat.zero_add]
  constructor
  · rintro (⟨fault, hfault, rfl⟩ | ⟨name, ⟨hname, hisName⟩, hrest⟩)
    · exact .name hfault
    · obtain ⟨i, fault, ⟨element, helement, hfault, hbefore⟩, rfl⟩ | ⟨elements, -, ⟨⟩⟩ := hrest
      exact .element hname hisName helement hfault hbefore
  · intro h
    cases h with
    | name hfault => exact .inl ⟨_, hfault, rfl⟩
    | element hname hisName helement hfault hbefore =>
      exact .inr ⟨_, ⟨hname, hisName⟩, .inl ⟨_, _, ⟨_, helement, hfault, hbefore⟩, rfl⟩⟩

/-- The drafts that describe a document are those with a name that a document may have and with
complete elements. -/
theorem exists_describes_iff :
    (∃ document, draft.Describes document) ↔
      (∃ name, draft.name = some name ∧ IsDocumentName name) ∧
        ∀ element ∈ draft.elements.getD [], element.IsComplete := by
  constructor
  · rintro ⟨document, h⟩
    refine ⟨⟨_, h.name, h.isName⟩, fun element helement => ?_⟩
    exact ElementDraft.exists_describes_iff.1
      (exists_forall₂_iff.1 ⟨_, h.elements⟩ element helement)
  · rintro ⟨⟨name, hname, hisName⟩, hcomplete⟩
    obtain ⟨elements, helements⟩ := exists_forall₂_iff.2 fun element helement =>
      ElementDraft.exists_describes_iff.2 (hcomplete element helement)
    exact ⟨⟨name, elements, _⟩, hname, hisName, helements, rfl⟩

end DocumentDraft

end PageLayout
