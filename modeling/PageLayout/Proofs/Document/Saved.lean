import PageLayout.Proofs.Document.Draft
import PageLayout.Proofs.Document.Faults

/-!
# Saving and loading

A document that was loaded, and whose doubles read back, is loaded again from its saved text:
nothing is lost, and the text does not change any more.

- `Document.exists_draft_of_load`: the values in a loaded document are such as a reader can give.
- `Document.load_save`: a loaded document is loaded again.
-/

namespace PageLayout

open Json (Yields)

/-! ## What is loaded -/

section Fields

variable {σ α : Type} {read : Json.Reader α} {set : σ → Option α → σ} {name : String}
  {p : σ → Prop} {q : α → Prop}

/-- A field that may be missing preserves what giving it a value does. -/
theorem yields_optionalField (hread : Yields read q)
    (hset : ∀ record value, p record → (∀ a ∈ value, q a) → p (set record value)) (record : σ)
    (hrecord : p record) : Yields ((optionalField name read set).read record) p := by
  intro cs record' rest h
  obtain ⟨⟨value, _⟩, hvalue, ⟨⟩⟩ := map_eq_ok_iff.1 h
  exact hset record value hrecord (Json.yields_readOptional hread hvalue)

/-- A field that has nothing to do with a property of records preserves it. -/
theorem yields_optionalField_of_forall (hset : ∀ record value, p record → p (set record value))
    (record : σ) (hrecord : p record) : Yields ((optionalField name read set).read record) p := by
  exact yields_optionalField (q := fun _ => True) (fun _ _ _ _ => trivial)
    (fun record value h _ => hset record value h) record hrecord

end Fields

namespace Properties

theorem mem_insertEntry {key : String} {value : Json.Value} {entries : List (String × Json.Value)}
    {entry : String × Json.Value} (h : entry ∈ insertEntry key value entries) :
    entry = (key, value) ∨ entry ∈ entries := by
  induction entries with
  | nil => simpa [insertEntry] using h
  | cons e entries ih =>
    rw [insertEntry] at h
    split at h
    · exact (List.mem_cons.1 h).imp_right (List.mem_cons_of_mem _)
    · obtain rfl | h := List.mem_cons.1 h
      · exact .inr List.mem_cons_self
      · exact (ih h).imp_right (List.mem_cons_of_mem _)

/-- The values of properties that are read fit. -/
theorem yields_read (levels : Nat) : Yields (read (levels + 1)) (Fits levels) := by
  intro cs properties rest h
  rw [read.eq_def] at h
  split at h
  · cases ‹levels + 1 = 0›
  · next heq =>
    cases heq
    refine Json.yields_foldMembers (fun properties key hproperties cs properties' rest h => ?_) _ _
      (p := Fits levels) (by rintro _ ⟨⟩) h
    obtain ⟨_, -, h⟩ := bind_eq_ok_iff.1 h
    obtain ⟨⟨value, _⟩, hvalue, ⟨⟩⟩ := bind_eq_ok_iff.1 h
    intro entry hentry
    obtain rfl | hentry := mem_insertEntry hentry
    · exact Json.yields_readValue levels hvalue
    · exact hproperties entry hentry
  · exact absurd h Json.failType_ne_ok

end Properties

/-- The properties of a draft fit. -/
def ElementDraft.Fits (levels : Nat) (draft : ElementDraft) : Prop :=
  ∀ properties ∈ draft.properties, properties.Fits levels

/-- All properties and settings in a draft fit. -/
structure DocumentDraft.Fits (levels : Nat) (draft : DocumentDraft) : Prop where
  elements : ∀ elements ∈ draft.elements, ∀ element ∈ elements, element.Fits levels
  settings : ∀ settings ∈ draft.settings, settings.Fits (levels + 2)

theorem ElementDraft.yields_read (levels : Nat) :
    Yields (Json.readRecord recordType (levels + 2)) (Fits levels) := by
  refine Json.yields_readRecord ?_ (by rintro _ ⟨⟩)
  simp only [recordType, List.forall_mem_cons, List.not_mem_nil, false_implies, implies_true,
    and_true]
  refine ⟨?_, ?_, ?_, ?_, ?_, ?_, ?_⟩
  on_goal 7 =>
    exact yields_optionalField (Properties.yields_read levels) fun _ _ _ hvalue => hvalue
  all_goals exact yields_optionalField_of_forall fun _ _ h => h

theorem DocumentDraft.yields_read (levels : Nat) :
    Yields (Json.readRecord recordType (levels + 4)) (Fits levels) := by
  refine Json.yields_readRecord ?_ ⟨by rintro _ ⟨⟩, by rintro _ ⟨⟩⟩
  simp only [recordType, List.forall_mem_cons, List.not_mem_nil, false_implies, implies_true,
    and_true]
  refine ⟨?_, ?_, ?_⟩
  · exact yields_optionalField_of_forall fun _ _ h => ⟨h.elements, h.settings⟩
  · exact yields_optionalField (Json.yields_readList (ElementDraft.yields_read levels))
      fun _ _ h hvalue => ⟨hvalue, h.settings⟩
  · exact yields_optionalField (Properties.yields_read (levels + 2))
      fun _ _ h hvalue => ⟨h.elements, hvalue⟩

theorem Properties.Fits.getD {levels : Nat} {value : Option Properties}
    (h : ∀ properties ∈ value, properties.Fits levels) : (value.getD .empty).Fits levels := by
  cases value with
  | none => rintro _ ⟨⟩
  | some properties => exact h properties rfl

/-- A document that a draft describes fits if the draft does. -/
theorem DocumentDraft.Describes.fits {levels : Nat} {draft : DocumentDraft} {document : Document}
    (h : draft.Describes document) (hfits : draft.Fits levels) : document.Fits levels where
  properties element helement := by
    obtain ⟨elementDraft, hmem, hdescribes⟩ := exists_mem_of_forall₂_right h.elements helement
    have helementDraft : elementDraft.Fits levels := by
      cases helements : draft.elements with
      | none => simp [helements] at hmem
      | some elements =>
        exact hfits.elements elements helements elementDraft (by simpa [helements] using hmem)
    rw [← hdescribes.properties]
    exact .getD helementDraft
  settings := by
    rw [← h.settings]
    exact .getD hfits.settings

/-! ## Saved documents -/

/-- The draft of a saved element describes the element. -/
theorem Element.describes_draft {element : Element} (h : element.id ≠ "") :
    element.draft.Describes element where
  id := ⟨_, rfl, .string h⟩
  kind := rfl
  x := rfl
  y := rfl
  width := rfl
  height := rfl
  properties := element.properties.getD_nonempty?

namespace Document

variable {source : String} {document : Document}

/-- What a document is loaded from is a draft that describes it, as many levels deep as a text may
nest. -/
theorem exists_draft_of_load (h : load source = .ok document) :
    ∃ draft : DocumentDraft, draft.Describes document ∧ draft.Fits 123 := by
  obtain ⟨draft, hread, hcheck⟩ := bind_eq_ok_iff.1 h
  obtain ⟨rest, hread, -⟩ := Json.readWhole_eq_ok_iff.1 (mapError_eq_ok_iff.1 hread)
  exact ⟨draft, DocumentDraft.check_eq_ok_iff.1 hcheck, DocumentDraft.yields_read 123 hread⟩

/-- The draft of a saved document describes the document if some draft does. -/
theorem describes_draft {draft : DocumentDraft} (h : draft.Describes document) :
    document.draft.Describes document where
  name := rfl
  isName := h.isName
  elements := by
    show List.Forall₂ _ (document.elements.map Element.draft) document.elements
    rw [List.forall₂_map_left_iff, List.forall₂_same]
    exact fun element helement => Element.describes_draft (h.id_ne_empty element helement)
  settings := document.settings.getD_nonempty?

/-- A document that was loaded is loaded again from its saved text, and then has the same text, if
each double in it reads back. -/
theorem load_save (hload : load source = .ok document)
    (hreals : ∀ x, document.Holds x → Json.ReadsBack x) :
    load document.save = .ok document ∧ (load document.save).map save = .ok document.save := by
  obtain ⟨draft, hdescribes, hfits⟩ := exists_draft_of_load hload
  have hread : DocumentDraft.read (document.toValue.pretty 0 ++ []) = .ok (document.draft, []) :=
    reads_toValue (hdescribes.fits hfits) hreals 0 Json.endsNumber_nil
  have hwhole : Json.readWhole DocumentDraft.read document.save = .ok document.draft := by
    refine Json.readWhole_eq_ok_iff.2 ⟨[], ?_, rfl⟩
    rw [List.append_nil] at hread
    rwa [save, Json.Value.toPretty, String.toList_ofList]
  have hagain : load document.save = .ok document := by
    refine bind_eq_ok_iff.2 ⟨document.draft, mapError_eq_ok_iff.2 hwhole, ?_⟩
    exact DocumentDraft.check_eq_ok_iff.2 (describes_draft hdescribes)
  exact ⟨hagain, by rw [hagain]; rfl⟩

/-- A text with a number for an identifier, a property without a value and a double in a nested
one. -/
def mixedText : String :=
  "\x7b\"name\":\"A\\n\",\"elements\":[\x7b\"id\":7,\"type\":\"t\",\"x\":1,\"y\":-0.0," ++
    "\"width\":2.5,\"height\":1,\"properties\":\x7b\"z\":null,\"a\":[\x7b\"k\":0.5\x7d]\x7d\x7d]\x7d"

/-- The document that the text is loaded as. -/
def mixed : Document where
  name := "A\n"
  elements := [{
    id := "7"
    kind := "t"
    x := 1.0
    y := -0.0
    width := 2.5
    height := 1.0
    properties :=
      ⟨[("z", .null), ("a", .array [.object [("k", .number (.real 0.5))]])], by decide⟩ }]
  settings := .empty

set_option maxRecDepth 2000 in
theorem load_mixedText : load mixedText = .ok mixed := by
  rfl

theorem readsBack_of_holds_mixed {x : Float} (h : mixed.Holds x) : Json.ReadsBack x := by
  cases h with
  | settings h =>
    obtain ⟨entry, hentry, -⟩ := h
    cases hentry
  | element helement h =>
    obtain rfl := List.mem_singleton.1 helement
    cases h with
    | x => rfl
    | y => rfl
    | width => rfl
    | height => rfl
    | properties h =>
      obtain ⟨entry, hentry, h⟩ := h
      obtain rfl | hentry := List.mem_cons.1 hentry
      · cases h
      · obtain rfl := List.mem_singleton.1 hentry
        cases h with
        | item hitem h =>
          obtain rfl := List.mem_singleton.1 hitem
          cases h with
          | member hmember h =>
            obtain rfl := List.mem_singleton.1 hmember
            cases h
            rfl

/-- The document with mixed values is loaded again, its identifier being a text now. -/
theorem load_save_mixed :
    load mixedText = .ok mixed ∧ (∀ x, mixed.Holds x → Json.ReadsBack x) ∧
      load mixed.save = .ok mixed ∧ (load mixed.save).map save = .ok mixed.save :=
  ⟨load_mixedText, fun _ hx => readsBack_of_holds_mixed hx,
    load_save load_mixedText fun _ hx => readsBack_of_holds_mixed hx⟩

end Document

end PageLayout
