import PageLayout.Document.Span
import PageLayout.Proofs.Document.Faults
import PageLayout.Proofs.Document.Variants
import PageLayout.Proofs.Json.Taken

/-!
# Documents as values inside other readings

A document that is loaded as a value inside another reading is checked before the end of the text is
looked for, and a whole text after it. Both ways accept the same texts. They refuse the others for
the same reason, except that a fault of a document is reported without a place as a refused value,
and that it is found before the text behind a faulty document is.

- `LoadError.IsFault`: a document was read and found faulty.
- `LoadError.RefusedAs`: how a fault of an embedded document is reported.
- `DocumentDraft.exists_front_of_read`: a draft is read of its own text alone.
- `Document.BeginsFaulty`: a faulty document stands at the front of a text, and then something else.
- `Document.beginsFaulty_iff`: which texts these are for a reader.
- `Document.loadEmbedded_agrees`: what the two ways have in common, and where they part.
-/

namespace PageLayout

open Json (TakesValues skipSpace)

/-! ## Drafts at the front of a text -/

theorem takesValues_optionalField {σ α : Type} {name : String} {read : Json.Reader α}
    {set : σ → Option α → σ} (hread : TakesValues read) (record : σ) :
    TakesValues ((optionalField name read set).read record) := by
  intro cs record' rest h
  obtain ⟨_, hvalue, hrecord⟩ := map_eq_ok_iff.1 h
  cases hrecord
  exact hread.readOptional hvalue

theorem Properties.takesValues_read (levels : Nat) : TakesValues (Properties.read levels) := by
  intro cs properties rest h
  refine Json.BeginsValue.of_skipSpace ?_
  rw [read.eq_def] at h
  split at h
  · cases h
  · next heq =>
    have hmembers : Json.readMembers (Json.readMemberInto insert _) empty _ =
        .ok (properties, rest) := h
    rw [heq]
    exact (Json.within_readMembers
      (Json.takesMembers_readMemberInto (Json.takesValues_readValue _)) hmembers).beginsValue
  · exact absurd h Json.failType_ne_ok

theorem ElementDraft.takesValues_fields (levels : Nat) :
    ∀ field ∈ (recordType levels).fields, ∀ draft, TakesValues (field.read draft) := by
  simp only [recordType, List.forall_mem_cons]
  exact ⟨takesValues_optionalField (Json.takesValues_readValue levels),
    takesValues_optionalField Json.takesValues_readText,
    takesValues_optionalField Json.takesValues_readFloat,
    takesValues_optionalField Json.takesValues_readFloat,
    takesValues_optionalField Json.takesValues_readFloat,
    takesValues_optionalField Json.takesValues_readFloat,
    takesValues_optionalField (Properties.takesValues_read levels), by simp⟩

theorem DocumentDraft.takesValues_fields (levels : Nat) :
    ∀ field ∈ (recordType levels).fields, ∀ draft, TakesValues (field.read draft) := by
  simp only [recordType, List.forall_mem_cons]
  exact ⟨takesValues_optionalField Json.takesValues_readText,
    takesValues_optionalField (Json.takesValues_readList
      (Json.takesValues_readRecord ElementDraft.takesValues_fields) levels),
    takesValues_optionalField (Properties.takesValues_read levels), by simp⟩

/-- A draft is read of the text in front of the rest, and would be read of it whatever the rest
was. -/
theorem DocumentDraft.exists_front_of_read {cs rest : List Char} {draft : DocumentDraft}
    (h : read cs = .ok (draft, rest)) :
    ∃ front, cs = front ++ rest ∧ ∀ rest', read (front ++ rest') = .ok (draft, rest') :=
  Json.exists_front_of_readRecord regular_recordType takesValues_fields h

/-! ## Faults -/

/-- A document was read, but its name or one of its elements is faulty. -/
inductive LoadError.IsFault : LoadError → Prop
  | element (index : Nat) (fault : ElementFault) : IsFault (.element index fault)
  | name (fault : NameFault) : IsFault (.name fault)

theorem LoadError.not_isFault_json {error : Json.Error} : ¬ (LoadError.json error).IsFault := by
  rintro ⟨⟩

theorem DocumentDraft.isFault_of_check {draft : DocumentDraft} {error : LoadError}
    (h : draft.check = .error error) : error.IsFault := by
  cases check_eq_error_iff.1 h with
  | name => exact .name _
  | element => exact .element _ _

/-- A fault is reported as a value that is refused: in the words of the fault, and without a place,
so that no range of a text is marked. -/
structure LoadError.RefusedAs (fault : LoadError) (error : Json.Error) : Prop where
  message : error.message = fault.message
  position : error.position = none
  span : ∀ source, (LoadError.json error).span? source = none

theorem LoadError.refusedAs (fault : LoadError) :
    fault.RefusedAs ⟨.refused fault.message, none⟩ where
  message := rfl
  position := rfl
  span := fun _ => rfl

namespace Document

variable {source : String} {document : Document} {draft : DocumentDraft} {rest : List Char}
  {fault : LoadError}

/-- A text begins with a faulty document: a complete one, followed by something else than blanks. -/
def BeginsFaulty (source : String) (fault : LoadError) : Prop :=
  ∃ front rest : String, source = front ++ rest ∧ load front = .error fault ∧ fault.IsFault ∧
    ¬ Json.IsGap rest.toList

theorem load_eq_ok_iff :
    load source = .ok document ↔
      ∃ draft rest, DocumentDraft.read source.toList = .ok (draft, rest) ∧ skipSpace rest = [] ∧
        draft.check = .ok document := by
  simp only [load, bind_eq_ok_iff, mapError_eq_ok_iff, Json.readWhole_eq_ok_iff]
  constructor
  · rintro ⟨draft, ⟨rest, hread, hrest⟩, hcheck⟩
    exact ⟨draft, rest, hread, hrest, hcheck⟩
  · rintro ⟨draft, rest, hread, hrest, hcheck⟩
    exact ⟨draft, ⟨rest, hread, hrest⟩, hcheck⟩

/-- A fault is found in a draft that was read of the whole text. -/
theorem load_eq_error_iff (hfault : fault.IsFault) :
    load source = .error fault ↔
      ∃ draft rest, DocumentDraft.read source.toList = .ok (draft, rest) ∧ skipSpace rest = [] ∧
        draft.check = .error fault := by
  simp only [load, bind_eq_error_iff, mapError_eq_error_iff, mapError_eq_ok_iff,
    Json.readWhole_eq_ok_iff]
  constructor
  · rintro (⟨error, -, rfl⟩ | ⟨draft, ⟨rest, hread, hrest⟩, hcheck⟩)
    · exact absurd hfault LoadError.not_isFault_json
    · exact ⟨draft, rest, hread, hrest, hcheck⟩
  · rintro ⟨draft, rest, hread, hrest, hcheck⟩
    exact .inr ⟨draft, ⟨rest, hread, hrest⟩, hcheck⟩

/-- The text behind a draft is reported by the loader of whole texts, whatever the draft says. -/
theorem load_of_read (hread : DocumentDraft.read source.toList = .ok (draft, rest))
    (hrest : skipSpace rest ≠ []) :
    load source = .error (.json
      (Json.Failure.toError source.toList ⟨.trailingCharacters, skipSpace rest, 1⟩)) := by
  obtain ⟨c, cs, hskip⟩ := List.exists_cons_of_ne_nil hrest
  -- The reader of whole texts fails, so the draft is not checked.
  refine bind_eq_error_iff.2 (.inl (mapError_eq_error_iff.2 ⟨_, ?_, rfl⟩))
  refine mapError_eq_error_iff.2 ⟨_, bind_eq_error_iff.2 (.inr ⟨_, hread, ?_⟩), rfl⟩
  simp only [hskip]
  rfl

/-- A text that is no draft is refused by both loaders for the same reason. -/
theorem load_of_read_error {failure : Json.Failure}
    (hread : DocumentDraft.read source.toList = .error failure) :
    load source = .error (.json (failure.toError source.toList)) := by
  refine bind_eq_error_iff.2 (.inl (mapError_eq_error_iff.2 ⟨_, ?_, rfl⟩))
  exact mapError_eq_error_iff.2 ⟨_, bind_eq_error_iff.2 (.inl hread), rfl⟩

theorem loadEmbedded_of_read_error {failure : Json.Failure}
    (hread : DocumentDraft.read source.toList = .error failure) :
    loadEmbedded source = .error (.json (failure.toError source.toList)) := by
  rw [loadEmbedded, hread]

/-- A faulty draft is refused whatever stands behind it. -/
theorem loadEmbedded_of_check_error
    (hread : DocumentDraft.read source.toList = .ok (draft, rest))
    (hcheck : draft.check = .error fault) :
    loadEmbedded source = .error (.json ⟨.refused fault.message, none⟩) := by
  rw [loadEmbedded, hread]
  simp only [hcheck]

/-- A sound draft is accepted if nothing stands behind it, as by the loader of whole texts. -/
theorem loadEmbedded_of_check_ok
    (hread : DocumentDraft.read source.toList = .ok (draft, rest))
    (hcheck : draft.check = .ok document) : loadEmbedded source = load source := by
  rw [loadEmbedded, hread]
  simp only [hcheck]
  split
  · next hrest => exact (load_eq_ok_iff.2 ⟨draft, rest, hread, hrest, hcheck⟩).symm
  · next hrest => exact (load_of_read hread hrest).symm

theorem loadEmbedded_eq_ok_iff :
    loadEmbedded source = .ok document ↔ load source = .ok document := by
  cases hread : DocumentDraft.read source.toList with
  | error failure => rw [loadEmbedded_of_read_error hread, load_of_read_error hread]
  | ok r =>
    obtain ⟨draft, rest⟩ := r
    cases hcheck : draft.check with
    | ok document' => rw [loadEmbedded_of_check_ok hread hcheck]
    | error fault =>
      -- No other draft is read of the text, so this one would have to be sound.
      rw [loadEmbedded_of_check_error hread hcheck, load_eq_ok_iff]
      constructor
      · rintro ⟨⟩
      · rintro ⟨draft', rest', hread', -, hcheck'⟩
        cases hread.symm.trans hread'
        cases hcheck.symm.trans hcheck'

/-- A text begins with a faulty document if a faulty draft is read of it and something is left. -/
theorem beginsFaulty_iff :
    BeginsFaulty source fault ↔
      ∃ draft rest, DocumentDraft.read source.toList = .ok (draft, rest) ∧ skipSpace rest ≠ [] ∧
        draft.check = .error fault := by
  constructor
  · rintro ⟨front, rest, rfl, hload, hfault, hrest⟩
    obtain ⟨draft, gap, hread, hgap, hcheck⟩ := (load_eq_error_iff hfault).1 hload
    -- The same draft is read of the longer text, and the blanks behind it are passed.
    obtain ⟨text, hfront, hreads⟩ := DocumentDraft.exists_front_of_read hread
    refine ⟨draft, gap ++ rest.toList, ?_, ?_, hcheck⟩
    · rw [String.toList_append, hfront, List.append_assoc]
      exact hreads _
    · rw [Json.skipSpace_gap (List.dropWhile_eq_nil_iff.1 hgap)]
      exact fun heq => hrest (List.dropWhile_eq_nil_iff.1 heq)
  · rintro ⟨draft, rest, hread, hrest, hcheck⟩
    have hfault := DocumentDraft.isFault_of_check hcheck
    obtain ⟨text, hsource, hreads⟩ := DocumentDraft.exists_front_of_read hread
    refine ⟨String.ofList text, String.ofList rest, ?_, ?_, hfault, ?_⟩
    · rw [← String.ofList_append, ← hsource, String.ofList_toList]
    · refine (load_eq_error_iff hfault).2 ⟨draft, [], ?_, rfl, hcheck⟩
      simpa using hreads []
    · rw [String.toList_ofList]
      exact fun hgap => hrest (List.dropWhile_eq_nil_iff.2 hgap)

/-- An error in the form of a text is the same for both loaders, if no faulty document comes
before it. -/
theorem loadEmbedded_eq_of_not_beginsFaulty {error : Json.Error}
    (hload : load source = .error (.json error)) (hbegins : ∀ fault, ¬ BeginsFaulty source fault) :
    loadEmbedded source = .error (.json error) := by
  cases hread : DocumentDraft.read source.toList with
  | error failure => rw [loadEmbedded_of_read_error hread, ← hload, load_of_read_error hread]
  | ok r =>
    obtain ⟨draft, rest⟩ := r
    cases hcheck : draft.check with
    | ok document => rw [loadEmbedded_of_check_ok hread hcheck, hload]
    | error fault =>
      exfalso
      by_cases hrest : skipSpace rest = []
      -- With nothing behind the draft, its fault would have been reported.
      · have hfault := DocumentDraft.isFault_of_check hcheck
        cases hload.symm.trans
          ((load_eq_error_iff hfault).2 ⟨draft, rest, hread, hrest, hcheck⟩)
        exact LoadError.not_isFault_json hfault
      · exact hbegins fault (beginsFaulty_iff.2 ⟨draft, rest, hread, hrest, hcheck⟩)

/-- Both ways to load accept the same texts as the same documents, and a document that one of them
finds faulty is refused by the other. Where the text is not of the right form, both give the same
error, unless the text begins with a faulty document: what stands behind it is reported by the one,
and the fault by the other. -/
theorem loadEmbedded_agrees (source : String) :
    (∀ document, loadEmbedded source = .ok document ↔ load source = .ok document) ∧
      (∀ fault, fault.IsFault → load source = .error fault →
        ∃ error, loadEmbedded source = .error (.json error) ∧ fault.RefusedAs error) ∧
      (∀ fault, BeginsFaulty source fault →
        (∃ error, load source = .error (.json error) ∧ error.cause = .trailingCharacters) ∧
          ∃ error, loadEmbedded source = .error (.json error) ∧ fault.RefusedAs error) ∧
      ∀ error, load source = .error (.json error) → (∀ fault, ¬ BeginsFaulty source fault) →
        loadEmbedded source = .error (.json error) := by
  refine ⟨fun _ => loadEmbedded_eq_ok_iff, fun fault hfault hload => ?_, fun fault hbegins => ?_,
    fun error hload hbegins => ?_⟩
  · obtain ⟨draft, rest, hread, -, hcheck⟩ := (load_eq_error_iff hfault).1 hload
    exact ⟨_, loadEmbedded_of_check_error hread hcheck, fault.refusedAs⟩
  · obtain ⟨draft, rest, hread, hrest, hcheck⟩ := beginsFaulty_iff.1 hbegins
    exact ⟨⟨_, load_of_read hread hrest, rfl⟩, _, loadEmbedded_of_check_error hread hcheck,
      fault.refusedAs⟩
  · exact loadEmbedded_eq_of_not_beginsFaulty hload hbegins

-- A document without a name, and a letter behind it.
example : load "\x7b\x7dx" = .error (.json ⟨.trailingCharacters, some ⟨1, 3⟩⟩) ∧
    loadEmbedded "\x7b\x7dx" =
      .error (.json ⟨.refused (LoadError.name .missing).message, none⟩) :=
  ⟨rfl, rfl⟩

end Document

end PageLayout
