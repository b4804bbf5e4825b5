import PageLayout.Document.Load
import PageLayout.Proofs.Json.Fields
import PageLayout.Proofs.Json.Passed

/-!
# Documents written in other ways

What is loaded of a document does not depend on the order in which its fields and those of its
elements are written, nor on members of other names among them.

- `Document.Variant`: texts that differ in nothing else.
- `Document.load_eq_of_variant`: a variant of a text that loads is loaded as the same document.
-/

namespace PageLayout

open Json (IsArray IsObject IsValue Member Reads ReadsValues)

/-! ## Fields -/

section Fields

variable {σ α β : Type} {read : Json.Reader α} {read' : Json.Reader β} {set : σ → Option α → σ}
  {set' : σ → Option β → σ} {name name' : String}

theorem readsValues_optionalField (hread : ReadsValues read) (record : σ) :
    ReadsValues ((optionalField name read set).read record) where
  skipSpace := fun cs => by
    simp only [optionalField, hread.readOptional.skipSpace]
  keepsTo := fun _ h => (hread.readOptional.keepsTo h).map (set record)

/-- A value that is not `null` is given to the field as what it is read as. -/
theorem reads_optionalField_iff (hread : ReadsValues read) {text : List Char} (h : IsValue text)
    (hnull : text.head? ≠ some 'n') {record record' : σ} :
    Reads ((optionalField name read set).read record) text record' ↔
      ∃ a, Reads read text a ∧ set record (some a) = record' := by
  simp only [Reads, optionalField, h.readOptional_append hnull, map_eq_ok_iff]
  constructor
  · intro hreads
    obtain ⟨_, ⟨⟨a, _⟩, ha, rfl⟩, heq⟩ := hreads Json.endsNumber_nil
    cases heq
    exact ⟨a, (hread.keepsTo h Json.endsNumber_nil ha).1, rfl⟩
  · rintro ⟨a, ha, rfl⟩ rest hrest
    exact ⟨_, ⟨_, ha hrest, rfl⟩, rfl⟩

/-- Fields that are set in different places may be read in either order. -/
theorem commutes_optionalField
    (hset : ∀ record a b, set' (set record a) b = set (set' record b) a) :
    (optionalField name read set).Commutes (optionalField name' read' set') := by
  intro record final cs rest cs' rest'
  simp only [optionalField, map_eq_ok_iff, Prod.mk.injEq]
  constructor
  · rintro ⟨_, ⟨⟨a, _⟩, ha, rfl, rfl⟩, ⟨b, _⟩, hb, rfl, rfl⟩
    exact ⟨_, ⟨_, hb, rfl, rfl⟩, _, ha, (hset record a b).symm, rfl⟩
  · rintro ⟨_, ⟨⟨b, _⟩, hb, rfl, rfl⟩, ⟨a, _⟩, ha, rfl, rfl⟩
    exact ⟨_, ⟨_, ha, rfl, rfl⟩, _, hb, hset record a b, rfl⟩

end Fields

theorem Properties.readsValues_read (levels : Nat) : ReadsValues (Properties.read levels) where
  skipSpace := fun cs => by rw [read.eq_def, read.eq_def, Json.skipSpace_skipSpace]
  keepsTo := by
    intro text h
    by_cases hhead : text.head? = some '\x7b'
    · obtain ⟨gap, parts, hgap, hparts, rfl⟩ := h.exists_parts .object hhead
      cases levels with
      | zero => exact Json.keepsTo_of_ne_ok fun _ _ _ => Json.failPast_ne_ok
      | succ levels =>
        have hmembers : Json.KeepsTo (Json.readMembers (Json.readMemberInto insert levels) empty)
            (Json.bodyText .object gap parts) :=
          (Json.closes_of_eq_ok_iff fun _ _ _ => Json.readMembers_eq_ok_iff hgap hparts
            fun part hpart _ => Json.keepsTo_readMemberInto
              (Json.keepsTo_readValue (hparts part hpart).value levels)
              (hparts part hpart).lead).keepsTo
        exact hmembers.congr fun _ _ => rfl
    · refine Json.keepsTo_of_ne_ok fun rest _ r => ?_
      rw [← h.head?_append rest] at hhead
      rw [read.eq_def, h.skipSpace_append]
      split
      · next heq => exact absurd (congrArg List.head? heq) hhead
      · next heq => exact absurd (congrArg List.head? heq) hhead
      · exact Json.failType_ne_ok

theorem ElementDraft.regular_recordType (levels : Nat) : (recordType levels).Regular where
  readsValues := by
    simp only [recordType, List.forall_mem_cons]
    exact ⟨readsValues_optionalField (Json.readsValues_readValue levels),
      readsValues_optionalField Json.readsValues_readText,
      readsValues_optionalField Json.readsValues_readFloat,
      readsValues_optionalField Json.readsValues_readFloat,
      readsValues_optionalField Json.readsValues_readFloat,
      readsValues_optionalField Json.readsValues_readFloat,
      readsValues_optionalField (Properties.readsValues_read levels), by simp⟩
  commutes := by
    simp only [recordType, List.pairwise_cons, List.forall_mem_cons, List.Pairwise.nil,
      List.not_mem_nil, false_implies, implies_true, and_true]
    and_intros
    all_goals exact commutes_optionalField fun _ _ _ => rfl

theorem DocumentDraft.regular_recordType (levels : Nat) : (recordType levels).Regular where
  readsValues := by
    simp only [recordType, List.forall_mem_cons]
    exact ⟨readsValues_optionalField Json.readsValues_readText,
      readsValues_optionalField (Json.readsValues_readList
        (Json.readsValues_readRecord ElementDraft.regular_recordType) levels),
      readsValues_optionalField (Properties.readsValues_read levels), by simp⟩
  commutes := by
    simp only [recordType, List.pairwise_cons, List.forall_mem_cons, List.Pairwise.nil,
      List.not_mem_nil, false_implies, implies_true, and_true]
    and_intros
    all_goals exact commutes_optionalField fun _ _ _ => rfl

/-! ## Variants -/

/-- The names of the fields of an element. -/
def ElementDraft.fieldNames : List String :=
  ["id", "type", "x", "y", "width", "height", "properties"]

/-- The names of the fields of a document. -/
def DocumentDraft.fieldNames : List String :=
  ["name", "elements", "settings"]

/-- An element written in another way: as the same text, or, if it is an object, with the same
fields in any order among any other members. -/
inductive ElementDraft.Variant : List Char → List Char → Prop
  | same (text : List Char) : Variant text text
  | object {members members' : List Member} {text text' : List Char} (h : IsObject members text)
      (h' : IsObject members' text')
      (hfields : (Member.among fieldNames members).Perm (Member.among fieldNames members')) :
      Variant text text'

/-- A field of a document written in another way: as the same text, or, if it is the array of the
elements, with each element written in another way. -/
inductive DocumentDraft.FieldVariant : Member → Member → Prop
  | same (member : Member) : FieldVariant member member
  | elements {items items' : List (List Char)} {text text' : List Char} (h : IsArray items text)
      (h' : IsArray items' text') (hitems : List.Forall₂ ElementDraft.Variant items items') :
      FieldVariant ⟨"elements", text, h.isValue⟩ ⟨"elements", text', h'.isValue⟩

/-- A source is an object, blanks around it or not. -/
def IsObjectSource (members : List Member) (source : String) : Prop :=
  ∃ before text after, Json.IsGap before ∧ Json.IsGap after ∧ IsObject members text ∧
    source.toList = before ++ (text ++ after)

/-- A document written in another way: with the same fields in any order among any other members,
each as the same text or, if it is the array of the elements, with each element written in another
way. -/
def Document.Variant (source source' : String) : Prop :=
  ∃ members members' fields,
    IsObjectSource members source ∧ IsObjectSource members' source' ∧
      (Member.among DocumentDraft.fieldNames members).Perm fields ∧
        List.Forall₂ DocumentDraft.FieldVariant fields
          (Member.among DocumentDraft.fieldNames members')

/-! ## Reading variants -/

/-- A whole text is read as the value that stands in it, blanks around it or not. -/
theorem readWhole_eq_ok_iff_reads {α : Type} {read : Json.Reader α} (hread : ReadsValues read)
    {before text after : List Char} (hbefore : Json.IsGap before) (htext : IsValue text)
    (hafter : Json.IsGap after) {source : String}
    (hsource : source.toList = before ++ (text ++ after)) {a : α} :
    Json.readWhole read source = .ok a ↔ Reads read text a := by
  have hends : Json.EndsNumber after := by
    simpa using Json.endsNumber_gap hafter Json.endsNumber_nil
  have hskip : read (before ++ (text ++ after)) = read (text ++ after) := by
    rw [← hread.skipSpace, Json.skipSpace_gap hbefore, hread.skipSpace]
  rw [Json.readWhole_eq_ok_iff, hsource, hskip]
  constructor
  · rintro ⟨rest, hok, -⟩
    exact (hread.keepsTo htext hends hok).1
  · intro hreads
    exact ⟨after, hreads hends, List.dropWhile_eq_nil_iff.2 hafter⟩

/-- A variant of an element is read as the same draft. -/
theorem ElementDraft.Variant.reads {text text' : List Char} (h : ElementDraft.Variant text text')
    (levels : Nat) (draft : ElementDraft)
    (hread : Reads (Json.readRecord ElementDraft.recordType levels) text draft) :
    Reads (Json.readRecord ElementDraft.recordType levels) text' draft := by
  cases h with
  | same => exact hread
  | object h h' hfields =>
    exact Json.reads_readRecord_of_perm ElementDraft.regular_recordType h h' (fun _ => hfields)
      (fun levels => List.forall₂_same.2 fun member _ => ⟨rfl, fun _ _ _ _ hread => hread⟩) hread

/-- A variant of a field of a document may stand for it. -/
theorem DocumentDraft.FieldVariant.allows {member member' : Member}
    (h : DocumentDraft.FieldVariant member member') (levels : Nat) :
    (DocumentDraft.recordType levels).Allows member member' := by
  cases h with
  | same => exact ⟨rfl, fun _ _ _ _ hread => hread⟩
  | @elements items items' text text' h h' hitems =>
    refine ⟨rfl, fun field hfield record record' hread => ?_⟩
    -- An array is not `null`, so the field is given and not left out.
    have hnull : ∀ {items text}, IsArray items text → text.head? ≠ some 'n' := by
      rintro items text ⟨gap, parts, -, -, -, rfl⟩
      exact fun hhead => absurd (Option.some.inj hhead) (by decide)
    have hitem := Json.readsValues_readRecord ElementDraft.regular_recordType
    have hlist := Json.readsValues_readList hitem levels
    cases hfield
    obtain ⟨drafts, hdrafts, rfl⟩ := (reads_optionalField_iff hlist h.isValue (hnull h)).1 hread
    refine (reads_optionalField_iff hlist h'.isValue (hnull h')).2 ⟨drafts, ?_, rfl⟩
    exact Json.reads_readList_of_forall₂ hitem h h' (hitems.imp fun _ _ hitem => hitem.reads)
      hdrafts

theorem Document.load_eq_of_variant {source source' : String} {document : Document}
    (h : Document.Variant source source') (hload : Document.load source = .ok document) :
    Document.load source' = .ok document := by
  obtain ⟨members, members', fields, hsource, hsource', hperm, hfields⟩ := h
  obtain ⟨before, text, after, hbefore, hafter, hobject, htext⟩ := hsource
  obtain ⟨before', text', after', hbefore', hafter', hobject', htext'⟩ := hsource'
  have hvalues : ReadsValues DocumentDraft.read :=
    Json.readsValues_readRecord DocumentDraft.regular_recordType Json.maxLevels
  -- What is checked is the draft, so it is enough that both texts are read as the same one.
  obtain ⟨draft, hdraft, hcheck⟩ := bind_eq_ok_iff.1 hload
  rw [mapError_eq_ok_iff, readWhole_eq_ok_iff_reads hvalues hbefore hobject.isValue hafter htext]
    at hdraft
  have hdraft' : Reads DocumentDraft.read text' draft :=
    Json.reads_readRecord_of_perm DocumentDraft.regular_recordType hobject hobject'
      (fun _ => hperm) (fun levels => hfields.imp fun _ _ h => h.allows levels) hdraft
  refine bind_eq_ok_iff.2 ⟨draft, ?_, hcheck⟩
  rw [mapError_eq_ok_iff,
    readWhole_eq_ok_iff_reads hvalues hbefore' hobject'.isValue hafter' htext']
  exact hdraft'

namespace Document

/-- A small document. -/
def plainText : String :=
  "\x7b\"name\":\"P\",\"elements\":[\x7b\"id\":7,\"type\":\"t\",\"x\":1,\"y\":2," ++
    "\"width\":3,\"height\":4\x7d]\x7d"

/-- The same document with its fields in other orders, among nested and repeated members of other
names, of which one holds a number beyond all doubles and one half a pair of escapes. -/
def crowdedText : String :=
  "\x7b\"v\":[\x7b\"v\":1e999\x7d],\"elements\":[\x7b\"height\":4,\"width\":3,\"z\":\"\\ud800\"," ++
    "\"y\":2,\"x\":1,\"type\":\"t\",\"z\":\x7b\"id\":[]\x7d,\"id\":7\x7d],\"v\":null,\"name\":\"P\"\x7d"

/-- The document that both texts are loaded as. -/
def plain : Document where
  name := "P"
  elements := [{
    id := "7"
    kind := "t"
    x := 1.0
    y := 2.0
    width := 3.0
    height := 4.0
    properties := .empty }]
  settings := .empty

theorem load_plainText : load plainText = .ok plain := by
  rfl

/-- The fields of the element in the small document. -/
def elementMembers : List Member :=
  [⟨"id", ['7'], by decide⟩, ⟨"type", ['"', 't', '"'], by decide⟩, ⟨"x", ['1'], by decide⟩,
    ⟨"y", ['2'], by decide⟩, ⟨"width", ['3'], by decide⟩, ⟨"height", ['4'], by decide⟩]

/-- The members of the element in the other text. -/
def crowdedElementMembers : List Member :=
  [⟨"height", ['4'], by decide⟩, ⟨"width", ['3'], by decide⟩,
    ⟨"z", "\"\\ud800\"".toList, by decide⟩, ⟨"y", ['2'], by decide⟩, ⟨"x", ['1'], by decide⟩,
    ⟨"type", ['"', 't', '"'], by decide⟩, ⟨"z", "\x7b\"id\":[]\x7d".toList, by decide⟩,
    ⟨"id", ['7'], by decide⟩]

theorem isObject_elementMembers : IsObject elementMembers (Json.objectText elementMembers) :=
  Json.isObject_objectText (by decide)

theorem isObject_crowdedElementMembers :
    IsObject crowdedElementMembers (Json.objectText crowdedElementMembers) :=
  Json.isObject_objectText (by decide)

theorem isArray_elementMembers :
    IsArray [Json.objectText elementMembers] (Json.arrayText [Json.objectText elementMembers]) :=
  Json.isArray_arrayText (List.forall_mem_singleton.2 isObject_elementMembers.isValue)

theorem isArray_crowdedElementMembers :
    IsArray [Json.objectText crowdedElementMembers]
      (Json.arrayText [Json.objectText crowdedElementMembers]) :=
  Json.isArray_arrayText (List.forall_mem_singleton.2 isObject_crowdedElementMembers.isValue)

/-- The members of the small document. -/
def plainMembers : List Member :=
  [⟨"name", ['"', 'P', '"'], by decide⟩, ⟨"elements", _, isArray_elementMembers.isValue⟩]

/-- The members of the other text. -/
def crowdedMembers : List Member :=
  [⟨"v", "[\x7b\"v\":1e999\x7d]".toList, by decide⟩,
    ⟨"elements", _, isArray_crowdedElementMembers.isValue⟩,
    ⟨"v", ['n', 'u', 'l', 'l'], by decide⟩, ⟨"name", ['"', 'P', '"'], by decide⟩]

theorem variant_crowdedText : Variant plainText crowdedText := by
  -- The known fields of the element stand in the opposite order.
  have helement : ElementDraft.Variant (Json.objectText elementMembers)
      (Json.objectText crowdedElementMembers) :=
    .object isObject_elementMembers isObject_crowdedElementMembers (List.reverse_perm
      (Member.among ElementDraft.fieldNames elementMembers)).symm
  have hsource : IsObjectSource plainMembers plainText :=
    ⟨[], _, [], Json.isGap_nil, Json.isGap_nil, Json.isObject_objectText (by decide),
      by decide +kernel⟩
  have hsource' : IsObjectSource crowdedMembers crowdedText :=
    ⟨[], _, [], Json.isGap_nil, Json.isGap_nil, Json.isObject_objectText (by decide),
      by decide +kernel⟩
  exact ⟨_, _, _, hsource, hsource', .swap _ _ _,
    .cons (.elements isArray_elementMembers isArray_crowdedElementMembers (.cons helement .nil))
      (.cons (.same _) .nil)⟩

/-- The document is loaded from both texts. -/
theorem load_crowdedText :
    Variant plainText crowdedText ∧ load plainText = .ok plain ∧ load crowdedText = .ok plain :=
  ⟨variant_crowdedText, load_plainText, load_eq_of_variant variant_crowdedText load_plainText⟩

end Document

end PageLayout
