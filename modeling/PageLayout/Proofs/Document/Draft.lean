import PageLayout.Document.Draft
import PageLayout.Proofs.Json.RoundTrip

/-!
# Drafts that are read from saved documents

What a saved document says is read as a draft that gives all fields, save that empty properties and
settings, which are left out, are missing in the draft.

- `Properties.reads_toValue`: properties read back in their order.
- `Element.reads_toValue` and `Document.reads_toValue`: what is read of a saved element and of a
  saved document.
-/

namespace PageLayout

open Json (Reads ReadsBack)

/-! ## Properties -/

namespace Properties

/-- A new name comes last. -/
theorem insertEntry_of_notMem {entries : List (String × Json.Value)} {key : String}
    (h : key ∉ entries.map Prod.fst) (value : Json.Value) :
    insertEntry key value entries = entries ++ [(key, value)] := by
  induction entries with
  | nil => rfl
  | cons entry entries ih =>
    rw [List.map_cons, List.mem_cons, not_or] at h
    rw [insertEntry, if_neg (Ne.symm h.1), ih h.2]
    rfl

theorem entries_foldl_insert (properties : Properties) {entries : List (String × Json.Value)}
    (h : ((properties.entries ++ entries).map Prod.fst).Nodup) :
    (entries.foldl (fun properties entry => properties.insert entry.1 entry.2) properties).entries =
      properties.entries ++ entries := by
  induction entries generalizing properties with
  | nil => simp
  | cons entry entries ih =>
    have hnew : entry.1 ∉ properties.entries.map Prod.fst := by
      intro hmem
      rw [List.map_append, List.map_cons] at h
      exact (List.nodup_append.1 h).2.2 _ hmem _ List.mem_cons_self rfl
    have hinsert : (properties.insert entry.1 entry.2).entries = properties.entries ++ [entry] :=
      insertEntry_of_notMem hnew entry.2
    rw [List.foldl_cons, ih _ (by rwa [hinsert, List.append_assoc]), hinsert, List.append_assoc]
    rfl

theorem eq_of_entries_eq {p q : Properties} (h : p.entries = q.entries) : p = q := by
  cases p
  cases q
  cases h
  rfl

/-- Properties are given by their entries. -/
theorem ofList_entries (properties : Properties) : ofList properties.entries = properties :=
  eq_of_entries_eq (entries_foldl_insert empty properties.nodup_keys)

/-- The properties, unless there are none: empty properties are not written. -/
def nonempty? (properties : Properties) : Option Properties :=
  if properties.isEmpty then none else some properties

/-- Properties that are not written are empty. -/
theorem getD_nonempty? (properties : Properties) :
    properties.nonempty?.getD empty = properties := by
  rw [nonempty?]
  split
  · next h => exact eq_of_entries_eq (List.isEmpty_iff.1 h).symm
  · rfl

/-- All values of properties fit. -/
def Fits (levels : Nat) (properties : Properties) : Prop :=
  ∀ entry ∈ properties.entries, entry.2.Fits levels

/-- A double stands in a value of properties. -/
def Holds (x : Float) (properties : Properties) : Prop :=
  ∃ entry ∈ properties.entries, entry.2.Holds x

/-- Properties read back in their order. -/
theorem reads_toValue {levels : Nat} {properties : Properties} (h : properties.Fits levels)
    (hreals : ∀ x, properties.Holds x → ReadsBack x) (level : Nat) :
    Reads (read (levels + 1)) (properties.toValue.pretty level) properties := by
  intro rest _
  have hmembers := Json.leads_readMemberInto (fun entry hentry =>
    Json.reads_pretty (h entry hentry) (fun x hx => hreals x ⟨entry, hentry, hx⟩) (level + 1))
    insert empty
  rw [show properties.entries.foldl _ empty = properties from properties.ofList_entries] at hmembers
  rw [toValue, Json.Value.pretty, List.cons_append, read.eq_def, Json.skipSpace_cons (by decide)]
  exact Json.readMembers_prettyMembers hmembers rest

end Properties

/-! ## Fields -/

section Fields

variable {σ α : Type} {read : Json.Reader α} {set : σ → Option α → σ} {name : String}

/-- A field is given a value that reads back, unless the value may be taken for `null`. -/
theorem reads_optionalField {level : Nat} {value : Json.Value} {a : α}
    (h : Reads read (value.pretty level) a) (hnull : (value.pretty level).head? ≠ some 'n')
    (record : σ) :
    Reads ((optionalField name read set).read record) (' ' :: value.pretty level)
      (set record (some a)) := by
  intro rest hrest
  have hstart := value.startsValue_pretty level
  have hskip : Json.skipSpace (' ' :: value.pretty level ++ rest) = value.pretty level ++ rest :=
    (hstart.append rest).skipSpace_eq
  have hoptional : Json.readOptional read (' ' :: value.pretty level ++ rest) =
      .ok (some a, rest) := by
    rw [Json.readOptional, hskip]
    split
    · next heq =>
      obtain ⟨c, hc, -⟩ := hstart
      have hhead := congrArg List.head? heq
      rw [List.head?_append, Option.mem_def.1 hc] at hhead
      exact absurd (hc.trans hhead) hnull
    · rw [h hrest]
      rfl
  simp only [optionalField, hoptional]
  rfl

/-- A double that reads back is not written as `null`. -/
theorem head?_pretty_ne_of_readsBack {x : Float} (h : ReadsBack x) (level : Nat) :
    ((Json.Value.number (.real x)).pretty level).head? ≠ some 'n' := by
  obtain ⟨c, cs, hcs, hstart⟩ := Json.exists_cons_of_readNumber h.readNumber
  rw [Json.Value.pretty_number, hcs]
  rintro ⟨⟩
  exact absurd hstart (by decide)

/-- Properties are given as the last field, unless they are empty. -/
theorem gives_properties {set : σ → Option Properties → σ} {levels : Nat} {properties : Properties}
    (h : properties.Fits levels) (hreals : ∀ x, properties.Holds x → ReadsBack x) (level : Nat)
    {record : σ} (hrecord : set record none = record) :
    Json.Gives level record [optionalField name (Properties.read (levels + 1)) set]
      (if properties.isEmpty then [] else [(name, properties.toValue)])
      (set record properties.nonempty?) := by
  rw [Properties.nonempty?]
  split
  · rw [hrecord]
    exact .nil _ _
  · exact .cons (reads_optionalField (properties.reads_toValue h hreals level) (by rintro ⟨⟩)
      record) (.nil _ _)

end Fields

/-! ## Elements -/

namespace Element

/-- The draft that a saved element is read as. -/
def draft (element : Element) : ElementDraft where
  id := some (.string element.id)
  kind := some element.kind
  x := some element.x
  y := some element.y
  width := some element.width
  height := some element.height
  properties := element.properties.nonempty?

/-- A double stands in an element: it places the element or stands in a property. -/
inductive Holds (element : Element) : Float → Prop
  | x : Holds element element.x
  | y : Holds element element.y
  | width : Holds element element.width
  | height : Holds element element.height
  | properties {x : Float} (h : element.properties.Holds x) : Holds element x

/-- A saved element is read as its draft. -/
theorem reads_toValue {levels : Nat} {element : Element} (h : element.properties.Fits levels)
    (hreals : ∀ x, element.Holds x → ReadsBack x) (level : Nat) :
    Reads (Json.readRecord ElementDraft.recordType (levels + 2)) (element.toValue.pretty level)
      element.draft := by
  have htext : ∀ s, ((Json.Value.string s).pretty (level + 1)).head? ≠ some 'n' := by
    rintro s ⟨⟩
  have hnumber : ∀ x, element.Holds x →
      ((Json.Value.number (.real x)).pretty (level + 1)).head? ≠ some 'n' :=
    fun x hx => head?_pretty_ne_of_readsBack (hreals x hx) (level + 1)
  have hid : Reads (Json.readValue (levels + 1)) ((Json.Value.string element.id).pretty (level + 1))
      (.string element.id) := Json.reads_pretty (.string _ _) (by rintro _ ⟨⟩) (level + 1)
  refine Json.reads_readRecord (by simp [ElementDraft.recordType, optionalField]) ?_
  exact .cons (reads_optionalField hid (htext _) _)
    (.cons (reads_optionalField (Json.reads_readText _ _) (htext _) _)
    (.cons (reads_optionalField (Json.reads_readFloat (hreals _ .x) _) (hnumber _ .x) _)
    (.cons (reads_optionalField (Json.reads_readFloat (hreals _ .y) _) (hnumber _ .y) _)
    (.cons (reads_optionalField (Json.reads_readFloat (hreals _ .width) _) (hnumber _ .width) _)
    (.cons (reads_optionalField (Json.reads_readFloat (hreals _ .height) _) (hnumber _ .height) _)
    (gives_properties h (fun x hx => hreals x (.properties hx)) _ rfl))))))

end Element

/-! ## Documents -/

namespace Document

/-- The draft that a saved document is read as. -/
def draft (document : Document) : DocumentDraft where
  name := some document.name
  elements := some (document.elements.map Element.draft)
  settings := document.settings.nonempty?

/-- A double stands in a document: in one of its elements or in a setting. -/
inductive Holds (document : Document) : Float → Prop
  | element {element : Element} {x : Float} (helement : element ∈ document.elements)
      (h : element.Holds x) : Holds document x
  | settings {x : Float} (h : document.settings.Holds x) : Holds document x

/-- All values in a document that is read with so many levels fit. -/
structure Fits (levels : Nat) (document : Document) : Prop where
  properties : ∀ element ∈ document.elements, element.properties.Fits levels
  settings : document.settings.Fits (levels + 2)

/-- A saved document is read as its draft. -/
theorem reads_toValue {levels : Nat} {document : Document} (h : document.Fits levels)
    (hreals : ∀ x, document.Holds x → ReadsBack x) (level : Nat) :
    Reads (Json.readRecord DocumentDraft.recordType (levels + 4)) (document.toValue.pretty level)
      document.draft := by
  have helements : List.Forall₂
      (fun value draft => Reads (Json.readRecord ElementDraft.recordType (levels + 2))
        (Json.Value.pretty (level + 2) value) draft)
      (document.elements.map Element.toValue) (document.elements.map Element.draft) := by
    rw [List.forall₂_map_left_iff, List.forall₂_map_right_iff, List.forall₂_same]
    exact fun element helement => Element.reads_toValue (h.properties element helement)
      (fun x hx => hreals x (.element helement hx)) (level + 2)
  refine Json.reads_readRecord (by simp [DocumentDraft.recordType, optionalField]) ?_
  exact .cons (reads_optionalField (Json.reads_readText _ _) (by rintro ⟨⟩) _)
    (.cons (reads_optionalField (Json.reads_readList helements) (by rintro ⟨⟩) _)
    (gives_properties h.settings (fun x hx => hreals x (.settings hx)) _ rfl))

end Document

end PageLayout
