import Mathlib.Data.String.Basic
import PageLayout.Json.Record
import PageLayout.Proofs.Json.Number
import PageLayout.Proofs.Results

/-!
# What readers give

A reader of JSON does not give every value: integers have 64 bits, the keys of an object ascend, and
no value nests deeper than the reader allows.

- `Yields`: a reader gives nothing but values with a property.
- `Value.Fits`: the values that a reader of a given number of levels can give.
- `yields_readValue`: a reader of values gives nothing else.
- `yields_readRecord`: what all fields of a record preserve holds of every record that is read.
-/

namespace PageLayout.Json

/-- A reader gives nothing but values with a property. -/
def Yields {α : Type} (read : Reader α) (p : α → Prop) : Prop :=
  ∀ ⦃cs a rest⦄, read cs = .ok (a, rest) → p a

/-- The values that a reader of at most so many levels can give. -/
inductive Value.Fits : Nat → Value → Prop
  | null (levels : Nat) : Fits levels .null
  | boolean (levels : Nat) (b : Bool) : Fits levels (.boolean b)
  | whole {levels : Nat} {n : Int} (h : IsInteger n) : Fits levels (.number (.whole n))
  | real (levels : Nat) (x : Float) : Fits levels (.number (.real x))
  | string (levels : Nat) (s : String) : Fits levels (.string s)
  | array {levels : Nat} {items : List Value} (h : ∀ item ∈ items, Fits levels item) :
    Fits (levels + 1) (.array items)
  | object {levels : Nat} {members : List (String × Value)}
      (hkeys : members.Pairwise fun a b => a.1 < b.1)
      (h : ∀ member ∈ members, Fits levels member.2) :
    Fits (levels + 1) (.object members)

variable {σ α : Type} {p : σ → Prop} {q : α → Prop}

/-! ## Arrays and objects -/

/-- What every item of an array preserves holds after the array. -/
theorem yields_foldItems {item : σ → Reader σ} (hitem : ∀ state, p state → Yields (item state) p)
    (bound : List Char) (first : Bool) {state : σ} (hstate : p state) :
    Yields (foldItems item bound first state) p := by
  induction bound generalizing first state with
  | nil => rintro _ _ _ ⟨⟩
  | cons _ bound ih =>
    intro cs a rest h
    obtain ⟨next, -, h⟩ := bind_eq_ok_iff.1 h
    cases next with
    | done rest => cases h; exact hstate
    | more rest =>
      obtain ⟨⟨state', rest⟩, hread, h⟩ := bind_eq_ok_iff.1 h
      exact ih false (hitem state hstate hread) h

/-- What every member of an object preserves holds after the object. -/
theorem yields_foldMembers {member : σ → String → Reader σ}
    (hmember : ∀ state key, p state → Yields (member state key) p) (bound : List Char)
    (first : Bool) {state : σ} (hstate : p state) :
    Yields (foldMembers member bound first state) p := by
  induction bound generalizing first state with
  | nil => rintro _ _ _ ⟨⟩
  | cons _ bound ih =>
    intro cs a rest h
    obtain ⟨next, -, h⟩ := bind_eq_ok_iff.1 h
    cases next with
    | done rest => cases h; exact hstate
    | more rest =>
      obtain ⟨⟨key, rest⟩, -, h⟩ := bind_eq_ok_iff.1 h
      obtain ⟨⟨state', rest⟩, hread, h⟩ := bind_eq_ok_iff.1 h
      exact ih false (hmember state key hstate hread) h

/-- Items that all have a property are read one after another. -/
theorem yields_pushItem {item : Reader α} (hitem : Yields item q) (done : List α)
    (hdone : ∀ a ∈ done, q a) : Yields (pushItem item done) fun items => ∀ a ∈ items, q a := by
  intro cs items rest h
  obtain ⟨⟨a, rest'⟩, hread, h⟩ := bind_eq_ok_iff.1 h
  cases h
  exact List.forall_mem_cons.2 ⟨hitem hread, hdone⟩

/-- A list is made of the items that its item reader gives. -/
theorem yields_readList {item : Nat → Reader α} {levels : Nat} (hitem : Yields (item levels) q) :
    Yields (readList item (levels + 1)) fun items => ∀ a ∈ items, q a := by
  intro cs items rest h
  rw [readList] at h
  split at h
  · obtain ⟨⟨items', rest'⟩, hread, h⟩ := map_eq_ok_iff.1 h
    cases h
    have hall := yields_foldItems (yields_pushItem hitem) _ _ (by simp) hread
    simpa using hall
  · exact absurd h failType_ne_ok

/-- A value that may be absent has the properties of those that its reader gives. -/
theorem yields_readOptional {read : Reader α} (hread : Yields read q) :
    Yields (readOptional read) fun value => ∀ a ∈ value, q a := by
  intro cs value rest h
  rw [readOptional] at h
  split at h
  · obtain ⟨_, -, h⟩ := map_eq_ok_iff.1 h
    cases h
    simp
  · obtain ⟨⟨a, _⟩, ha, h⟩ := map_eq_ok_iff.1 h
    cases h
    simpa using hread ha

/-! ## Values -/

theorem yields_readScalar (levels : Nat) : Yields readScalar (Value.Fits levels) := by
  intro cs value rest h
  rw [readScalar.eq_def] at h
  split at h
  · cases h
  · obtain ⟨_, -, ⟨⟩⟩ := map_eq_ok_iff.1 h; exact .null levels
  · obtain ⟨_, -, ⟨⟩⟩ := map_eq_ok_iff.1 h; exact .boolean levels _
  · obtain ⟨_, -, ⟨⟩⟩ := map_eq_ok_iff.1 h; exact .boolean levels _
  · obtain ⟨_, -, ⟨⟩⟩ := map_eq_ok_iff.1 h; exact .string levels _
  · split at h
    · obtain ⟨⟨number, _⟩, hread, ⟨⟩⟩ := map_eq_ok_iff.1 h
      cases number with
      | whole n => exact .whole (isInteger_of_readNumber hread)
      | real x => exact .real levels x
    · cases h

/-- A member of an object after `key` is given `value` is that one or an old one. -/
theorem Value.mem_insertMember {key : String} {value : Value} {members : List (String × Value)}
    {member : String × Value} (h : member ∈ insertMember key value members) :
    member = (key, value) ∨ member ∈ members := by
  induction members with
  | nil => simpa [insertMember] using h
  | cons m members ih =>
    rw [insertMember] at h
    split at h
    · exact List.mem_cons.1 h
    · split at h
      · exact (List.mem_cons.1 h).imp_right (List.mem_cons_of_mem _)
      · obtain rfl | h := List.mem_cons.1 h
        · exact .inr List.mem_cons_self
        · exact (ih h).imp_right (List.mem_cons_of_mem _)

/-- The keys of an object ascend after a member is given. -/
theorem Value.pairwise_insertMember {members : List (String × Value)}
    (h : members.Pairwise fun a b => a.1 < b.1) (key : String) (value : Value) :
    (insertMember key value members).Pairwise fun a b => a.1 < b.1 := by
  induction members with
  | nil => simp [insertMember]
  | cons m members ih =>
    obtain ⟨hm, hmembers⟩ := List.pairwise_cons.1 h
    rw [insertMember]
    split
    · next hlt =>
      refine List.pairwise_cons.2 ⟨List.forall_mem_cons.2 ⟨hlt, fun b hb => ?_⟩, h⟩
      exact lt_trans hlt (hm b hb)
    · next hlt =>
      split
      · next heq => exact List.pairwise_cons.2 ⟨fun b hb => heq ▸ hm b hb, hmembers⟩
      · next hne =>
        refine List.pairwise_cons.2 ⟨fun b hb => ?_, ih hmembers⟩
        obtain rfl | hb := mem_insertMember hb
        · exact lt_of_le_of_ne (not_lt.1 hlt) (Ne.symm hne)
        · exact hm b hb

/-- An object that is given a member fits if the member does. -/
theorem Value.Fits.insertMember {levels : Nat} {members : List (String × Value)} {value : Value}
    (h : Fits (levels + 1) (.object members)) (key : String) (hvalue : Fits levels value) :
    Fits (levels + 1) (.object (insertMember key value members)) := by
  cases h with
  | object hkeys hall =>
    refine .object (pairwise_insertMember hkeys key value) fun member hmember => ?_
    obtain rfl | hmember := mem_insertMember hmember
    · exact hvalue
    · exact hall member hmember

/-- A reader of values gives none that nests deeper than it may, or whose integers or keys are out
of range or order. -/
theorem yields_readValue (levels : Nat) : Yields (readValue levels) (Value.Fits levels) := by
  induction levels with
  | zero =>
    intro cs value rest h
    rw [readValue] at h
    split at h
    · cases h
    · cases h
    · exact yields_readScalar 0 h
  | succ levels ih =>
    intro cs value rest h
    rw [readValue] at h
    split at h
    · obtain ⟨⟨items, _⟩, hread, ⟨⟩⟩ := map_eq_ok_iff.1 h
      have hall := yields_foldItems (yields_pushItem ih) _ _ (by simp) hread
      exact .array (by simpa using hall)
    · obtain ⟨⟨members, _⟩, hread, ⟨⟩⟩ := map_eq_ok_iff.1 h
      -- The members read so far make up an object at all times.
      refine yields_foldMembers (p := fun members => Value.Fits (levels + 1) (.object members))
        (fun members key hmembers cs members' rest h => ?_) _ _ (.object .nil (by simp)) hread
      obtain ⟨_, -, h⟩ := bind_eq_ok_iff.1 h
      obtain ⟨⟨value, _⟩, hvalue, ⟨⟩⟩ := bind_eq_ok_iff.1 h
      exact hmembers.insertMember key (ih hvalue)
    · exact yields_readScalar (levels + 1) h

/-! ## Records -/

section Records

variable {type : RecordType σ}

theorem yields_readMember
    (hfields : ∀ field ∈ type.fields, ∀ record, p record → Yields (field.read record) p)
    (state : List String × σ) (key : String) (hstate : p state.2) :
    Yields (type.readMember state key) fun state => p state.2 := by
  intro cs state' rest h
  rw [RecordType.readMember] at h
  split at h
  · obtain ⟨_, -, h⟩ := bind_eq_ok_iff.1 h
    obtain ⟨_, -, ⟨⟩⟩ := bind_eq_ok_iff.1 h
    exact hstate
  · next field hfind =>
    split at h
    · cases h
    · obtain ⟨_, -, h⟩ := bind_eq_ok_iff.1 h
      obtain ⟨⟨record, _⟩, hread, ⟨⟩⟩ := bind_eq_ok_iff.1 h
      exact hfields field (List.mem_of_find?_eq_some hfind) _ hstate hread

theorem yields_readSlots {fields : List (Field σ)}
    (hfields : ∀ field ∈ fields, ∀ record, p record → Yields (field.read record) p) (index : Nat)
    {record : σ} (hrecord : p record) : Yields (type.readSlots index fields record) p := by
  induction fields generalizing index record with
  | nil =>
    intro cs record' rest h
    rw [RecordType.readSlots.eq_def] at h
    simp only at h
    split at h
    · cases h
    · cases h; exact hrecord
    · split at h <;> cases h
    · cases h
  | cons field fields ih =>
    obtain ⟨hfield, hfields⟩ := List.forall_mem_cons.1 hfields
    intro cs record' rest h
    rw [RecordType.readSlots] at h
    obtain ⟨next, -, h⟩ := bind_eq_ok_iff.1 h
    cases next with
    | done rest => cases h
    | more rest =>
      obtain ⟨⟨record₁, rest₁⟩, hread, h⟩ := bind_eq_ok_iff.1 h
      exact ih hfields (index + 1) (hfield record hrecord hread) h

/-- What all fields of a record preserve holds of every record that is read, in either form. -/
theorem yields_readRecord {type : Nat → RecordType σ} {levels : Nat}
    (hfields : ∀ field ∈ (type levels).fields, ∀ record, p record → Yields (field.read record) p)
    (hblank : p (type levels).blank) : Yields (readRecord type (levels + 1)) p := by
  intro cs record rest h
  rw [readRecord.eq_def] at h
  split at h
  · cases h
  · cases h
  · next _ heq =>
    cases heq
    exact yields_readSlots hfields 0 hblank h
  · next _ heq =>
    cases heq
    obtain ⟨⟨state, _⟩, hread, ⟨⟩⟩ := map_eq_ok_iff.1 h
    exact yields_foldMembers (p := fun state => p state.2) (yields_readMember hfields) _ _ hblank
      hread
  · exact absurd h failType_ne_ok

end Records

end PageLayout.Json
