import Mathlib.Data.List.Pairwise
import PageLayout.Proofs.Json.Values

/-!
# Fields in any order, among unknown ones

What is read of an object as a record is made of the members whose names are those of fields, each
name at most once. The other members are passed over, and the order of the members does not matter
if the fields can be read in either order.

- `RecordType.Regular`: a record type whose fields are values that can be read in either order.
- `reads_readMember_iff`: what one member does.
- `reads_readRecord_iff`: what an object is read as.
- `Fills.perm` and `Fills.of_forall₂`: the members may change places and values.
- `closes_readRecord`: a record is read up to its closing bracket, whatever comes after it.
- `readsValues_readRecord`: a record keeps to every value, whatever form it has.
-/

namespace PageLayout.Json

variable {α σ : Type} {type : RecordType σ} {member : Member} {members members' : List Member}
  {names : List String} {record record' final : σ} {field : Field σ} {part : Part}
  {parts : List Part} {rest rest' gap trail text : List Char}

/-! ## Records of fields -/

/-- Two fields may be read in either order. -/
def Field.Commutes (field field' : Field σ) : Prop :=
  ∀ (record final : σ) (cs rest cs' rest' : List Char),
    (∃ record', field.read record cs = .ok (record', rest) ∧
      field'.read record' cs' = .ok (final, rest')) ↔
        ∃ record', field'.read record cs' = .ok (record', rest') ∧
          field.read record' cs = .ok (final, rest)

instance : Std.Symm (@Field.Commutes σ) where
  symm _ _ h record final cs rest cs' rest' := (h record final cs' rest' cs rest).symm

/-- The fields of a record type are values that may be read in any order. -/
structure RecordType.Regular (type : RecordType σ) : Prop where
  readsValues : ∀ field ∈ type.fields, ∀ record, ReadsValues (field.read record)
  commutes : type.fields.Pairwise Field.Commutes

namespace RecordType

/-- The field of a name. -/
def field? (type : RecordType σ) (name : String) : Option (Field σ) :=
  type.fields.find? fun field => field.name == name

theorem mem_of_field? {name : String} (h : type.field? name = some field) : field ∈ type.fields :=
  List.mem_of_find?_eq_some h

theorem name_of_field? {name : String} (h : type.field? name = some field) : field.name = name := by
  simpa using List.find?_some h

theorem isSome_field?_iff {name : String} :
    (type.field? name).isSome ↔ name ∈ type.fields.map Field.name := by
  simp [field?]

/-- The members of an object that give fields. -/
def known (type : RecordType σ) (members : List Member) : List Member :=
  Member.among (type.fields.map Field.name) members

end RecordType

/-! ## Members -/

/-- What a member makes of a record that has been given the fields of some names: nothing if its
name is unknown, and otherwise it gives the field of its name, which must not be given before. -/
inductive Takes (type : RecordType σ) (state : List String × σ) (member : Member) :
    List String × σ → Prop
  | unknown (hfield : type.field? member.name = none) : Takes type state member state
  | known {field : Field σ} {record : σ} (hfield : type.field? member.name = some field)
      (hnew : member.name ∉ state.1) (hread : Reads (field.read state.2) member.value record) :
      Takes type state member (member.name :: state.1, record)

theorem Spells.isLiteral {raw chars : List Char} (h : Spells raw chars) : IsLiteral raw := by
  induction h with
  | nil => exact .nil
  | plain hquote hbackslash hcontrol _ ih => exact .plain hquote hbackslash hcontrol ih
  | short hescape _ ih => exact .short hescape ih
  | hex hunit _ _ _ ih => exact .hex hunit ih
  | pair hunit _ hunit' _ _ ih => exact .hex hunit (.hex hunit' ih)

theorem Part.Is.holds (h : part.Is member) : Bracket.object.Holds part where
  lead := by
    obtain ⟨raw, hraw, hkey⟩ := h.key
    exact ⟨raw, hraw.isLiteral, hkey⟩
  value := h.value ▸ member.isValue
  trail := h.trail

/-- A member is read from behind its name. -/
theorem Part.Is.readKeyed_eq (h : part.Is member) (read : σ → String → Reader σ) (state : σ) :
    ∃ after gap, IsGap after ∧ IsGap gap ∧ ∀ rest,
      readKeyed read state (Bracket.entry .object part ++ rest) =
        read state member.name (after ++ ':' :: (gap ++ (member.value ++ rest))) := by
  obtain ⟨⟨raw, hraw, hkey⟩, hvalue, -⟩ := h
  cases hkey with
  | @mk before after gap value trail hbefore hafter hgap =>
    obtain rfl : value = member.value := hvalue
    refine ⟨after, gap, hafter, hgap, fun rest => ?_⟩
    rw [entry_hasKey hbefore, List.append_assoc, List.cons_append, readKeyed,
      readString_spells hraw]
    simp [bind, Except.bind]

section Members

variable {state state' : List String × σ} {key : String} {after value : List Char}

theorem readMember_unknown (hfield : type.field? key = none) (hvalue : IsValue value)
    (hafter : IsGap after) (hgap : IsGap gap) (hrest : EndsNumber rest) :
    type.readMember state key (after ++ ':' :: (gap ++ (value ++ rest))) = .ok (state, rest) := by
  rw [RecordType.field?] at hfield
  rw [RecordType.readMember, hfield, readColon_gap hafter]
  simp only [bind, Except.bind, skipValue_isValue hvalue hgap hrest]
  rfl

theorem readMember_known (hfield : type.field? key = some field) (hnew : key ∉ state.1)
    (hread : ReadsValues (field.read state.2)) (hafter : IsGap after) (hgap : IsGap gap)
    (cs : List Char) :
    type.readMember state key (after ++ ':' :: (gap ++ cs)) =
      (field.read state.2 cs).map fun r => ((key :: state.1, r.1), r.2) := by
  have hcontains : state.1.contains key = false := by simpa using hnew
  rw [RecordType.field?] at hfield
  rw [RecordType.readMember, hfield]
  simp only [hcontains, Bool.false_eq_true, if_false]
  exact readColon_bind hread.skipSpace hafter hgap _ cs

theorem readMember_again (hfield : type.field? key = some field) (hagain : key ∈ state.1)
    {cs : List Char} {r : (List String × σ) × List Char} :
    type.readMember state key cs ≠ .ok r := by
  have hcontains : state.1.contains key = true := by simpa using hagain
  rw [RecordType.field?] at hfield
  rw [RecordType.readMember, hfield]
  simp only [hcontains, if_true]
  exact failAt_ne_ok

/-- A member of an object is kept to, whether its name is that of a field or not. -/
theorem keepsTo_readMember (htype : type.Regular) (h : Bracket.object.Holds part) :
    KeepsTo (readKeyed type.readMember state) (Bracket.entry .object part) := by
  obtain ⟨⟨raw, hraw, hkey⟩, hvalue, -⟩ := h
  cases hkey with
  | mk hbefore hafter hgap =>
    rw [entry_hasKey hbefore]
    refine KeepsTo.readKeyed (fun key => ?_) hraw
    -- An unknown value is passed over, a field given again is refused, and a new one is read.
    rcases hfield : type.field? key with _ | field
    · refine Reads.keepsTo (a := state) fun rest hrest => ?_
      simpa using readMember_unknown hfield hvalue hafter hgap hrest
    · by_cases hnew : key ∈ state.1
      · exact keepsTo_of_ne_ok fun _ _ _ => readMember_again hfield hnew
      · have hread := htype.readsValues field (type.mem_of_field? hfield) state.2
        refine ((hread.keepsTo hvalue).map fun record => (key :: state.1, record)).congr
          fun rest _ => ?_
        simpa using readMember_known hfield hnew hread hafter hgap _

/-- A member is read as what it makes of the record. -/
theorem reads_readMember_iff (htype : type.Regular) (h : part.Is member) :
    Reads (readKeyed type.readMember state) (Bracket.entry .object part) state' ↔
      Takes type state member state' := by
  obtain ⟨after, gap, hafter, hgap, hkeyed⟩ := h.readKeyed_eq type.readMember state
  constructor
  · intro hreads
    have hread := hreads endsNumber_nil
    rw [hkeyed] at hread
    rcases hfield : type.field? member.name with _ | field
    · rw [readMember_unknown hfield member.isValue hafter hgap endsNumber_nil] at hread
      cases hread
      exact .unknown hfield
    · have hnew : member.name ∉ state.1 := fun hagain => readMember_again hfield hagain hread
      have hvalues := htype.readsValues field (type.mem_of_field? hfield) state.2
      rw [readMember_known hfield hnew hvalues hafter hgap] at hread
      obtain ⟨⟨record, _⟩, hrecord, heq⟩ := map_eq_ok_iff.1 hread
      cases heq
      exact .known hfield hnew (hvalues.keepsTo member.isValue endsNumber_nil hrecord).1
  · rintro (hfield | ⟨hfield, hnew, hread⟩) rest hrest
    · rw [hkeyed]
      exact readMember_unknown hfield member.isValue hafter hgap hrest
    · have hvalues := htype.readsValues _ (type.mem_of_field? hfield) state.2
      rw [hkeyed, readMember_known hfield hnew hvalues hafter hgap, hread hrest]
      rfl

end Members

/-! ## Objects -/

/-- Members fill a record: each gives the field of its name to the record that is left by the ones
before it. -/
inductive Fills (type : RecordType σ) : σ → List Member → σ → Prop
  | nil (record : σ) : Fills type record [] record
  | cons {record record' final : σ} {field : Field σ} {member : Member} {members : List Member}
      (hfield : type.field? member.name = some field)
      (hread : Reads (field.read record) member.value record')
      (hmembers : Fills type record' members final) : Fills type record (member :: members) final

theorem RecordType.known_cons_of_none (hfield : type.field? member.name = none) :
    type.known (member :: members) = type.known members := by
  have hname : member.name ∉ type.fields.map Field.name := by
    simp [← isSome_field?_iff, hfield]
  rw [known, known, Member.among, List.filter_cons_of_neg (by simpa using hname), Member.among]

theorem RecordType.known_cons_of_some (hfield : type.field? member.name = some field) :
    type.known (member :: members) = member :: type.known members := by
  have hname : member.name ∈ type.fields.map Field.name := by
    simp [← isSome_field?_iff, hfield]
  rw [known, known, Member.among, List.filter_cons_of_pos (by simpa using hname), Member.among]

/-- Members are read in turn if their known names are new and those members fill the record. -/
theorem reaches_readMember_iff (htype : type.Regular) (h : List.Forall₂ Part.Is parts members) :
    (∃ names', Reaches (readKeyed type.readMember) (names, record)
      (parts.map (Bracket.entry .object)) (names', final)) ↔
        (∀ member ∈ type.known members, member.name ∉ names) ∧
          ((type.known members).map Member.name).Nodup ∧
            Fills type record (type.known members) final := by
  induction h generalizing names record with
  | nil =>
    constructor
    · rintro ⟨_, ⟨⟩⟩
      exact ⟨fun _ => nofun, List.nodup_nil, .nil _⟩
    · rintro ⟨-, -, ⟨⟩⟩
      exact ⟨names, .nil _⟩
  | @cons part member parts members hmember _ ih =>
    simp only [List.map_cons, reaches_cons_iff, reads_readMember_iff htype hmember]
    constructor
    -- A member of an unknown name leaves the state as it is; another one adds its name to those
    -- that the members after it must not have.
    · rintro ⟨names', _, hfield | ⟨hfield, hnew, hread⟩, hreaches⟩
      · rw [RecordType.known_cons_of_none hfield]
        exact ih.1 ⟨names', hreaches⟩
      · obtain ⟨hnames, hnodup, hfills⟩ := ih.1 ⟨names', hreaches⟩
        rw [RecordType.known_cons_of_some hfield, List.forall_mem_cons, List.map_cons,
          List.nodup_cons]
        refine ⟨⟨hnew, fun other hother => ?_⟩, ⟨?_, hnodup⟩, .cons hfield hread hfills⟩
        · exact fun hmem => hnames other hother (List.mem_cons_of_mem _ hmem)
        · rintro hmem
          obtain ⟨other, hother, heq⟩ := List.mem_map.1 hmem
          exact hnames other hother (heq ▸ List.mem_cons_self)
    · rintro ⟨hnames, hnodup, hfills⟩
      rcases hfield : type.field? member.name with _ | field
      · rw [RecordType.known_cons_of_none hfield] at hnames hnodup hfills
        obtain ⟨names', hreaches⟩ := ih.2 ⟨hnames, hnodup, hfills⟩
        exact ⟨names', _, .unknown hfield, hreaches⟩
      · rw [RecordType.known_cons_of_some hfield] at hnames hnodup hfills
        rw [List.forall_mem_cons] at hnames
        rw [List.map_cons, List.nodup_cons] at hnodup
        cases hfills with
        | cons hfield' hread hfills =>
          have hnames' : ∀ other ∈ type.known members, other.name ∉ member.name :: names := by
            intro other hother hmem
            rcases List.mem_cons.1 hmem with heq | hmem
            · exact hnodup.1 (List.mem_map.2 ⟨other, hother, heq⟩)
            · exact hnames.2 other hother hmem
          obtain ⟨names', hreaches⟩ := ih.2 ⟨hnames', hnodup.2, hfills⟩
          exact ⟨names', _, .known hfield' hnames.1 hread, hreaches⟩

/-- An object is read as a record member by member. -/
theorem readRecord_eq_ok_iff {type : Nat → RecordType σ} {levels : Nat}
    (htype : (type levels).Regular) (hgap : IsGap gap)
    (hparts : ∀ part ∈ parts, Bracket.object.Holds part) :
    readRecord type (levels + 1) ('\x7b' :: bodyText .object gap parts ++ rest) =
        .ok (record, rest') ↔
      (∃ names, Reaches (readKeyed (type levels).readMember) ([], (type levels).blank)
        (parts.map (Bracket.entry .object)) (names, record)) ∧ rest' = rest := by
  have hmembers : ∀ {state}, readMembers (type levels).readMember ([], (type levels).blank)
      (bodyText .object gap parts ++ rest) = .ok (state, rest') ↔
        Reaches (readKeyed (type levels).readMember) ([], (type levels).blank)
          (parts.map (Bracket.entry .object)) state ∧ rest' = rest :=
    readMembers_eq_ok_iff hgap hparts fun part hpart _ =>
      keepsTo_readMember htype (hparts part hpart)
  show Except.map _ (readMembers _ _ (bodyText .object gap parts ++ rest)) = _ ↔ _
  rw [map_eq_ok_iff, ← exists_and_right]
  constructor
  · rintro ⟨⟨⟨names, record'⟩, _⟩, hread, heq⟩
    cases heq
    exact ⟨names, hmembers.1 hread⟩
  · rintro ⟨names, hread⟩
    exact ⟨_, hmembers.2 hread, rfl⟩

/-- What an object is read as: its members of known names fill the record, and none of these names
stands twice. -/
theorem reads_readRecord_iff {type : Nat → RecordType σ} {levels : Nat}
    (htype : (type levels).Regular) (h : IsObject members text) :
    Reads (readRecord type (levels + 1)) text record ↔
      (((type levels).known members).map Member.name).Nodup ∧
        Fills (type levels) (type levels).blank ((type levels).known members) record := by
  obtain ⟨gap, parts, hgap, hparts, rfl⟩ := h
  have hholds : ∀ part ∈ parts, Bracket.object.Holds part :=
    ((List.forall₂_and_left _ _).1 (hparts.imp fun _ _ h => ⟨h.holds, h⟩)).1
  rw [reads_iff_of_eq_ok_iff fun _ _ _ => readRecord_eq_ok_iff htype hgap hholds,
    reaches_readMember_iff htype hparts]
  simp

/-! ## Other orders and other values -/

/-- The members that fill a record may stand in any order. -/
theorem Fills.perm (htype : type.Regular) (hperm : members.Perm members')
    (hnodup : (members.map Member.name).Nodup) (h : Fills type record members final) :
    Fills type record members' final := by
  induction hperm generalizing record with
  | nil => exact h
  | cons member _ ih =>
    rw [List.map_cons, List.nodup_cons] at hnodup
    cases h with
    | cons hfield hread hmembers => exact .cons hfield hread (ih hnodup.2 hmembers)
  | swap member member' members =>
    cases h with
    | @cons _ record₁ _ field' _ _ hfield' hread' hmembers =>
      cases hmembers with
      | @cons _ record₂ _ field _ _ hfield hread hmembers =>
        -- The two names differ, so the fields do, and may change places.
        have hne : field' ≠ field := by
          simp only [List.map_cons, List.nodup_cons, List.mem_cons, not_or] at hnodup
          rintro rfl
          exact hnodup.1.1 ((type.name_of_field? hfield').symm.trans (type.name_of_field? hfield))
        have hmem' := type.mem_of_field? hfield'
        have hmem := type.mem_of_field? hfield
        obtain ⟨record₃, hread₁, hread₂⟩ :=
          (htype.commutes.forall hmem' hmem hne _ _ _ _ _ _).1
            ⟨_, hread' endsNumber_nil, hread endsNumber_nil⟩
        have hreads₁ :=
          (htype.readsValues field hmem _).keepsTo member.isValue endsNumber_nil hread₁
        have hreads₂ :=
          (htype.readsValues field' hmem' _).keepsTo member'.isValue endsNumber_nil hread₂
        exact .cons hfield hreads₁.1 (.cons hfield' hreads₂.1 hmembers)
  | @trans members₁ members₂ members₃ hperm _ ih₁ ih₂ =>
    exact ih₂ ((hperm.map Member.name).nodup_iff.1 hnodup) (ih₁ hnodup h)

/-- A value of a field may stand for another one: what is read of it is also read of the other. -/
def RecordType.Allows (type : RecordType σ) (member member' : Member) : Prop :=
  member.name = member'.name ∧ ∀ field, type.field? member.name = some field →
    ∀ record record', Reads (field.read record) member.value record' →
      Reads (field.read record) member'.value record'

/-- The members that fill a record may have other values. -/
theorem Fills.of_forall₂ (h : Fills type record members final)
    (hmembers : List.Forall₂ type.Allows members members') : Fills type record members' final := by
  induction hmembers generalizing record with
  | nil => exact h
  | cons hmember _ ih =>
    cases h with
    | cons hfield hread hfills =>
      exact .cons (hmember.1 ▸ hfield) (hmember.2 _ hfield _ _ hread) (ih hfills)

theorem IsObject.isValue (h : IsObject members text) : IsValue text := by
  obtain ⟨gap, parts, hgap, hparts, rfl⟩ := h
  have hholds := ((List.forall₂_and_left _ _).1 (hparts.imp fun _ _ h => ⟨h.holds, h⟩)).1
  exact .within .object hgap (fun part hpart => (hholds part hpart).lead)
    (fun part hpart => (hholds part hpart).trail) fun part hpart => (hholds part hpart).value

/-- An object may be read in place of another one that has the same fields, each with the same value
or one that stands for it, in any order and among any members of unknown names. -/
theorem reads_readRecord_of_perm {type : Nat → RecordType σ} {levels : Nat}
    (htype : ∀ levels, (type levels).Regular) {members'' : List Member} {text' : List Char}
    (h : IsObject members text) (h' : IsObject members'' text')
    (hperm : ∀ levels, ((type levels).known members).Perm members')
    (hmembers : ∀ levels,
      List.Forall₂ (type levels).Allows members' ((type levels).known members''))
    (hread : Reads (readRecord type levels) text record) :
    Reads (readRecord type levels) text' record := by
  cases levels with
  | zero =>
    -- Without a level left, no object is read at all.
    obtain ⟨gap, parts, -, -, rfl⟩ := h
    exact absurd (hread endsNumber_nil) failPast_ne_ok
  | succ levels =>
    rw [reads_readRecord_iff (htype levels) h] at hread
    rw [reads_readRecord_iff (htype levels) h']
    obtain ⟨hnodup, hfills⟩ := hread
    -- The names are the same in another order, so none of them stands twice here either.
    have hnames : members'.map Member.name =
        ((type levels).known members'').map Member.name := by
      rw [← List.forall₂_eq_eq_eq, List.forall₂_map_left_iff, List.forall₂_map_right_iff]
      exact (hmembers levels).imp fun _ _ hallows => hallows.1
    refine ⟨?_, (hfills.perm (htype levels) (hperm levels) hnodup).of_forall₂ (hmembers levels)⟩
    rw [← hnames]
    exact ((hperm levels).map Member.name).nodup_iff.1 hnodup

/-! ## Arrays -/

section Slots

variable {fields : List (Field σ)} {index : Nat} {cs : List Char}

theorem readSlots_nil_eq_ok_iff :
    type.readSlots index [] record cs = .ok (final, rest) ↔
      final = record ∧ skipSpace cs = ']' :: rest := by
  rw [RecordType.readSlots.eq_def]
  simp only
  split
  · next heq => simp [heq, failPast]
  · next heq => simp [heq, eq_comm]
  · next heq =>
    rw [heq]
    split <;> simp [failPast]
  · next hclose _ =>
    refine ⟨fun h => absurd h failPast_ne_ok, ?_⟩
    rintro ⟨-, heq⟩
    exact absurd heq (hclose _)

/-- Where no slot is left, an array is closed: it ends there or is refused. -/
theorem closes_readSlots_nil
    (h : (∀ rest, skipSpace (text ++ rest) = ']' :: rest) ∨
      ∀ rest rest', skipSpace (text ++ rest) ≠ ']' :: rest') :
    Closes (type.readSlots index [] record) text := by
  intro rest final rest' hread
  obtain ⟨rfl, hclose⟩ := readSlots_nil_eq_ok_iff.1 hread
  rcases h with h | h
  · rw [h] at hclose
    exact ⟨fun rest => readSlots_nil_eq_ok_iff.2 ⟨rfl, h rest⟩, (List.cons.inj hclose).2.symm⟩
  · exact absurd hclose (h rest rest')

/-- An array that ends before all slots are filled is refused. -/
theorem closes_readSlots_done
    (hnext : ∀ rest, nextItem (index == 0) (text ++ rest) = .ok (.done rest)) :
    Closes (type.readSlots index (field :: fields) record) text := by
  refine closes_of_ne_ok fun rest r => ?_
  rw [RecordType.readSlots, hnext]
  exact failAt_ne_ok

/-- A slot is filled from the item that comes next, and the other slots from those after it. -/
theorem closes_readSlots_more (hfield : ReadsValues (field.read record)) (hgap : IsGap gap)
    (hpart : Bracket.list.Holds part)
    (hslots : ∀ record', Closes (type.readSlots (index + 1) fields record')
      (part.trail ++ tailText .list gap parts))
    (hnext : ∀ rest, nextItem (index == 0) (text ++ rest) =
      .ok (.more (part.value ++ (part.trail ++ (tailText .list gap parts ++ rest))))) :
    Closes (type.readSlots index (field :: fields) record) text := by
  have hends : ∀ rest, EndsNumber (part.trail ++ tailText .list gap parts ++ rest) := by
    intro rest
    rw [List.append_assoc]
    exact endsNumber_tailText .list hpart.trail hgap parts rest
  refine ((hfield.keepsTo hpart.value).bind_closes hends hslots).congr fun rest => ?_
  rw [RecordType.readSlots, hnext, List.append_assoc, List.append_assoc]
  rfl

/-- The slots after another one are closed. -/
theorem closes_readSlots_tailText
    (hfields : ∀ field ∈ fields, ∀ record, ReadsValues (field.read record)) (hgap : IsGap gap)
    (hparts : ∀ part ∈ parts, Bracket.list.Holds part) (htrail : IsGap trail) (index : Nat) :
    Closes (type.readSlots (index + 1) fields record) (trail ++ tailText .list gap parts) := by
  -- The induction is on the slots: there may be more items than slots, or fewer.
  induction fields generalizing parts trail index record with
  | nil =>
    refine closes_readSlots_nil ?_
    cases parts with
    | nil =>
      refine .inl fun rest => ?_
      rw [tailText, List.append_assoc, List.append_assoc, skipSpace_gap htrail]
      exact skipSpace_closing .list hgap rest
    | cons part parts =>
      refine .inr fun rest rest' heq => ?_
      rw [tailText, List.append_assoc, skipSpace_gap htrail, List.cons_append,
        skipSpace_cons (by decide)] at heq
      exact absurd (List.cons.inj heq).1 (by decide)
  | cons field fields ih =>
    rw [List.forall_mem_cons] at hfields
    cases parts with
    | nil =>
      refine closes_readSlots_done fun rest => ?_
      rw [tailText, List.append_assoc, List.append_assoc]
      exact (nextItem_gap false htrail _).trans (nextItem_close false hgap rest)
    | cons part parts =>
      rw [List.forall_mem_cons] at hparts
      refine closes_readSlots_more (hfields.1 record) hgap hparts.1
        (fun record' => ih hfields.2 hparts.2 hparts.1.trail (index + 1)) fun rest => ?_
      simpa [tailText, Bracket.next, Bracket.entry] using
        next_comma hparts.1 htrail (part.trail ++ (tailText .list gap parts ++ rest))

/-- The slots of an array are closed. -/
theorem closes_readSlots_bodyText
    (hfields : ∀ field ∈ fields, ∀ record, ReadsValues (field.read record)) (hgap : IsGap gap)
    (hparts : ∀ part ∈ parts, Bracket.list.Holds part) :
    Closes (type.readSlots 0 fields record) (bodyText .list gap parts) := by
  cases fields with
  | nil =>
    refine closes_readSlots_nil ?_
    cases parts with
    | nil =>
      refine .inl fun rest => ?_
      rw [bodyText, List.append_assoc]
      exact skipSpace_closing .list hgap rest
    | cons part parts =>
      refine .inr fun rest rest' heq => ?_
      obtain ⟨hlead, hvalue, -⟩ := hparts part List.mem_cons_self
      have hstart := hvalue.startsValue.append (part.trail ++ (tailText .list gap parts ++ rest))
      simp only [bodyText, List.append_assoc, skipSpace_gap (show IsGap part.lead from hlead),
        hstart.skipSpace_eq] at heq
      obtain ⟨c, hc, -, hclose, -⟩ := hstart
      rw [heq] at hc
      exact hclose (Option.some.inj hc).symm
  | cons field fields =>
    rw [List.forall_mem_cons] at hfields
    cases parts with
    | nil =>
      refine closes_readSlots_done fun rest => ?_
      rw [bodyText, List.append_assoc]
      exact nextItem_close true hgap rest
    | cons part parts =>
      rw [List.forall_mem_cons] at hparts
      refine closes_readSlots_more (hfields.1 record) hgap hparts.1
        (fun record' => closes_readSlots_tailText hfields.2 hgap hparts.2 hparts.1.trail 0)
        fun rest => ?_
      simpa [bodyText, Bracket.next, Bracket.entry] using
        next_first hparts.1 (part.trail ++ (tailText .list gap parts ++ rest))

end Slots

/-! ## Records in any form -/

/-- A record is closed at every value, since no other values than arrays and objects are read as
records. -/
theorem closes_readRecord {type : Nat → RecordType σ} (htype : ∀ levels, (type levels).Regular)
    (levels : Nat) (h : IsValue text) : Closes (readRecord type levels) text := by
  by_cases hlist : text.head? = some '['
  · obtain ⟨gap, parts, hgap, hparts, rfl⟩ := h.exists_parts .list hlist
    cases levels with
    | zero => exact closes_of_ne_ok fun _ _ => failPast_ne_ok
    | succ levels =>
      exact (closes_readSlots_bodyText (htype levels).readsValues hgap hparts).congr fun _ => rfl
  by_cases hobject : text.head? = some '\x7b'
  · obtain ⟨gap, parts, hgap, hparts, rfl⟩ := h.exists_parts .object hobject
    cases levels with
    | zero => exact closes_of_ne_ok fun _ _ => failPast_ne_ok
    | succ levels =>
      exact closes_of_eq_ok_iff fun _ _ _ => readRecord_eq_ok_iff (htype levels) hgap hparts
  · refine closes_of_ne_ok fun rest r => ?_
    rw [← h.head?_append rest] at hlist hobject
    rw [readRecord.eq_def, h.skipSpace_append]
    split
    all_goals first
      | exact failType_ne_ok
      | exact absurd (congrArg List.head? ‹_›) hlist
      | exact absurd (congrArg List.head? ‹_›) hobject

theorem readsValues_readRecord {type : Nat → RecordType σ}
    (htype : ∀ levels, (type levels).Regular) (levels : Nat) :
    ReadsValues (readRecord type levels) where
  skipSpace := fun cs => by
    rw [readRecord.eq_def, readRecord.eq_def, skipSpace_skipSpace]
  keepsTo := fun _ h => (closes_readRecord htype levels h).keepsTo

end PageLayout.Json
