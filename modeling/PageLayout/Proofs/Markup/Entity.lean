import Mathlib.Tactic.SplitIfs
import PageLayout.Markup.Basic
import PageLayout.Proofs.Text.Replaced

/-!
# Reading escaped text

Escaping replaces single characters by entities. Here an entity is read back in one pass over the
text, and the pass is shown to undo each of the three ways of escaping, whatever the text is, also
if it holds what looks like an entity. Each of the three ways writes the entities of a table of its
own, and a reader who knows more entities than these is not misled.

- `decode_flatMap`: the pass undoes every escaping of single characters that its table `Undoes`.
- `undoes_encodeChar`: a table undoes what is written with its entities if none of their names is
  the beginning of another one.
- `textChar_eq`, `attributeChar_eq` and `templateChar_eq`: the tables of the three ways.
- `replaceChars_eq`: looking for characters to escape first makes no difference.
- `Escaping.decode_text` and `decode_escapeAttribute`: running text and attribute values read back.
- `Escaping.lt_notMem_text` and `quote_notMem_escapeAttribute`: neither holds the character that
  would end it.
-/

namespace PageLayout.Markup

/-- A name for a character, which stands in a text after an ampersand. -/
structure Entity where
  /-- The name with the semicolon that ends it. -/
  name : List Char
  char : Char
deriving DecidableEq, Repr

/-- The entities that a reader of pages knows. -/
def entities : List Entity :=
  [⟨['a', 'm', 'p', ';'], '&'⟩, ⟨['l', 't', ';'], '<'⟩, ⟨['g', 't', ';'], '>'⟩,
    ⟨['q', 'u', 'o', 't', ';'], '"'⟩, ⟨['#', '1', '2', '3', ';'], '\x7b'⟩,
    ⟨['#', '1', '2', '5', ';'], '\x7d'⟩]

/-- One pass over a text that replaces the entities of a table by what they stand for. An
ampersand that begins none of them stands for itself. -/
def decode (table : List Entity) : List Char → List Char
  | [] => []
  | c :: cs =>
    if c = '&' then
      match table.find? fun entity => entity.name.isPrefixOf cs with
      | some entity => entity.char :: decode table (cs.drop entity.name.length)
      | none => c :: decode table cs
    else c :: decode table cs
termination_by cs => cs.length
decreasing_by all_goals simp +arith

variable {table : List Entity}

/-- A character that is no ampersand stands for itself. -/
theorem decode_cons_of_ne {c : Char} (hc : c ≠ '&') (cs : List Char) :
    decode table (c :: cs) = c :: decode table cs := by
  rw [decode, if_neg hc]

/-- The entity that the table finds is replaced by its character. -/
theorem decode_entity {entity : Entity} {rest : List Char}
    (hfind : table.find? (fun e => e.name.isPrefixOf (entity.name ++ rest)) = some entity) :
    decode table ('&' :: (entity.name ++ rest)) = entity.char :: decode table rest := by
  rw [decode, if_pos rfl, hfind]
  simp

/-- A table undoes an escaping of single characters: each character is written as itself, and is
no ampersand then, or as an entity of its own, which the table finds whatever comes after it. -/
def Undoes (table : List Entity) (escape : Char → List Char) : Prop :=
  ∀ c, (c ≠ '&' ∧ escape c = [c]) ∨
    ∃ entity : Entity, entity.char = c ∧ escape c = '&' :: entity.name ∧
      ∀ rest, table.find? (fun e => e.name.isPrefixOf (entity.name ++ rest)) = some entity

/-- One pass undoes every escaping that its table undoes character by character. -/
theorem decode_flatMap {escape : Char → List Char} (h : Undoes table escape) (cs : List Char) :
    decode table (cs.flatMap escape) = cs := by
  induction cs with
  | nil => simp [decode]
  | cons c cs ih =>
    rw [List.flatMap_cons]
    -- Whatever `c` was written as, the pass reads just that before it goes on.
    obtain ⟨hc, hself⟩ | ⟨entity, hchar, hentity, hfind⟩ := h c
    · rw [hself, List.singleton_append, decode_cons_of_ne hc, ih]
    · rw [hentity, List.cons_append, decode_entity (hfind _), hchar, ih]

/-! ## Writing with a table -/

/-- A character as it is written with the entities of a table: as its entity, or as itself if it has
none. -/
def encodeChar (table : List Entity) (c : Char) : List Char :=
  match table.find? fun entity => entity.char == c with
  | some entity => '&' :: entity.name
  | none => [c]

/-- The characters that the entities of a table stand for. -/
def charsOf (table : List Entity) : List Char :=
  table.map Entity.char

/-- The entities of a table can be told apart by their names, even if something follows: no name is
the beginning of another one. -/
def IsPrefixFree (table : List Entity) : Prop :=
  ∀ entity ∈ table, ∀ other ∈ table, entity.name <+: other.name → entity = other

instance (table : List Entity) : Decidable (IsPrefixFree table) :=
  inferInstanceAs
    (Decidable (∀ entity ∈ table, ∀ other ∈ table, entity.name <+: other.name → entity = other))

/-- A character is written as itself if it has no entity, and otherwise as one of its entities. -/
theorem encodeChar_cases (table : List Entity) (c : Char) :
    (c ∉ charsOf table ∧ encodeChar table c = [c]) ∨
      ∃ entity ∈ table, entity.char = c ∧ encodeChar table c = '&' :: entity.name := by
  rw [encodeChar]
  split
  · next entity hfind =>
    have hchar : entity.char = c := by simpa using List.find?_some hfind
    exact .inr ⟨entity, List.mem_of_find?_eq_some hfind, hchar, rfl⟩
  · next hfind =>
    refine .inl ⟨fun hc => ?_, rfl⟩
    obtain ⟨entity, hentity, rfl⟩ := List.mem_map.1 hc
    simpa using List.find?_eq_none.1 hfind entity hentity

/-- Each entity of a table whose names are told apart is found, whatever comes after its name. -/
theorem IsPrefixFree.find?_eq (h : IsPrefixFree table) {entity : Entity} (hentity : entity ∈ table)
    (rest : List Char) :
    table.find? (fun e => e.name.isPrefixOf (entity.name ++ rest)) = some entity := by
  cases hfind : table.find? fun e => e.name.isPrefixOf (entity.name ++ rest) with
  | none =>
    have hnot := List.find?_eq_none.1 hfind entity hentity
    exact absurd (by simp) hnot
  | some found =>
    have hfound : found ∈ table := List.mem_of_find?_eq_some hfind
    have hbegins : found.name <+: entity.name ++ rest := by simpa using List.find?_some hfind
    -- Of two names that begin the same text, one begins the other.
    rcases List.prefix_or_prefix_of_prefix hbegins (List.prefix_append _ _) with hle | hle
    · rw [h found hfound entity hentity hle]
    · rw [h entity hentity found hfound hle]

/-- What is written with some entities of a table, the ampersand's among them, is undone by the
table. -/
theorem undoes_encodeChar {written : List Entity} (h : IsPrefixFree table)
    (hwritten : written ⊆ table) (hampersand : '&' ∈ charsOf written) :
    Undoes table (encodeChar written) := by
  intro c
  obtain ⟨hc, hself⟩ | ⟨entity, hentity, hchar, hwrite⟩ := encodeChar_cases written c
  · refine .inl ⟨?_, hself⟩
    rintro rfl
    exact hc hampersand
  · exact .inr ⟨entity, hchar, hwrite, h.find?_eq (hwritten hentity)⟩

/-- A character that has an entity and is in no name is never written, unless it is the
ampersand. -/
theorem notMem_flatMap_encodeChar {d : Char} (hd : d ∈ charsOf table) (hampersand : d ≠ '&')
    (hnames : ∀ entity ∈ table, d ∉ entity.name) (cs : List Char) :
    d ∉ cs.flatMap (encodeChar table) := by
  intro hmem
  obtain ⟨c, -, hc⟩ := List.mem_flatMap.1 hmem
  obtain ⟨hself, hwrite⟩ | ⟨entity, hentity, -, hwrite⟩ := encodeChar_cases table c
  · rw [hwrite, List.mem_singleton] at hc
    exact hself (hc ▸ hd)
  · rw [hwrite, List.mem_cons] at hc
    exact hc.elim hampersand (hnames entity hentity)

/-! ## The three ways of escaping -/

/-- The entities with which running text is written. -/
def textEntities : List Entity :=
  [⟨['a', 'm', 'p', ';'], '&'⟩, ⟨['l', 't', ';'], '<'⟩, ⟨['g', 't', ';'], '>'⟩]

/-- The entities with which the value of an attribute is written. -/
def attributeEntities : List Entity :=
  textEntities ++ [⟨['q', 'u', 'o', 't', ';'], '"'⟩]

/-- The entities with which the running text of a template is written. -/
def templateEntities : List Entity :=
  textEntities ++ [⟨['#', '1', '2', '3', ';'], '\x7b'⟩, ⟨['#', '1', '2', '5', ';'], '\x7d'⟩]

theorem textChar_eq : textChar = encodeChar textEntities := by
  funext c
  unfold textChar encodeChar textEntities
  split_ifs with hamp hlt hgt
  · rw [hamp]
    rfl
  · rw [hlt]
    rfl
  · rw [hgt]
    rfl
  · simp [Ne.symm hamp, Ne.symm hlt, Ne.symm hgt]

theorem attributeChar_eq : attributeChar = encodeChar attributeEntities := by
  funext c
  rw [attributeChar, textChar_eq]
  split_ifs with hquote
  · rw [hquote]
    rfl
  · simp [encodeChar, attributeEntities, Ne.symm hquote]

theorem templateChar_eq : templateChar = encodeChar templateEntities := by
  funext c
  rw [templateChar, textChar_eq]
  split_ifs with hopen hclose
  · rw [hopen]
    rfl
  · rw [hclose]
    rfl
  · simp [encodeChar, templateEntities, Ne.symm hopen, Ne.symm hclose]

/-- A text is written character by character, also if it is left alone because each is written as
itself. -/
theorem replaceChars_eq (written : Char → List Char) (text : String) :
    replaceChars written text = String.ofList (text.toList.flatMap written) := by
  rw [replaceChars]
  split
  · rfl
  · next hnone =>
    have hself : ∀ c ∈ text.toList, written c = [c] := by simpa using hnone
    rw [Text.flatMap_eq_self hself, String.ofList_toList]

theorem toList_escapeText (text : String) :
    (escapeText text).toList = text.toList.flatMap (encodeChar textEntities) := by
  rw [escapeText, replaceChars_eq, String.toList_ofList, textChar_eq]

theorem toList_escapeAttribute (value : String) :
    (escapeAttribute value).toList = value.toList.flatMap (encodeChar attributeEntities) := by
  rw [escapeAttribute, replaceChars_eq, String.toList_ofList, attributeChar_eq]

theorem toList_escapeTemplate (text : String) :
    (escapeTemplate text).toList = text.toList.flatMap (encodeChar templateEntities) := by
  rw [escapeTemplate, replaceChars_eq, String.toList_ofList, templateChar_eq]

/-- A reader of pages undoes what is written with some of the entities that it knows. -/
theorem decode_flatMap_encodeChar {written : List Entity} (hwritten : written ⊆ entities)
    (hampersand : '&' ∈ charsOf written) (cs : List Char) :
    decode entities (cs.flatMap (encodeChar written)) = cs :=
  decode_flatMap (undoes_encodeChar (by decide) hwritten hampersand) cs

namespace Escaping

variable {escaping : Escaping}

/-- Running text is written with some of the entities that a reader of pages knows. -/
theorem exists_table_text (h : escaping ≠ .none) :
    ∃ table, table ⊆ entities ∧ '&' ∈ charsOf table ∧ '<' ∈ charsOf table ∧
      ∀ content, (escaping.text content).toList = content.toList.flatMap (encodeChar table) := by
  cases escaping with
  | html => exact ⟨textEntities, by decide, by decide, by decide, toList_escapeText⟩
  | vue => exact ⟨templateEntities, by decide, by decide, by decide, toList_escapeTemplate⟩
  | none => exact absurd rfl h

/-- Escaped running text reads back. -/
theorem decode_text (h : escaping ≠ .none) (content : String) :
    decode entities (escaping.text content).toList = content.toList := by
  obtain ⟨table, hknown, hampersand, -, htext⟩ := exists_table_text h
  rw [htext]
  exact decode_flatMap_encodeChar hknown hampersand _

/-- Escaped running text does not open a tag. -/
theorem lt_notMem_text (h : escaping ≠ .none) (content : String) :
    '<' ∉ (escaping.text content).toList := by
  obtain ⟨table, hknown, -, hlt, htext⟩ := exists_table_text h
  have hnames : ∀ entity ∈ entities, '<' ∉ entity.name := by decide
  rw [htext]
  exact notMem_flatMap_encodeChar hlt (by decide)
    (fun entity hentity => hnames entity (hknown hentity)) _

/-- Attributes are escaped in the same way in both languages. -/
theorem attributeValue_eq (h : escaping ≠ .none) (value : String) :
    escaping.attributeValue value = escapeAttribute value := by
  cases escaping with
  | html => rfl
  | vue => rfl
  | none => exact absurd rfl h

/-- Comments are escaped in the same way in both languages. -/
theorem comment_eq (h : escaping ≠ .none) (content : String) :
    escaping.comment content = escapeComment content := by
  cases escaping with
  | html => rfl
  | vue => rfl
  | none => exact absurd rfl h

end Escaping

/-- An escaped attribute value reads back. -/
theorem decode_escapeAttribute (value : String) :
    decode entities (escapeAttribute value).toList = value.toList := by
  rw [toList_escapeAttribute]
  exact decode_flatMap_encodeChar (by decide) (by decide) _

/-- An escaped attribute value does not close the quotes around it. -/
theorem quote_notMem_escapeAttribute (value : String) :
    '"' ∉ (escapeAttribute value).toList := by
  rw [toList_escapeAttribute]
  exact notMem_flatMap_encodeChar (by decide) (by decide) (by decide) _

/-- An escaped attribute value does not open a tag. -/
theorem lt_notMem_escapeAttribute (value : String) : '<' ∉ (escapeAttribute value).toList := by
  rw [toList_escapeAttribute]
  exact notMem_flatMap_encodeChar (by decide) (by decide) (by decide) _

/-- Escaped running text does not open a tag. -/
theorem lt_notMem_escapeText (text : String) : '<' ∉ (escapeText text).toList :=
  Escaping.lt_notMem_text (show Escaping.html ≠ .none by decide) text

end PageLayout.Markup
