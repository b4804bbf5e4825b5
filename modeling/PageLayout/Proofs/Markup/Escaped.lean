import Mathlib.Data.List.Nodup
import PageLayout.Proofs.Markup.Entity

/-!
# Escaped texts

Escaping with the entities of a table, and reading the same entities back, are inverse to each
other. They lead from all texts to those that are escaped and back: in an escaped text every
ampersand begins an entity of the table, and none of the other characters is there that have one.
This needs little of a table, and the tables of the three ways of escaping have it.

- `IsEscaped`: what the escaped texts are.
- `IsCode`: what is asked of a table.
- `isEscaped_flatMap_encodeChar`: what is written is escaped.
- `flatMap_decode`: an escaped text is written again from what it is read as.
- `inverts_escape`: all of this about the three ways of escaping.
-/

namespace PageLayout.Markup

/-- Every ampersand in a text begins an entity of a table, and some other characters are not in the
text. -/
structure IsEscaped (table : List Entity) (marks : List Char) (cs : List Char) : Prop where
  ampersand : ∀ before after, cs = before ++ '&' :: after → ∃ entity ∈ table, entity.name <+: after
  notMem : ∀ c ∈ marks, c ∉ cs

/-- What is asked of the entities of a table, if texts are to be written with them and read back:
the ampersand has one, no character has two, they are told apart by their names, and no name needs
to be escaped itself. -/
structure IsCode (table : List Entity) : Prop where
  ampersand : '&' ∈ charsOf table
  nodup : (charsOf table).Nodup
  prefixFree : IsPrefixFree table
  names : ∀ entity ∈ table, ∀ c ∈ charsOf table, c ∉ entity.name

instance (table : List Entity) : Decidable (IsCode table) :=
  have (entity : Entity) : Decidable (∀ c ∈ charsOf table, c ∉ entity.name) :=
    List.decidableBAll (· ∉ entity.name) (charsOf table)
  have : Decidable (∀ entity ∈ table, ∀ c ∈ charsOf table, c ∉ entity.name) :=
    List.decidableBAll _ table
  decidable_of_iff ('&' ∈ charsOf table ∧ (charsOf table).Nodup ∧ IsPrefixFree table ∧
      ∀ entity ∈ table, ∀ c ∈ charsOf table, c ∉ entity.name)
    ⟨fun h => ⟨h.1, h.2.1, h.2.2.1, h.2.2.2⟩,
      fun h => ⟨h.ampersand, h.nodup, h.prefixFree, h.names⟩⟩

/-- The characters of a table that are in no escaped text. -/
def marksOf (table : List Entity) : List Char :=
  (charsOf table).filter (· != '&')

variable {table : List Entity} {marks cs ds : List Char} {c : Char}

theorem mem_marksOf_iff : c ∈ marksOf table ↔ c ∈ charsOf table ∧ c ≠ '&' := by
  simp [marksOf]

/-! ## Escaped texts put together -/

theorem isEscaped_nil : IsEscaped table marks [] where
  ampersand before after h := absurd h (by simp)
  notMem _ _ := List.not_mem_nil

theorem IsEscaped.append (hcs : IsEscaped table marks cs) (hds : IsEscaped table marks ds) :
    IsEscaped table marks (cs ++ ds) where
  ampersand before after h := by
    rcases List.append_eq_append_iff.1 h with ⟨more, -, hmore⟩ | ⟨more, hmore, hafter⟩
    · exact hds.ampersand more after hmore
    · -- The ampersand stands in the first text, or right behind it.
      rcases more with _ | ⟨d, more⟩
      · exact hds.ampersand [] after hafter.symm
      · obtain ⟨rfl, rfl⟩ := List.cons.inj hafter
        obtain ⟨entity, hentity, hname⟩ := hcs.ampersand before more hmore
        exact ⟨entity, hentity, hname.trans (List.prefix_append _ _)⟩
  notMem d hd hmem := by
    rcases List.mem_append.1 hmem with hmem | hmem
    · exact hcs.notMem d hd hmem
    · exact hds.notMem d hd hmem

/-- What is left of an escaped text behind some part of it is escaped. -/
theorem IsEscaped.of_append (h : IsEscaped table marks (cs ++ ds)) : IsEscaped table marks ds where
  ampersand before after hds := by
    refine h.ampersand (cs ++ before) after ?_
    rw [hds, List.append_assoc]
  notMem d hd hmem := h.notMem d hd (List.mem_append_right _ hmem)

theorem IsEscaped.of_cons (h : IsEscaped table marks (c :: cs)) : IsEscaped table marks cs := by
  rw [← List.singleton_append] at h
  exact h.of_append

/-- A text of characters without an entity is escaped. -/
theorem isEscaped_of_forall (h : ∀ c ∈ cs, c ∉ charsOf table) (hampersand : '&' ∈ charsOf table) :
    IsEscaped table (marksOf table) cs where
  ampersand before after hcs := by
    have hmem : '&' ∈ cs := by simp [hcs]
    exact absurd hampersand (h '&' hmem)
  notMem d hd hmem := h d hmem (mem_marksOf_iff.1 hd).1

/-- An entity is escaped: the ampersand in front of its name is the only one. -/
theorem isEscaped_entity (h : IsCode table) {entity : Entity} (hentity : entity ∈ table) :
    IsEscaped table (marksOf table) ('&' :: entity.name) := by
  have hname : IsEscaped table (marksOf table) entity.name :=
    isEscaped_of_forall (fun d hd hchar => h.names entity hentity d hchar hd) h.ampersand
  constructor
  · rintro (_ | ⟨d, before⟩) after heq
    · obtain ⟨-, rfl⟩ := List.cons.inj heq
      exact ⟨entity, hentity, List.prefix_rfl⟩
    · obtain ⟨-, heq⟩ := List.cons.inj heq
      exact hname.ampersand before after heq
  · intro d hd hmem
    rcases List.mem_cons.1 hmem with rfl | hmem
    · exact (mem_marksOf_iff.1 hd).2 rfl
    · exact hname.notMem d hd hmem

/-! ## Writing and reading -/

/-- One character is written as an escaped text. -/
theorem isEscaped_encodeChar (h : IsCode table) (c : Char) :
    IsEscaped table (marksOf table) (encodeChar table c) := by
  obtain ⟨hc, hwrite⟩ | ⟨entity, hentity, -, hwrite⟩ := encodeChar_cases table c
  · rw [hwrite]
    exact isEscaped_of_forall (by simpa using hc) h.ampersand
  · rw [hwrite]
    exact isEscaped_entity h hentity

/-- Every text is written as an escaped text. -/
theorem isEscaped_flatMap_encodeChar (h : IsCode table) (cs : List Char) :
    IsEscaped table (marksOf table) (cs.flatMap (encodeChar table)) := by
  induction cs with
  | nil => exact isEscaped_nil
  | cons c cs ih =>
    rw [List.flatMap_cons]
    exact (isEscaped_encodeChar h c).append ih

/-- The character of an entity is written as that entity, since it has no other one. -/
theorem encodeChar_char (h : IsCode table) {entity : Entity} (hentity : entity ∈ table) :
    encodeChar table entity.char = '&' :: entity.name := by
  obtain ⟨hnot, -⟩ | ⟨other, hother, hchar, hwrite⟩ := encodeChar_cases table entity.char
  · exact absurd (List.mem_map_of_mem hentity) hnot
  · rw [hwrite, List.inj_on_of_nodup_map h.nodup hother hentity hchar]

/-- An escaped text is written again from what it is read as. -/
theorem flatMap_decode (h : IsCode table) (hcs : IsEscaped table (marksOf table) cs) :
    (decode table cs).flatMap (encodeChar table) = cs := by
  -- An entity is read at once, so the induction is on the length of what is left.
  induction hlength : cs.length using Nat.strongRecOn generalizing cs with
  | _ n ih =>
    rcases cs with _ | ⟨c, cs⟩
    · rw [decode]
      rfl
    by_cases hc : c = '&'
    · subst hc
      obtain ⟨entity, hentity, rest, rfl⟩ := hcs.ampersand [] cs rfl
      have hrest : (decode table rest).flatMap (encodeChar table) = rest :=
        ih rest.length (by simp +arith [← hlength]) hcs.of_cons.of_append rfl
      rw [decode_entity (h.prefixFree.find?_eq hentity rest), List.flatMap_cons, hrest,
        encodeChar_char h hentity, List.cons_append]
    · have hself : encodeChar table c = [c] := by
        obtain ⟨-, hwrite⟩ | ⟨entity, hentity, rfl, -⟩ := encodeChar_cases table c
        · exact hwrite
        · have hmark : entity.char ∈ marksOf table :=
            mem_marksOf_iff.2 ⟨List.mem_map_of_mem hentity, hc⟩
          exact absurd List.mem_cons_self (hcs.notMem _ hmark)
      have hrest : (decode table cs).flatMap (encodeChar table) = cs :=
        ih cs.length (by simp [← hlength]) hcs.of_cons rfl
      rw [decode_cons_of_ne hc, List.flatMap_cons, hrest, hself, List.singleton_append]

/-! ## The three ways of escaping -/

/-- A way of escaping is undone by one pass that replaces the entities of a table. It leads from all
texts to the escaped ones one to one, where some characters are in no escaped text, and it goes on
from one text to the next. -/
structure Inverts (escape : String → String) (table : List Entity) (marks : List Char) : Prop where
  decode_escape : ∀ text, decode table (escape text).toList = text.toList
  isEscaped : ∀ text, IsEscaped table marks (escape text).toList
  escape_decode : ∀ written : String, IsEscaped table marks written.toList →
    escape (String.ofList (decode table written.toList)) = written
  escape_append : ∀ text more, escape (text ++ more) = escape text ++ escape more

/-- What is written with a table is undone by the table. -/
theorem inverts_of_isCode {escape : String → String} (h : IsCode table)
    (hescape : ∀ text, (escape text).toList = text.toList.flatMap (encodeChar table)) :
    Inverts escape table (marksOf table) where
  decode_escape text := by
    rw [hescape]
    exact decode_flatMap (undoes_encodeChar h.prefixFree (List.Subset.refl _) h.ampersand) _
  isEscaped text := by
    rw [hescape]
    exact isEscaped_flatMap_encodeChar h _
  escape_decode written hwritten := by
    rw [← String.toList_inj, hescape, String.toList_ofList]
    exact flatMap_decode h hwritten
  escape_append text more := by
    rw [← String.toList_inj, hescape, String.toList_append, String.toList_append, hescape, hescape,
      List.flatMap_append]

/-- Each of the three ways of escaping is undone by its own entities, whatever the text is. No angle
brackets are in what is written, nor double quotes in the value of an attribute, nor braces in a
template, and every ampersand begins one of these entities. -/
theorem inverts_escape :
    Inverts escapeText textEntities ['<', '>'] ∧
    Inverts escapeAttribute attributeEntities ['<', '>', '"'] ∧
    Inverts escapeTemplate templateEntities ['<', '>', '\x7b', '\x7d'] := by
  have htext : IsCode textEntities := by decide
  have hattribute : IsCode attributeEntities := by decide
  have htemplate : IsCode templateEntities := by decide
  exact ⟨inverts_of_isCode htext toList_escapeText,
    inverts_of_isCode hattribute toList_escapeAttribute,
    inverts_of_isCode htemplate toList_escapeTemplate⟩

end PageLayout.Markup
