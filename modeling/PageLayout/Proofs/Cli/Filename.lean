import PageLayout.Page.Export
import PageLayout.Proofs.Cli.Files
import PageLayout.Proofs.Document.Saved
import PageLayout.Proofs.Text.Split

/-!
# Names of exported files

The file name of a page is made from the name of its document, which may hold anything: separators
of paths, line breaks, dots. What is made of it is a single part of a path, so that a file written
under it, in whatever directory, lies in that directory.

- `Cli.StaysInside`: a text that names nothing outside of the directory that it is used in.
- `Cli.IsPart.staysInside`: single parts of paths are such texts.
- `Export.isStemOf_stem`: what becomes of the name of a document.
- `Export.isSafeStem_of_isStemOf`: whatever becomes of one is safe.
- `Export.filenameFor_isSafe`: file names as a whole, and names of documents that were loaded.
-/

namespace PageLayout

/-! ## Parts of paths -/

namespace Cli

open Files

variable {part : String} {files : Files} {location : Location}

/-- A text that is one part of a path and leads nowhere but to what is there by that name. -/
structure IsPart (part : String) : Prop where
  ne_empty : part ≠ ""
  slash : '/' ∉ part.toList
  ne_dot : part ≠ "."
  ne_dots : part ≠ ".."

/-- A path leads to a location: something is found there, or a file can be written. -/
def Files.LeadsTo (files : Files) (path : String) (location : Location) : Prop :=
  files.locate path = .ok location ∨ files.target path = .ok location

/-- A text leads to nothing but what is there by that name: in the directory of the run if the text
stands alone, and in some other directory if it stands behind a path to it. -/
structure StaysInside (part : String) : Prop where
  here : ∀ files location, LeadsTo files part location → location = Location.here.child part
  inside : ∀ files directory location, LeadsTo files (directory ++ "/" ++ part) location →
    ∃ around, follow files (Location.start (directory ++ "/")) (nameParts directory) = .ok around ∧
      location = around.child part

/-- The parts of a path are those of the list of its characters. -/
theorem nameParts_eq (name : String) :
    nameParts name =
      ((name.toList.splitOn '/').map String.ofList).filter fun part => !part.isEmpty := by
  rw [nameParts, ← Text.splitOn_singleton]
  rfl

/-- Between two paths a slash ends the last part of the first one. -/
theorem nameParts_append (directory name : String) :
    nameParts (directory ++ "/" ++ name) = nameParts directory ++ nameParts name := by
  have hchars : (directory ++ "/" ++ name).toList = directory.toList ++ '/' :: name.toList := by
    simp [String.toList_append]
  rw [nameParts_eq, nameParts_eq, nameParts_eq, hchars, List.splitOn_append_cons_self,
    List.map_append, List.filter_append]

/-- A text without slashes is a single part. -/
theorem nameParts_of_notMem (hne : part ≠ "") (hslash : '/' ∉ part.toList) :
    nameParts part = [part] := by
  have hkeep : (!part.isEmpty) = true := by simpa using hne
  rw [nameParts_eq, List.splitOn_eq_singleton hslash, List.map_singleton, String.ofList_toList,
    List.filter_singleton, hkeep]
  rfl

/-- Where a path begins is told by its first character. -/
theorem start_append (directory name : String) :
    Location.start (directory ++ "/" ++ name) = Location.start (directory ++ "/") := by
  have hstarts : (directory ++ "/" ++ name).startsWith "/" = (directory ++ "/").startsWith "/" := by
    rw [Bool.eq_iff_iff, String.startsWith_string_iff, String.startsWith_string_iff]
    simp only [String.toList_append]
    cases directory.toList <;> simp
  rw [Location.start, Location.start, hstarts]

theorem start_of_notMem (hslash : '/' ∉ part.toList) : Location.start part = .here := by
  have hstarts : part.startsWith "/" = false := by
    rw [Bool.eq_false_iff, ne_eq, String.startsWith_string_iff]
    exact fun hbegins => hslash (hbegins.subset (by decide))
  rw [Location.start, hstarts]
  rfl

/-- A path leads to its last part in the directory to which the other parts lead. -/
theorem exists_follow_of_leadsTo {path : String} {parts : List String}
    (hparts : nameParts path = parts ++ [part]) (h : IsPart part)
    (hleads : files.LeadsTo path location) :
    ∃ around, files.follow (Location.start path) parts = .ok around ∧
      location = around.child part := by
  rcases hleads with hlocate | htarget
  · obtain ⟨-, hfollow⟩ := ite_error_eq_ok_iff.1 hlocate
    rw [hparts, follow, List.foldlM_append] at hfollow
    obtain ⟨around, haround, hlast⟩ := bind_eq_ok_iff.1 hfollow
    obtain ⟨next, hnext, hdone⟩ := bind_eq_ok_iff.1 hlast
    obtain rfl := Except.ok.inj hdone
    -- The last part is no dots, so it goes down.
    obtain ⟨-, ⟨hdot, -⟩ | ⟨hdots, -⟩ | ⟨-, -, -, hchild, -⟩⟩ := step_eq_ok_iff.1 hnext
    · exact absurd hdot h.ne_dot
    · exact absurd hdots h.ne_dots
    · exact ⟨around, haround, hchild⟩
  · obtain ⟨last, around, hlast, rfl⟩ := exists_isTarget htarget
    obtain ⟨others, hothers, hfollow⟩ := hlast.follow
    obtain ⟨rfl, hsame⟩ := List.append_inj' (hparts.symm.trans hothers) rfl
    obtain rfl := List.singleton_inj.1 hsame
    exact ⟨around, hfollow, rfl⟩

/-- A single part of a path leads to nothing outside of a directory. -/
theorem IsPart.staysInside (h : IsPart part) : StaysInside part where
  here files location hleads := by
    have hparts : nameParts part = [] ++ [part] := nameParts_of_notMem h.ne_empty h.slash
    obtain ⟨around, hfollow, rfl⟩ := exists_follow_of_leadsTo hparts h hleads
    rw [start_of_notMem h.slash] at hfollow
    obtain rfl := Except.ok.inj hfollow
    rfl
  inside files directory location hleads := by
    have hparts : nameParts (directory ++ "/" ++ part) = nameParts directory ++ [part] := by
      rw [nameParts_append, nameParts_of_notMem h.ne_empty h.slash]
    obtain ⟨around, hfollow, rfl⟩ := exists_follow_of_leadsTo hparts h hleads
    rw [start_append] at hfollow
    exact ⟨around, hfollow, rfl⟩

end Cli

/-! ## What becomes of a name -/

namespace Export

/-- The characters that cannot stand in the name of a file: separators of paths and control
characters. -/
def IsReserved (c : Char) : Prop :=
  c ∈ ['/', '\\', ':'] ∨ Text.isControl c

/-- What is written for a character: a dash if it cannot stand in the name of a file. -/
inductive IsWrittenAs (c : Char) : Char → Prop
  | self (h : ¬ IsReserved c) : IsWrittenAs c c
  | dash (h : IsReserved c) : IsWrittenAs c '-'

/-- A name that is not blank gives its characters, without the blanks at both ends, and each of them
is written as itself or as a dash. -/
def Spells (name stem : String) : Prop :=
  ∃ trimmed, Text.TrimsTo name.toList trimmed ∧ trimmed ≠ [] ∧
    List.Forall₂ IsWrittenAs trimmed stem.toList

/-- What becomes of the name of a document: a blank one gives nothing, so that a word stands in its
place, and any other one gives its characters. -/
inductive IsStemOf (name : String) : String → Prop
  | untitled (htrim : Text.TrimsTo name.toList []) : IsStemOf name "untitled"
  | spelled {stem : String} (h : Spells name stem) : IsStemOf name stem

/-- A text that may stand in front of the extension of a file name. -/
structure IsSafeStem (stem : String) : Prop where
  ne_empty : stem ≠ ""
  not_reserved : ∀ c ∈ stem.toList, ¬ IsReserved c
  head : ∀ c ∈ stem.toList.head?, Text.isBlank c = false
  last : ∀ c ∈ stem.toList.getLast?, Text.isBlank c = false

instance (c : Char) : Decidable (IsReserved c) :=
  inferInstanceAs (Decidable (c ∈ ['/', '\\', ':'] ∨ Text.isControl c))

variable {name stem : String} {c d : Char}

theorem isWrittenAs_filenameChar (c : Char) : IsWrittenAs c (filenameChar c) := by
  have hiff : (c = '/' ∨ c = '\\' ∨ c = ':' ∨ Text.isControl c) ↔ IsReserved c := by
    simp [IsReserved, or_assoc]
  rw [filenameChar]
  split
  · next h => exact .dash (hiff.1 h)
  · next h => exact .self (mt hiff.2 h)

/-- What is written for a character can stand in the name of a file. -/
theorem IsWrittenAs.not_isReserved (h : IsWrittenAs c d) : ¬ IsReserved d := by
  rcases h with h | h
  · exact h
  · decide

/-- No blank is written for a character that is none. -/
theorem IsWrittenAs.isBlank_eq_false (h : IsWrittenAs c d) (hc : Text.isBlank c = false) :
    Text.isBlank d = false := by
  rcases h with h | h
  · exact hc
  · decide

/-- The stem of a file name is what becomes of the name of the document. -/
theorem isStemOf_stem (name : String) : IsStemOf name (Export.stem name) := by
  have htrim := Text.trimsTo_trimBlanks name.toList
  rw [Export.stem]
  by_cases hne : Text.trimBlanks name.toList = []
  · rw [hne] at htrim ⊢
    exact .untitled htrim
  · simp only [List.isEmpty_iff, List.map_eq_nil_iff, if_neg hne]
    refine .spelled ⟨_, htrim, hne, ?_⟩
    rw [String.toList_ofList, List.forall₂_map_right_iff]
    exact List.forall₂_same.2 fun c _ => isWrittenAs_filenameChar c

/-- A text in which no blank is written for the first character does not begin with a blank. -/
theorem isBlank_head?_of_forall₂ {cs ds : List Char} (h : List.Forall₂ IsWrittenAs cs ds)
    (hcs : ∀ c ∈ cs.head?, Text.isBlank c = false) :
    ∀ d ∈ ds.head?, Text.isBlank d = false := by
  rcases h with _ | ⟨hwritten, -⟩
  · exact fun _ => nofun
  · rintro d ⟨⟩
    exact hwritten.isBlank_eq_false (hcs _ rfl)

theorem isSafeStem_untitled : IsSafeStem "untitled" := by
  -- a Boolean fold over the eight characters, not a decision over all of `Char`
  have hall : "untitled".toList.all (fun c => !decide (IsReserved c) && !Text.isBlank c) := by
    decide
  have hchars : ∀ c ∈ "untitled".toList, ¬ IsReserved c ∧ Text.isBlank c = false := by
    simpa using hall
  exact ⟨by decide, fun c hc => (hchars c hc).1,
    fun c hc => (hchars c (List.mem_of_mem_head? hc)).2,
    fun c hc => (hchars c (List.mem_of_getLast? hc)).2⟩

/-- Whatever becomes of a name is safe in front of an extension. -/
theorem isSafeStem_of_isStemOf (h : IsStemOf name stem) : IsSafeStem stem := by
  rcases h with htrim | ⟨trimmed, htrim, hne, hstem⟩
  · exact isSafeStem_untitled
  · -- The ends are written for the ends of what was left, and these are no blanks.
    constructor
    · rintro rfl
      exact hne (List.forall₂_nil_right_iff.1 hstem)
    · intro d hd
      obtain ⟨c, -, hwritten⟩ := exists_mem_of_forall₂_right hstem hd
      exact hwritten.not_isReserved
    · exact isBlank_head?_of_forall₂ hstem htrim.head
    · rw [← List.head?_reverse]
      refine isBlank_head?_of_forall₂ (List.forall₂_reverse_iff.2 hstem) ?_
      rw [List.head?_reverse]
      exact htrim.last

/-! ## File names -/

/-- A safe text in front of an extension is a single part of a path. -/
theorem isPart_filename (h : IsSafeStem stem) (format : Format) :
    Cli.IsPart (stem ++ "." ++ format.extension) := by
  have hextension : 2 ≤ format.extension.length ∧ '/' ∉ format.extension.toList := by
    cases format <;> decide
  -- With the extension, the text is too long to be empty or a number of dots.
  have hlength : 2 < (stem ++ "." ++ format.extension).length := by
    have hdot : ".".length = 1 := rfl
    rw [String.length_append, String.length_append, hdot]
    omega
  refine ⟨?_, ?_, ?_, ?_⟩
  · intro hempty
    exact absurd (hempty ▸ hlength) (by decide)
  · intro hmem
    rw [String.toList_append, String.toList_append, List.mem_append, List.mem_append] at hmem
    obtain (hstem | hdot) | hmem := hmem
    · exact h.not_reserved '/' hstem (by decide)
    · exact absurd hdot (by decide)
    · exact hextension.2 hmem
  · intro hdot
    exact absurd (hdot ▸ hlength) (by decide)
  · intro hdots
    exact absurd (hdots ▸ hlength) (by decide)

/-- The name of a document that was loaded is spelled in the names of its files. -/
theorem spells_stem_of_load {source : String} {document : Document}
    (h : Document.load source = .ok document) :
    Spells document.name (Export.stem document.name) := by
  obtain ⟨draft, hdescribes, -⟩ := Document.exists_draft_of_load h
  obtain ⟨c, hc, hblank⟩ := hdescribes.isName.not_blank
  -- The loader has trimmed the name in the same way, and has found that something is left.
  have hne : Text.trimBlanks document.name.toList ≠ [] := Text.trimBlanks_ne_nil hc hblank
  generalize hstem : Export.stem document.name = stem
  rcases hstem ▸ isStemOf_stem document.name with htrim | hspells
  · exact absurd (Text.trimsTo_iff.1 htrim) hne
  · exact hspells

/-- The file name of a page is a safe stem with the extension of the format behind it, and the stem
is what becomes of the name of the document. The file name leads to nothing outside of the directory
that it is used in. A document that was loaded is never `untitled` for lack of a name. -/
theorem filenameFor_isSafe (name : String) (format : Format) :
    (∃ stem, filenameFor name format = stem ++ "." ++ format.extension ∧ IsSafeStem stem ∧
      IsStemOf name stem) ∧
    filenameFor name format ≠ "." ∧ filenameFor name format ≠ ".." ∧
    Cli.StaysInside (filenameFor name format) ∧
    (∀ source document, Document.load source = .ok document →
      ∃ stem, filenameFor document.name format = stem ++ "." ++ format.extension ∧
        Spells document.name stem) := by
  have hstem := isStemOf_stem name
  have hpart := isPart_filename (isSafeStem_of_isStemOf hstem) format
  exact ⟨⟨_, rfl, isSafeStem_of_isStemOf hstem, hstem⟩, hpart.ne_dot, hpart.ne_dots,
    hpart.staysInside, fun _ _ hload => ⟨_, rfl, spells_stem_of_load hload⟩⟩

/-- A document whose name is a path, a line break and dots between blanks. -/
def dotted : Document :=
  ⟨" a/\n.. ", [], .empty⟩

theorem load_dotted : Document.load "\x7b\"name\":\" a/\\n.. \"\x7d" = .ok dotted := by
  rfl

theorem filenameFor_isSafe_dotted :
    Document.load "\x7b\"name\":\" a/\\n.. \"\x7d" = .ok dotted ∧
      filenameFor dotted.name .vue = "a--...vue" ∧
      Cli.StaysInside (filenameFor dotted.name .vue) ∧
      ∃ stem, filenameFor dotted.name .vue = stem ++ "." ++ "vue" ∧ Spells dotted.name stem := by
  obtain ⟨-, -, -, hinside, hspells⟩ := filenameFor_isSafe dotted.name .vue
  exact ⟨load_dotted, by decide, hinside, hspells _ _ load_dotted⟩

end Export

end PageLayout
