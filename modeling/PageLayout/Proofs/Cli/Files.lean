import PageLayout.Cli.Files
import PageLayout.Proofs.Results

/-!
# Writing a file

A file that is written holds what was written and nothing else changes: all other files are as they
were, and directories are where they were, since the new file lies in one that was there before. The
name under which the file was written leads to it.

- `Files.Overwrites`: one file is replaced or added.
- `overwrites_of_write`: what is written overwrites one file.
- `read_of_write`: the name leads to what was written.
-/

namespace PageLayout.Cli

/-- The bytes of a text are read as the text. -/
@[simp]
theorem decode_toUTF8 (text : String) : decode text.toUTF8 = .ok text := by
  have hvalid : text.toUTF8.IsValidUTF8 := text.isValidUTF8
  rw [decode, String.fromUTF8?, dif_pos hvalid]
  rfl

/-! ## Locations -/

namespace Location

variable {location directory other : Location}

theorem isInside_iff : location.isInside directory ↔
    location.base = directory.base ∧
      ∃ part rest, location.parts = directory.parts ++ part :: rest := by
  rw [isInside, Bool.and_eq_true, Bool.and_eq_true, beq_iff_eq, decide_eq_true_iff,
    List.isPrefixOf_iff_prefix, and_assoc]
  refine and_congr_right fun _ => ?_
  constructor
  · rintro ⟨hlength, rest, hrest⟩
    cases rest with
    | nil =>
      rw [← hrest, List.append_nil] at hlength
      exact absurd hlength (Nat.lt_irrefl _)
    | cons part rest => exact ⟨part, rest, hrest.symm⟩
  · rintro ⟨part, rest, h⟩
    rw [h]
    exact ⟨by simp, List.prefix_append _ _⟩

theorem isInside_trans (h : location.isInside directory) (hdirectory : directory.isInside other) :
    location.isInside other := by
  obtain ⟨hbase, part, rest, hparts⟩ := isInside_iff.1 h
  obtain ⟨hbase', part', rest', hparts'⟩ := isInside_iff.1 hdirectory
  refine isInside_iff.2 ⟨hbase.trans hbase', part', rest' ++ part :: rest, ?_⟩
  rw [hparts, hparts', List.append_assoc, List.cons_append]

/-- What a location in a directory lies in is the directory itself, or the directory lies in it. -/
theorem isInside_child (part : String) (h : (directory.child part).isInside other) :
    other = directory ∨ directory.isInside other := by
  obtain ⟨hbase, next, rest, hparts⟩ := isInside_iff.1 h
  rcases List.eq_nil_or_concat rest with rfl | ⟨rest, last, rfl⟩
  · -- Nothing lies between them.
    obtain ⟨hsame, -⟩ := List.append_inj' (show directory.parts ++ [part] = _ from hparts) rfl
    left
    cases other
    cases directory
    simp_all [child]
  · right
    have hsplit : directory.parts ++ [part] = (other.parts ++ next :: rest) ++ [last] := by
      simpa [child, List.append_assoc] using hparts
    obtain ⟨hdirectory, -⟩ := List.append_inj' hsplit rfl
    exact isInside_iff.2 ⟨hbase, next, rest, hdirectory⟩

end Location

namespace Files

variable {files after : Files} {location other directory : Location} {content : ByteArray}
  {name : String}

/-! ## Replacing a file -/

/-- One file has got a content, and all else is as it was. -/
structure Overwrites (files : Files) (location : Location) (content : ByteArray) (after : Files) :
    Prop where
  content? : after.content? location = some content
  others : ∀ other ≠ location, after.content? other = files.content? other
  isDirectory : ∀ other, after.isDirectory other = files.isDirectory other

/-- Giving all entries at a location a new content leaves the first content of every other location
as it is. -/
theorem lookup_map_replace (entries : List (Location × ByteArray)) (location other : Location)
    (content : ByteArray) :
    (entries.map fun entry => if entry.1 == location then (location, content) else entry).lookup
        other =
      if other = location then (entries.lookup location).map fun _ => content
      else entries.lookup other := by
  induction entries with
  | nil => simp
  | cons entry entries ih =>
    obtain ⟨place, old⟩ := entry
    rw [List.map_cons]
    by_cases hplace : place = location
    · subst hplace
      rw [if_pos (beq_self_eq_true place), List.lookup_cons, ih, List.lookup_cons,
        beq_self_eq_true place, List.lookup_cons]
      by_cases hother : other = place
      · simp [hother]
      · rw [beq_false_of_ne hother, if_neg hother, if_neg hother]
    · rw [if_neg (by simpa using hplace), List.lookup_cons, ih, List.lookup_cons, List.lookup_cons,
        beq_false_of_ne (Ne.symm hplace)]
      by_cases hother : other = place
      · subst hother
        rw [beq_self_eq_true other, if_neg hplace, if_neg hplace]
      · rw [beq_false_of_ne hother]

theorem content?_put (files : Files) (location : Location) (content : ByteArray)
    (other : Location) : (files.put location content).content? other =
      if other = location then some content else files.content? other := by
  unfold put content?
  split
  · next hsome =>
    obtain ⟨old, hold⟩ := Option.isSome_iff_exists.1 hsome
    rw [lookup_map_replace, hold]
    rfl
  · next hnone =>
    rw [Option.not_isSome_iff_eq_none] at hnone
    rw [List.lookup_append, List.lookup_cons, List.lookup_nil]
    by_cases hother : other = location
    · subst hother
      rw [hnone, beq_self_eq_true other, if_pos rfl]
      rfl
    · rw [beq_false_of_ne hother, if_neg hother, Option.or_none]

/-- Around a file that is put somewhere, there are directories. -/
theorem isDirectory_put (files : Files) (location : Location) (content : ByteArray)
    (other : Location) : (files.put location content).isDirectory other =
      (files.isDirectory other || location.isInside other) := by
  unfold put isDirectory
  split
  · next hsome =>
    -- No entry changes its place, and there is one at the location already.
    obtain ⟨entry, hentry, hplace⟩ := List.lookup_isSome_iff.1 hsome
    obtain rfl := beq_iff_eq.1 hplace
    have hkeep : ∀ old : Location × ByteArray,
        (if old.1 == entry.1 then (entry.1, content) else old).1 = old.1 := by
      intro old
      split
      · next h => exact (beq_iff_eq.1 h).symm
      · rfl
    rw [List.any_map]
    simp only [Function.comp_def, hkeep]
    cases hinside : entry.1.isInside other with
    | false => rw [Bool.or_false]
    | true =>
      have hany : files.entries.any (fun old => old.1.isInside other) :=
        List.any_eq_true.2 ⟨entry, hentry, hinside⟩
      rw [hany, Bool.or_true, Bool.or_true]
  · rw [List.any_append, List.any_cons, List.any_nil, Bool.or_false, Bool.or_assoc]

/-- Whatever a directory lies in is a directory. -/
theorem isDirectory_of_isInside (h : files.isDirectory directory)
    (hinside : directory.isInside other) : files.isDirectory other := by
  rw [isDirectory, Bool.or_eq_true] at h ⊢
  rcases h with hempty | hany
  · -- Nothing is around a base.
    obtain ⟨-, part, rest, hparts⟩ := Location.isInside_iff.1 hinside
    rw [List.isEmpty_iff.1 hempty] at hparts
    exact absurd hparts.symm (by simp)
  · obtain ⟨entry, hentry, h⟩ := List.any_eq_true.1 hany
    exact .inr (List.any_eq_true.2 ⟨entry, hentry, Location.isInside_trans h hinside⟩)

/-- A file that is put in a directory makes no directories. -/
theorem overwrites_put (hdirectory : files.isDirectory directory) (part : String)
    (content : ByteArray) :
    files.Overwrites (directory.child part) content (files.put (directory.child part) content) where
  content? := by rw [content?_put, if_pos rfl]
  others other hother := by rw [content?_put, if_neg hother]
  isDirectory other := by
    rw [isDirectory_put]
    cases hinside : (directory.child part).isInside other with
    | false => rw [Bool.or_false]
    | true =>
      have hother : files.isDirectory other := by
        rcases Location.isInside_child part hinside with rfl | hinside
        · exact hdirectory
        · exact isDirectory_of_isInside hdirectory hinside
      rw [hother, Bool.true_or]

/-! ## Following names -/

/-- Where a part of a name may lead, apart from the directory itself and the one around it. -/
def Holds (files : Files) (location : Location) : Prop :=
  files.isDirectory location ∨ (files.content? location).isSome

theorem step_eq_ok_iff {start next : Location} {part : String} :
    files.step start part = .ok next ↔ files.isDirectory start ∧
      ((part = "." ∧ next = start) ∨ (part = ".." ∧ next = start.parent) ∨
        (part ≠ "." ∧ part ≠ ".." ∧ ¬ maxPartBytes < part.utf8ByteSize ∧
          next = start.child part ∧ files.Holds next)) := by
  have hdots : "." ≠ ".." := by decide
  unfold step Holds
  rw [ite_error_eq_ok_iff, Bool.not_eq_true', Bool.not_eq_false]
  refine and_congr_right fun _ => ?_
  -- A part leads to the directory itself, to the one around it or to what is in it by that name.
  by_cases hdot : part = "."
  · subst hdot
    rw [if_pos rfl, Except.ok.injEq]
    simp only [hdots, true_and, false_and, ne_eq, not_true_eq_false, or_false, eq_comm]
  · rw [if_neg hdot]
    by_cases hparent : part = ".."
    · subst hparent
      rw [if_pos rfl, Except.ok.injEq]
      simp only [hdot, true_and, false_and, and_false, ne_eq, not_true_eq_false, false_or, or_false,
        eq_comm]
    · rw [if_neg hparent, ite_error_eq_ok_iff]
      simp only [hdot, hparent, false_and, false_or, ne_eq, not_false_eq_true, true_and]
      refine and_congr_right fun _ => ?_
      split
      · next hholds =>
        rw [Bool.or_eq_true] at hholds
        constructor
        · rintro ⟨⟩
          exact ⟨rfl, hholds⟩
        · rintro ⟨rfl, -⟩
          rfl
      · next hholds =>
        rw [Bool.or_eq_true] at hholds
        constructor
        · rintro ⟨⟩
        · rintro ⟨rfl, h⟩
          exact absurd h hholds

/-- A part of a name leads to where it led before a file was overwritten. -/
theorem Overwrites.step (h : files.Overwrites location content after) {start next : Location}
    {part : String} (hstep : files.step start part = .ok next) :
    after.step start part = .ok next := by
  -- Directories are the same, and where a file was overwritten there still is one.
  have hholds : files.Holds next → after.Holds next := by
    refine Or.imp (h.isDirectory next ▸ id) fun hsome => ?_
    by_cases hnext : next = location
    · rw [hnext, h.content?]
      rfl
    · rwa [h.others next hnext]
  rw [step_eq_ok_iff] at hstep ⊢
  rw [h.isDirectory]
  obtain ⟨hstart, hdot | hparent | ⟨hdot, hparent, hbytes, hnext, hthere⟩⟩ := hstep
  · exact ⟨hstart, .inl hdot⟩
  · exact ⟨hstart, .inr (.inl hparent)⟩
  · exact ⟨hstart, .inr (.inr ⟨hdot, hparent, hbytes, hnext, hholds hthere⟩)⟩

theorem Overwrites.follow (h : files.Overwrites location content after) {parts : List String}
    {start stop : Location} (hfollow : files.follow start parts = .ok stop) :
    after.follow start parts = .ok stop := by
  induction parts generalizing start with
  | nil => exact hfollow
  | cons part parts ih =>
    obtain ⟨next, hnext, hrest⟩ := bind_eq_ok_iff.1 hfollow
    exact bind_eq_ok_iff.2 ⟨next, h.step hnext, ih hrest⟩

/-! ## Writing -/

/-- Where a file is written under a name: at the last part, in the directory to which the others
lead. -/
structure IsTarget (files : Files) (name last : String) (directory : Location) : Prop where
  bytes : ¬ tooManyBytes ≤ name.utf8ByteSize
  follow : ∃ parts, nameParts name = parts ++ [last] ∧
    files.follow (Location.start name) parts = .ok directory
  notDot : last ≠ "."
  notParent : last ≠ ".."
  lastBytes : ¬ maxPartBytes < last.utf8ByteSize
  slash : ¬ name.endsWith "/"
  isDirectory : files.isDirectory directory
  place : ¬ files.isDirectory (directory.child last)

theorem exists_isTarget (h : files.target name = .ok location) :
    ∃ last directory, files.IsTarget name last directory ∧ location = directory.child last := by
  -- A name that ends in dots or has no part at all is followed only to see why it fails.
  have hbase : ∀ {e : FileError}, (do let _ ← files.locate name; .error e) ≠
      (.ok location : Except FileError Location) := by
    intro e h
    obtain ⟨-, -, h⟩ := bind_eq_ok_iff.1 h
    cases h
  unfold target at h
  simp only at h
  split at h
  · exact absurd h hbase
  · exact absurd h hbase
  · exact absurd h hbase
  · next last hdot hparent hlast =>
    obtain ⟨hbytes, h⟩ := ite_error_eq_ok_iff.1 h
    obtain ⟨directory, hdirectory, h⟩ := bind_eq_ok_iff.1 h
    simp only [ite_error_eq_ok_iff, Bool.not_eq_true', Bool.not_eq_false] at h
    obtain ⟨hisDirectory, hslash, hlength, hplace, h⟩ := h
    obtain rfl := Except.ok.inj h
    have hsplit : nameParts name = (nameParts name).dropLast ++ [last] :=
      (List.dropLast_append_getLast? last hlast).symm
    exact ⟨last, directory, ⟨hbytes, ⟨_, hsplit, hdirectory⟩, hdot, hparent, hlength, hslash,
      hisDirectory, hplace⟩, rfl⟩

/-- A file that is written overwrites the one at the place to which its name leads. -/
theorem overwrites_of_write (h : files.write name content = .ok after) :
    ∃ location, files.target name = .ok location ∧ files.Overwrites location content after := by
  obtain ⟨location, htarget, rfl⟩ := map_eq_ok_iff.1 h
  obtain ⟨last, directory, hplace, rfl⟩ := exists_isTarget htarget
  exact ⟨_, htarget, overwrites_put hplace.isDirectory last content⟩

/-- What was written is what is found under the name. -/
theorem read_of_write {text : String} (h : files.write name text = .ok after) :
    after.read name = .ok text := by
  obtain ⟨location, htarget, hafter⟩ := overwrites_of_write h
  obtain ⟨last, directory, hplace, rfl⟩ := exists_isTarget htarget
  obtain ⟨parts, hparts, hfollow⟩ := hplace.follow
  -- The directory is where it was, and its last part now leads to the file that was written.
  have hlast : after.step directory last = .ok (directory.child last) := by
    rw [step_eq_ok_iff, hafter.isDirectory]
    refine ⟨hplace.isDirectory, .inr (.inr ⟨hplace.notDot, hplace.notParent, hplace.lastBytes, rfl,
      .inr ?_⟩)⟩
    rw [hafter.content?]
    rfl
  have hlocate : after.locate name = .ok (directory.child last) := by
    rw [locate, if_neg hplace.bytes, hparts, Files.follow, List.foldlM_append]
    exact bind_eq_ok_iff.2 ⟨directory, hafter.follow hfollow, bind_eq_ok_iff.2 ⟨_, hlast, rfl⟩⟩
  rw [read, hlocate]
  show (if _ then _ else _) = _
  rw [hafter.isDirectory, if_neg hplace.place, if_neg hplace.slash, hafter.content?]
  exact decode_toUTF8 text

end Files

end PageLayout.Cli
