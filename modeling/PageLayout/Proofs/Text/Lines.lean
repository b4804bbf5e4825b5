import PageLayout.Proofs.Text.Cut
import PageLayout.Text.Blank

/-!
# Reading line by line

Pages hold lists of things on lines of their own, each line after the same blanks. A reader of one
such thing is turned into a reader of the list, which skips the blanks and stops where a given
text begins.

- `readLines?_lines`: if the reader of one thing reads it back whatever comes after it, the list
  reads back.
-/

namespace PageLayout.Text

variable {α β : Type}

/-- Reads things with blanks after each, up to a text that begins with `stop`. -/
def readLines? (stop : List Char) (read : List Char → Option (α × List Char))
    (cs : List Char) : Option (List α × List Char) :=
  if stop.isPrefixOf cs then some ([], cs)
  else do
    let (item, rest) ← read cs
    if (rest.dropWhile isBlank).length < cs.length then
      let (items, rest) ← readLines? stop read (rest.dropWhile isBlank)
      return (item :: items, rest)
    else none
termination_by cs.length

/-- Texts on lines of their own. -/
def lines (indent : List Char) (texts : List (List Char)) : List Char :=
  texts.flatMap fun text => indent ++ (text ++ ['\n'])

variable {stop : List Char} {read : List Char → Option (α × List Char)}

/-- A thing is read in front of the things that come after it. -/
theorem readLines?_of_read {item : α} {cs rest : List Char} (hstop : ¬ stop <+: cs)
    (hread : read cs = some (item, rest))
    (hlength : (rest.dropWhile isBlank).length < cs.length) :
    readLines? stop read cs =
      (readLines? stop read (rest.dropWhile isBlank)).map fun (items, rest) =>
        (item :: items, rest) := by
  rw [readLines?, if_neg (by simpa using hstop)]
  simp only [hread, hlength, Option.bind_eq_bind, Option.bind_some, if_true]
  cases readLines? stop read (rest.dropWhile isBlank) <;> rfl

/-- A text that a reader of lines reads as one thing: it begins with a character that is neither
blank nor the end of the list, and it reads back whatever comes after it. -/
structure ReadsAs (stop : List Char) (read : List Char → Option (α × List Char))
    (text : List Char) (item : α) : Prop where
  head : ∃ c cs, text = c :: cs ∧ isBlank c = false
  not_stop : ∀ rest, ¬ stop <+: text ++ rest
  read : ∀ rest, read (text ++ rest) = some (item, rest)

/-- Things on lines of their own read back up to the text that ends them. -/
theorem readLines?_lines {indent : List Char} (hindent : ∀ c ∈ indent, isBlank c)
    (text : β → List Char) (item : β → α) {written : List β}
    (hwritten : ∀ w ∈ written, ReadsAs stop read (text w) (item w)) {rest : List Char}
    (hrest : stop <+: rest.dropWhile isBlank) :
    readLines? stop read ((lines indent (written.map text) ++ rest).dropWhile isBlank) =
      some (written.map item, rest.dropWhile isBlank) := by
  induction written with
  | nil =>
    rw [List.map_nil, lines, List.flatMap_nil, List.nil_append, readLines?,
      if_pos (by simpa using hrest)]
    rfl
  | cons w written ih =>
    obtain ⟨hw, hwritten⟩ := List.forall_mem_cons.1 hwritten
    obtain ⟨c, cs, htext, hc⟩ := hw.head
    -- Behind the blanks in front of it, a line begins with its text.
    have hline : (lines indent ((w :: written).map text) ++ rest).dropWhile isBlank =
        text w ++ '\n' :: (lines indent (written.map text) ++ rest) := by
      simp only [lines, List.map_cons, List.flatMap_cons, List.append_assoc]
      rw [List.dropWhile_append_of_pos hindent, htext, List.cons_append,
        List.dropWhile_cons_of_neg (by simp [hc])]
      rfl
    -- The line break is the first of the blanks in front of the next line.
    have hbreak : ('\n' :: (lines indent (written.map text) ++ rest)).dropWhile isBlank =
        (lines indent (written.map text) ++ rest).dropWhile isBlank :=
      List.dropWhile_cons_of_pos (by decide)
    rw [hline, readLines?_of_read (hw.not_stop _) (hw.read _), hbreak, ih hwritten]
    · rfl
    · rw [hbreak, List.length_append, List.length_cons]
      have hle := (List.dropWhile_suffix (l := lines indent (written.map text) ++ rest)
        isBlank).length_le
      omega

end PageLayout.Text
