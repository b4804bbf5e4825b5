import PageLayout.Proofs.Markup.Clean
import PageLayout.Proofs.Markup.Comment

/-!
# Dashes in comments

A comment ends at two dashes and an angle bracket, with or without an exclamation mark between them,
and one that has no content yet ends at less. An escaped text keeps its dashes apart: it is the text
cut wherever two dashes stand side by side, with a space at each cut. So the dashes that open the
comment and those that close it are the only adjacent ones.

- `exists_isCutBetween_iff`: what is written for a text, by the pieces between its dashes.
- `comment_eq_append_pair_iff`: where two dashes stand side by side in a written comment.
- `EndsComment` and `HasContent`: where a comment ends, and what is in it.
- `hasContent_escapeComment`: a written comment ends where it is closed.
-/

namespace PageLayout.Markup

variable {content : String} {pieces : List (List Char)} {cs : List Char}

/-! ## Pieces between dashes -/

/-- What is written of the second of two texts depends on the first one only by whether there is a
dash at its end. -/
theorem commentChars_append (afterDash : Bool) (cs ds : List Char) :
    commentChars afterDash (cs ++ ds) =
      commentChars afterDash cs ++ commentChars (cs.getLast?.elim afterDash (· == '-')) ds := by
  induction cs generalizing afterDash with
  | nil => rfl
  | cons c cs ih =>
    -- Behind `c`, it is `c` that counts if nothing else comes in front of the second text.
    have hlast : (c :: cs).getLast?.elim afterDash (· == '-') =
        cs.getLast?.elim (c == '-') (· == '-') := by
      rw [List.getLast?_cons]
      cases cs.getLast? <;> rfl
    rw [List.cons_append, hlast, commentChars, commentChars, ih, ih]
    by_cases hc : c = '-'
    · simp [hc]
    · simp [hc, beq_eq_false_iff_ne.2 hc]

/-- A text that begins with a dash is written with a space in front of it after another dash. -/
theorem commentChars_true_of_head? (h : cs.head? = some '-') :
    commentChars true cs = ' ' :: commentChars false cs := by
  obtain ⟨ds, rfl⟩ := List.head?_eq_some_iff.1 h
  simp [commentChars]

/-- What is written is made of the pieces between adjacent dashes, with a space between any two. -/
theorem commentChars_eq_intercalate (h : Text.IsCutBetween '-' '-' pieces cs) :
    commentChars false cs = [' '].intercalate pieces := by
  induction pieces generalizing cs with
  | nil =>
    obtain rfl := h.flatten
    rfl
  | cons piece pieces ih =>
    obtain rfl := h.flatten
    have hpiece : commentChars false piece = piece := by
      rw [commentChars_eq_self_iff]
      simpa using h.uncut piece List.mem_cons_self
    have hrest := ih h.tail
    cases pieces with
    | nil => simpa using hpiece
    | cons next pieces =>
      -- The first piece ends in a dash and the others begin with one, so a space is written there.
      obtain ⟨⟨hlast, hhead⟩, -⟩ := List.isChain_cons_cons.1 h.meet
      have hnext : (next :: pieces).flatten.head? = some '-' := by
        rw [List.flatten_cons, List.head?_append, hhead]
        rfl
      rw [List.flatten_cons, commentChars_append, hpiece, hlast, Option.elim_some,
        beq_self_eq_true, commentChars_true_of_head? hnext, hrest, List.intercalate_cons_cons,
        List.append_assoc]
      rfl

/-- An escaped text is the only one that is made of the pieces of a text between its adjacent dashes
with a space between any two. -/
theorem exists_isCutBetween_iff {written : String} :
    (∃ pieces, Text.IsCutBetween '-' '-' pieces content.toList ∧
      written.toList = [' '].intercalate pieces) ↔ written = escapeComment content := by
  rw [← String.toList_inj, toList_escapeComment]
  constructor
  · rintro ⟨pieces, hpieces, hwritten⟩
    rw [hwritten, commentChars_eq_intercalate hpieces]
  · intro hwritten
    obtain ⟨pieces, hpieces⟩ := Text.exists_isCutBetween '-' '-' content.toList
    exact ⟨pieces, hpieces, hwritten.trans (commentChars_eq_intercalate hpieces)⟩

/-! ## Adjacent dashes -/

/-- The only adjacent dashes of a written comment are those that open it and those that close it. -/
theorem comment_eq_append_pair_iff {before after : List Char} :
    ("<!-- " ++ escapeComment content ++ " -->").toList = before ++ '-' :: '-' :: after ↔
      before = ['<', '!'] ∧ after = (" " ++ escapeComment content ++ " -->").toList ∨
      before = ("<!-- " ++ escapeComment content ++ " ").toList ∧ after = ['>'] := by
  have hfront : Text.Lacks '-' '-' ['<', '!'] := .of_notMem (by decide)
  have hcontent := lacks_content content
  generalize hcs : ' ' :: ((escapeComment content).toList ++ [' ']) = cs at hcontent
  have htext : ("<!-- " ++ escapeComment content ++ " -->").toList =
      ['<', '!'] ++ '-' :: '-' :: (cs ++ ['-', '-', '>']) := by
    simp [← hcs]
  rw [htext, hfront.append_eq_iff]
  constructor
  · rintro ⟨more, rfl, hmore⟩
    match more with
    | [] => exact .inl ⟨rfl, by simpa [← hcs] using hmore.symm⟩
    | [d] => simp [← hcs] at hmore
    | d :: e :: more =>
      simp only [List.cons_append, List.cons.injEq] at hmore
      obtain ⟨rfl, rfl, hmore⟩ := hmore
      -- The content lacks the pair, which leaves only the end of the comment.
      obtain ⟨more, rfl, hmore⟩ := hcontent.append_eq_iff.1 hmore
      obtain ⟨rfl, rfl⟩ : more = [] ∧ after = ['>'] := by
        simpa [List.cons_eq_append_iff] using hmore
      exact .inr ⟨by simp [← hcs], rfl⟩
  · rintro (⟨rfl, rfl⟩ | ⟨rfl, rfl⟩)
    · exact ⟨[], by simp [← hcs]⟩
    · exact ⟨'-' :: '-' :: cs, by simp [← hcs]⟩

/-! ## The end of a comment -/

/-- Where a comment ends: `before` stands between the opening `<!--` and the end, which is the
beginning of the other text. Directly behind the opening, whose dashes count, less is needed. -/
inductive EndsComment (before : List Char) : List Char → Prop
  | dashes (rest : List Char) : EndsComment before ('-' :: '-' :: '>' :: rest)
  | exclamation (rest : List Char) : EndsComment before ('-' :: '-' :: '!' :: '>' :: rest)
  | bracket (rest : List Char) (hbefore : before = []) : EndsComment before ('>' :: rest)
  | dash (rest : List Char) (hbefore : before = []) : EndsComment before ('-' :: '>' :: rest)

/-- What the comment holds that is opened in front of a text: behind it stands `-->`, and the
comment does not end any earlier. -/
structure HasContent (content cs : List Char) : Prop where
  closed : content ++ ['-', '-', '>'] <+: cs
  first : ∀ before after, cs = before ++ after → EndsComment before after → content <+: before

/-- A comment ends at the first `-->` if it begins with a space and its dashes are apart. -/
theorem hasContent_of_lacks (hlacks : Text.Lacks '-' '-' cs) (hhead : cs.head? = some ' ')
    (rest : List Char) : HasContent cs (cs ++ '-' :: '-' :: '>' :: rest) where
  closed := ⟨rest, by simp⟩
  first before after heq hends := by
    have hpair : ∀ more, cs ++ '-' :: '-' :: '>' :: rest = before ++ '-' :: '-' :: more →
        cs <+: before := by
      intro more heq
      obtain ⟨behind, rfl, -⟩ := hlacks.append_eq_iff.1 heq
      exact List.prefix_append cs behind
    have hspace : ∀ c more, cs ++ '-' :: '-' :: '>' :: rest = c :: more → c = ' ' := by
      intro c more heq
      have hc := congrArg List.head? heq
      rw [List.head?_append, hhead] at hc
      simpa using hc.symm
    cases hends with
    | dashes => exact hpair _ heq
    | exclamation => exact hpair _ heq
    -- The short ends would have to stand where the space does.
    | bracket more hbefore =>
      subst hbefore
      exact absurd (hspace _ _ heq) (by decide)
    | dash more hbefore =>
      subst hbefore
      exact absurd (hspace _ _ heq) (by decide)

/-- A written comment holds the escaped text between two spaces, whatever comes after it. -/
theorem hasContent_escapeComment (content : String) (rest : List Char) :
    HasContent (" " ++ escapeComment content ++ " ").toList
      ((" " ++ escapeComment content ++ " -->").toList ++ rest) := by
  have hcontent := hasContent_of_lacks (lacks_content content) List.head?_cons rest
  simpa using hcontent

/-- A text that is not escaped may end the comment earlier. -/
example : ¬ HasContent " a--!>b ".toList " a--!>b -->".toList := by
  intro h
  have hearly : " a--!>b ".toList <+: [' ', 'a'] := h.first _ _ rfl (.exclamation _)
  exact absurd hearly (by decide)

end PageLayout.Markup
