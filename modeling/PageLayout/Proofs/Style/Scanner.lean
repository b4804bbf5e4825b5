import Mathlib.Data.List.Induction
import PageLayout.Proofs.Style.Name
import PageLayout.Proofs.Style.Sanitize
import PageLayout.Style.Basic

/-!
# Delimiters between strings and brackets

A reader of style sheets takes the text between two equal quotes for a string and the text between
two matching brackets for a block. A semicolon or a brace inside of these is none of the
delimiters of a rule. The reader meets all delimiters that a rule was written with just if no
declaration leaves a string or a block open; what an identifier holds does not matter.

- `Scanner.step` and `Scanner.scan`: the reader.
- `meetsDelimiters_iff`: whether it meets the delimiters of a rule, from the declarations.
-/

namespace PageLayout.Style

/-! ## The reader -/

/-- A quote around strings. -/
inductive Quote where
  | single
  | double
deriving DecidableEq, Repr

/-- A pair of brackets around blocks. -/
inductive Bracket where
  | round
  | square
deriving DecidableEq, Repr

/-- What a reader of style sheets is in the midst of. -/
structure Scanner where
  /-- Whether the next character stands behind a backslash. -/
  escaped : Bool
  /-- The quote that will end the string, inside of one. -/
  quote : Option Quote
  /-- The blocks around the next character, the innermost first. -/
  blocks : List Bracket
deriving DecidableEq, Repr

/-- The quote that a character is. -/
def Quote.ofChar? (c : Char) : Option Quote :=
  if c = '\'' then some single else if c = '"' then some double else none

/-- The brackets that a character opens. -/
def Bracket.ofOpening? (c : Char) : Option Bracket :=
  if c = '(' then some round else if c = '[' then some square else none

/-- The brackets that a character closes. -/
def Bracket.ofClosing? (c : Char) : Option Bracket :=
  if c = ')' then some round else if c = ']' then some square else none

namespace Scanner

/-- Outside of all strings and blocks, and not behind a backslash. -/
def neutral : Scanner :=
  ⟨false, none, []⟩

/-- Reads a character outside of strings. A bracket that does not close the innermost block stands
for itself. -/
def stepOutside (s : Scanner) (c : Char) : Scanner :=
  match Quote.ofChar? c, Bracket.ofOpening? c, Bracket.ofClosing? c with
  | some quote, _, _ => { s with quote := some quote }
  | none, some bracket, _ => { s with blocks := bracket :: s.blocks }
  | none, none, some bracket =>
    if s.blocks.head? = some bracket then { s with blocks := s.blocks.tail } else s
  | none, none, none => s

/-- Reads a character. -/
def step (s : Scanner) (c : Char) : Scanner :=
  if s.escaped then { s with escaped := false }
  else if c = '\\' then { s with escaped := true }
  else
    match s.quote with
    | some quote => if Quote.ofChar? c = some quote then { s with quote := none } else s
    | none => s.stepOutside c

/-- Reads a text. -/
def scan (s : Scanner) (cs : List Char) : Scanner :=
  cs.foldl step s

@[simp]
theorem scan_nil (s : Scanner) : s.scan [] = s := rfl

@[simp]
theorem scan_cons (s : Scanner) (c : Char) (cs : List Char) :
    s.scan (c :: cs) = (s.step c).scan cs := rfl

@[simp]
theorem scan_append (s : Scanner) (cs ds : List Char) :
    s.scan (cs ++ ds) = (s.scan cs).scan ds :=
  List.foldl_append

theorem escaped_stepOutside (s : Scanner) (c : Char) :
    (s.stepOutside c).escaped = s.escaped := by
  unfold stepOutside
  repeat' split
  all_goals rfl

/-- Only a backslash escapes the character after it. -/
theorem escaped_step {c : Char} (hc : c ≠ '\\') (s : Scanner) : (s.step c).escaped = false := by
  by_cases hescaped : s.escaped = true
  · rw [step, if_pos hescaped]
  · have hfalse : s.escaped = false := by simpa using hescaped
    rw [step, if_neg hescaped, if_neg hc]
    split
    · split
      · exact hfalse
      · exact hfalse
    · rw [escaped_stepOutside, hfalse]

theorem escaped_scan {s : Scanner} (hs : s.escaped = false) {cs : List Char}
    (hcs : '\\' ∉ cs) : (s.scan cs).escaped = false := by
  induction cs generalizing s with
  | nil => exact hs
  | cons c cs ih =>
    obtain ⟨hc, hcs⟩ := List.ne_and_not_mem_of_not_mem_cons hcs
    exact ih (escaped_step hc.symm s) hcs

/-- A space changes nothing, unless it stands behind a backslash. -/
theorem step_space {s : Scanner} (hs : s.escaped = false) : s.step ' ' = s := by
  obtain ⟨escaped, quote, blocks⟩ := s
  cases hs
  -- A space is neither of the quotes, and it opens and closes no brackets.
  cases quote <;> rfl

end Scanner

/-! ## Balanced texts -/

/-- A text that leaves no string, block or escape open. -/
def IsBalanced (cs : List Char) : Prop :=
  Scanner.neutral.scan cs = Scanner.neutral

instance (cs : List Char) : Decidable (IsBalanced cs) :=
  inferInstanceAs (Decidable (_ = _))

namespace IsBalanced

variable {cs ds : List Char}

/-- What comes after a balanced text is read as if it came first. -/
theorem append_iff (hcs : IsBalanced cs) : IsBalanced (cs ++ ds) ↔ IsBalanced ds := by
  rw [IsBalanced, Scanner.scan_append, hcs, IsBalanced]

theorem append (hcs : IsBalanced cs) (hds : IsBalanced ds) : IsBalanced (cs ++ ds) :=
  hcs.append_iff.2 hds

theorem flatMap {f : Char → List Char} (h : ∀ c, IsBalanced (f c)) (cs : List Char) :
    IsBalanced (cs.flatMap f) := by
  induction cs with
  | nil => rfl
  | cons c cs ih => exact (h c).append ih

end IsBalanced

/-- The characters that open a string, a block or an escape. -/
def openings : List Char :=
  ['\\', '\'', '"', '(', '[']

theorem Scanner.step_neutral {c : Char} (hc : c ∉ openings) : neutral.step c = neutral := by
  simp only [openings, List.mem_cons, List.not_mem_nil, or_false, not_or] at hc
  obtain ⟨hescape, hsingle, hdouble, hround, hsquare⟩ := hc
  have hquote : Quote.ofChar? c = none := by simp [Quote.ofChar?, hsingle, hdouble]
  have hbracket : Bracket.ofOpening? c = none := by simp [Bracket.ofOpening?, hround, hsquare]
  simp only [step, stepOutside, neutral, hescape, hquote, hbracket]
  cases Bracket.ofClosing? c <;> rfl

/-- A text without opening characters is balanced. -/
theorem isBalanced_of_any_eq_false {cs : List Char} (hcs : cs.any openings.contains = false) :
    IsBalanced cs := by
  induction cs with
  | nil => rfl
  | cons c cs ih =>
    rw [List.any_cons, Bool.or_eq_false_iff] at hcs
    have hc : c ∉ openings := by simpa using hcs.1
    rw [IsBalanced, Scanner.scan_cons, Scanner.step_neutral hc]
    exact ih hcs.2

/-- A text of characters of a class that has no opening characters is balanced. -/
theorem isBalanced_of_class {p : Char → Bool} (hp : openings.any p = false)
    {cs : List Char} (hcs : ∀ c ∈ cs, p c) : IsBalanced cs := by
  refine isBalanced_of_any_eq_false (List.any_eq_false.2 fun c hc hopening => ?_)
  exact List.any_eq_false.1 hp c (by simpa using hopening) (hcs c hc)

/-! ## Rules -/

/-- The text of a rule up to the end of its declarations. -/
def ruleUpTo (id : String) (style : Style) : List Char :=
  (selector true id ++ " \x7b " ++ body true style).toList

/-- The reader meets all delimiters that a rule was written with outside of strings and blocks, and
is outside of them at the end of the rule. -/
structure MeetsDelimiters (id : String) (style : Style) : Prop where
  /-- The semicolon between any two declarations comes after those in front of it. -/
  separator : ∀ before after, style = before ++ after → before ≠ [] → after ≠ [] →
    IsBalanced (ruleUpTo id before)
  /-- There is a space between the last declaration and the closing brace. -/
  brace : IsBalanced (ruleUpTo id style ++ [' '])
  finish : IsBalanced (rule true id style).toList

variable {id : String} {style : Style}

theorem toList_rule_eq (id : String) (style : Style) :
    (rule true id style).toList = ruleUpTo id style ++ [' '] ++ ['\x7d', '\n'] := by
  simp [rule, ruleUpTo]

theorem ruleUpTo_append {before after : Style} (hbefore : before ≠ []) (hafter : after ≠ []) :
    ruleUpTo id (before ++ after) =
      ruleUpTo id before ++ ';' :: ' ' :: (body true after).toList := by
  rw [ruleUpTo, body, List.map_append, String.intercalate_append_of_ne_nil (by simpa using hbefore)
    (by simpa using hafter)]
  simp [ruleUpTo, body]

/-- An escape is balanced, whatever it is for. -/
theorem isBalanced_escape (c : Char) : IsBalanced ['\\', c] := rfl

theorem isBalanced_codePointEscape (c : Char) : IsBalanced (codePointEscape c) := by
  have hclass : ∀ d ∈ Text.hexDigits c.toNat ++ [' '], isHexDigit d || d == ' ' := by
    intro d hd
    obtain hd | hd := List.mem_append.1 hd
    · rw [isHexDigit_of_mem_hexDigits c.toNat d hd, Bool.true_or]
    · rw [List.mem_singleton.1 hd]
      rfl
  -- The backslash is for the first digit only. All others open nothing.
  obtain ⟨d, ds, hds⟩ := List.exists_cons_of_ne_nil
    (List.append_ne_nil_of_right_ne_nil (Text.hexDigits c.toNat) (List.cons_ne_nil ' ' []))
  rw [hds] at hclass
  rw [codePointEscape, List.cons_append, hds]
  exact (isBalanced_escape d).append
    (isBalanced_of_class (by decide) (List.forall_mem_cons.1 hclass).2)

theorem isBalanced_nameChar (c : Char) : IsBalanced (nameChar c) := by
  rw [nameChar]
  split
  · next hname =>
    exact isBalanced_of_class (show openings.any isNameChar = false by decide)
      (by simpa using hname)
  · split
    · exact isBalanced_codePointEscape c
    · exact isBalanced_escape c

/-- A selector leaves nothing open, whatever the identifier in it is. -/
theorem isBalanced_selector (id : String) : IsBalanced (selector true id).toList := by
  have hnumber : IsBalanced ['#'] := rfl
  have hidentifier : ∀ cs, IsBalanced (identifierChars cs) := by
    intro cs
    cases cs with
    | nil => rfl
    | cons c cs =>
      refine IsBalanced.append ?_ (IsBalanced.flatMap isBalanced_nameChar cs)
      split
      · exact isBalanced_codePointEscape c
      · exact isBalanced_nameChar c
  simpa [selector, toList_identifier] using hnumber.append (hidentifier id.toList)

theorem isBalanced_ruleUpTo_nil (id : String) : IsBalanced (ruleUpTo id []) := by
  have hbrace : IsBalanced [' ', '\x7b', ' '] := rfl
  simpa [ruleUpTo, body] using (isBalanced_selector id).append hbrace

/-- In front of the last declaration of a rule stands a separator, or nothing. -/
theorem exists_ruleUpTo_concat (id : String) (style : Style) (declaration : Declaration) :
    ∃ gap, IsBalanced gap ∧ ruleUpTo id (style ++ [declaration]) =
      ruleUpTo id style ++ (gap ++ (declaration.text true).toList) := by
  by_cases hnil : style = []
  · subst hnil
    exact ⟨[], rfl, by simp [ruleUpTo, body]⟩
  · refine ⟨[';', ' '], rfl, ?_⟩
    simp [ruleUpTo_append hnil (List.cons_ne_nil declaration []), body]

/-- One more declaration in a rule is read like a declaration by itself. -/
theorem isBalanced_ruleUpTo_concat {declaration : Declaration}
    (hstyle : IsBalanced (ruleUpTo id style)) :
    IsBalanced (ruleUpTo id (style ++ [declaration])) ↔
      IsBalanced (declaration.text true).toList := by
  obtain ⟨gap, hgap, htext⟩ := exists_ruleUpTo_concat id style declaration
  rw [htext, hstyle.append_iff, hgap.append_iff]

/-- Declarations that leave nothing open leave nothing open together. -/
theorem isBalanced_ruleUpTo (id : String) (hstyle : ∀ d ∈ style, IsBalanced (d.text true).toList) :
    IsBalanced (ruleUpTo id style) := by
  induction style using List.reverseRecOn with
  | nil => exact isBalanced_ruleUpTo_nil id
  | append_singleton style d ih =>
    refine (isBalanced_ruleUpTo_concat (ih fun d hd => ?_)).2 ?_
    · exact hstyle d (List.mem_append_left _ hd)
    · exact hstyle d (by simp)

/-- No declaration ends in a backslash. -/
theorem escaped_scan_text (s : Scanner) (declaration : Declaration) :
    (s.scan (declaration.text true).toList).escaped = false := by
  -- A backslash may end the property, but it is spent on the colon.
  have hvalue : '\\' ∉ ' ' :: (sanitize declaration.value).toList := by
    simpa using notMem_sanitize (by decide) declaration.value
  rw [toList_text, Scanner.scan_append, Scanner.scan_cons]
  exact Scanner.escaped_scan (Scanner.escaped_step (by decide) _) hvalue

/-- The space in front of the closing brace neither opens nor ends anything. -/
theorem isBalanced_ruleUpTo_concat_space {declaration : Declaration} :
    IsBalanced (ruleUpTo id (style ++ [declaration]) ++ [' ']) ↔
      IsBalanced (ruleUpTo id (style ++ [declaration])) := by
  obtain ⟨gap, -, htext⟩ := exists_ruleUpTo_concat id style declaration
  have hescaped :
      (Scanner.neutral.scan (ruleUpTo id (style ++ [declaration]))).escaped = false := by
    rw [htext, Scanner.scan_append, Scanner.scan_append]
    exact escaped_scan_text _ declaration
  rw [IsBalanced, Scanner.scan_append, Scanner.scan_cons, Scanner.scan_nil,
    Scanner.step_space hescaped, IsBalanced]

/-- The reader meets the delimiters of a rule just if each declaration is balanced. -/
theorem meetsDelimiters_iff (id : String) (style : Style) :
    MeetsDelimiters id style ↔ ∀ d ∈ style, IsBalanced (d.text true).toList := by
  constructor
  · intro h d hd
    obtain ⟨before, after, rfl⟩ := List.append_of_mem hd
    -- The text up to `d` ends at a separator, or where the declarations begin.
    have hbefore : IsBalanced (ruleUpTo id before) := by
      by_cases hnil : before = []
      · subst hnil
        exact isBalanced_ruleUpTo_nil id
      · exact h.separator before (d :: after) rfl hnil (List.cons_ne_nil _ _)
    -- The text up to behind `d` ends at a separator, or at the closing brace.
    have hthrough : IsBalanced (ruleUpTo id (before ++ [d])) := by
      by_cases hnil : after = []
      · subst hnil
        exact isBalanced_ruleUpTo_concat_space.1 h.brace
      · exact h.separator (before ++ [d]) after (by simp) (by simp) hnil
    exact (isBalanced_ruleUpTo_concat hbefore).1 hthrough
  · intro h
    have hstyle := isBalanced_ruleUpTo id h
    have hspace : IsBalanced [' '] := rfl
    have hclose : IsBalanced ['\x7d', '\n'] := rfl
    refine ⟨fun before after hsplit _ _ => ?_, hstyle.append hspace, ?_⟩
    · exact isBalanced_ruleUpTo id fun d hd => h d (hsplit ▸ List.mem_append_left _ hd)
    · rw [toList_rule_eq]
      exact (hstyle.append hspace).append hclose

end PageLayout.Style
