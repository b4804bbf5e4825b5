import PageLayout.Toml.Failure
import PageLayout.Toml.Spelling

/-!
# Blanks, comments, strings and keys in TOML

Readers for everything in a TOML text that holds characters of its own choosing. Comments and
strings admit every character but the control characters; the tab is no control character here.
-/

namespace PageLayout.Toml

/-- The blanks within a line. -/
def isSpace (c : Char) : Bool :=
  c == ' ' || c == '\t'

/-- The text from its first character that is no blank within a line. -/
def skipSpace (cs : List Char) : List Char :=
  cs.dropWhile isSpace

/-- A character that comments and strings admit. -/
def isTextChar (c : Char) : Bool :=
  c == '\t' || (0x20 ≤ c.toNat && c.toNat != 0x7F)

/-- The text after a line feed, which may have a carriage return before it. -/
def newline? : List Char → Option (List Char)
  | '\n' :: cs => some cs
  | '\r' :: '\n' :: cs => some cs
  | _ => none

/-- The text after the end of a line: after a line feed, or the end of the text. -/
def lineEnd? : List Char → Option (List Char)
  | [] => some []
  | cs => newline? cs

/-- The text after the blanks within a line, and after a comment if there is one. -/
def skipComment (cs : List Char) : List Char :=
  match skipSpace cs with
  | '#' :: rest => rest.dropWhile isTextChar
  | rest => rest

/-- Reads the end of a line after something else: blanks, perhaps a comment, and a line feed or
the end of the text. -/
def readLineEnd (cs : List Char) : Except Failure (List Char) :=
  match lineEnd? (skipComment cs) with
  | some rest => .ok rest
  | none => failExpecting ["newline", "`#`"] (skipComment cs)

/-- Reads a line with nothing but blanks and perhaps a comment. -/
def readBlankLine (cs : List Char) : Except Failure (List Char) :=
  match lineEnd? (skipComment cs) with
  | some rest => .ok rest
  | none => failExpecting [] (skipComment cs)

/-- Reads a line feed, which may have a carriage return before it. A character in its place is
passed over before the failure. -/
def readNewline : List Char → Except Failure (List Char)
  | '\n' :: rest => .ok rest
  | '\r' :: '\n' :: rest => .ok rest
  | cs => failExpecting [] (cs.drop 1)

/-- Reads the blanks, line feeds and comments between the items of an array. Every comment has a
line feed after it. The first argument bounds their number, one for each of its characters. -/
def readGap : List Char → List Char → Except Failure (List Char)
  | [], cs => .ok cs
  | _ :: bound, cs =>
    match skipSpace cs with
    | '#' :: rest => do readGap bound (← readNewline (rest.dropWhile isTextChar))
    | '\n' :: rest => readGap bound rest
    | '\r' :: rest => do readGap bound (← readNewline ('\r' :: rest))
    | rest => .ok rest

/-! ## Strings -/

/-- The character whose code point the given hexadecimal digits write. -/
def codePoint? (digits : List Char) : Option Char := do
  let n ← digits.foldlM (fun n c => (Text.hexValue? c).map (16 * n + ·)) 0
  if n.isValidChar then some (Char.ofNat n) else none

/-- Failing at a character that begins no escape. A character of one byte is passed over before
the failure. -/
def failEscape {α : Type} (cs : List Char) : Except Failure α :=
  let isShort := cs.head?.any fun c => c.utf8Size == 1
  failIn "escape sequence" ["`b`", "`f`", "`n`", "`r`", "`t`", "`u`", "`U`", "`\\`", "`\"`"]
    (if isShort then cs.drop 1 else cs)

/-- Reads the part of an escape after the backslash. -/
def readEscape : Reader Char := fun cs =>
  let byCodePoint (count : Nat) (rest : List Char) : Except Failure (Char × List Char) :=
    let digits := rest.take count
    within ("unicode " ++ Decimal.intText count ++ "-digit hex code") <|
      if digits.length = count ∧ digits.all fun c => (Text.hexValue? c).isSome then
        match codePoint? digits with
        | some c => .ok (c, rest.drop count)
        | none => failWith .outOfRange rest
      else failExpecting [] rest
  match cs with
  | 'b' :: rest => .ok (Char.ofNat 0x08, rest)
  | 'f' :: rest => .ok (Char.ofNat 0x0C, rest)
  | 'n' :: rest => .ok ('\n', rest)
  | 'r' :: rest => .ok ('\r', rest)
  | 't' :: rest => .ok ('\t', rest)
  | '"' :: rest => .ok ('"', rest)
  | '\\' :: rest => .ok ('\\', rest)
  | 'u' :: rest => byCodePoint 4 rest
  | 'U' :: rest => byCodePoint 8 rest
  | rest => failEscape rest

/-- Reads a string in double quotes after the opening quote, with the characters read before (in
reverse). The first argument bounds their number, one for each of its characters. -/
def readBasic : List Char → List Char → Reader String
  | [], _, _ => failIn "basic string" [] []
  | _ :: bound, done, cs =>
    match cs with
    | '"' :: rest => .ok (String.ofList done.reverse, rest)
    -- A backslash at the end of the text begins no escape.
    | ['\\'] => failIn "basic string" [] cs
    | '\\' :: rest => do
      let (c, rest) ← readEscape rest
      readBasic bound (c :: done) rest
    | c :: rest =>
      if isTextChar c then readBasic bound (c :: done) rest
      else failIn "basic string" [] (c :: rest)
    | [] => failIn "basic string" [] []

/-- Passes over blanks and line feeds inside a string. -/
def skipLines : List Char → List Char
  | [] => []
  | '\r' :: '\n' :: cs => skipLines cs
  | c :: cs => if isSpace c || c == '\n' then skipLines cs else c :: cs

/-- Reads a string in triple double quotes after the opening quotes. Up to two quotes may stand
right before the closing ones; a backslash at the end of a line joins the next text to it. -/
def readMultilineBasic : List Char → List Char → Reader String
  | [], _, _ => failIn "multiline basic string" [] []
  | _ :: bound, done, cs =>
    match cs with
    -- What is too short for closing quotes or an escape closes and escapes nothing.
    | ['"'] | ['"', '"'] | ['\\'] => failIn "multiline basic string" [] cs
    | '"' :: '"' :: '"' :: '"' :: '"' :: rest =>
      .ok (String.ofList ('"' :: '"' :: done).reverse, rest)
    | '"' :: '"' :: '"' :: '"' :: rest => .ok (String.ofList ('"' :: done).reverse, rest)
    | '"' :: '"' :: '"' :: rest => .ok (String.ofList done.reverse, rest)
    | '\\' :: rest =>
      match newline? (skipSpace rest) with
      -- The line is joined to the next text.
      | some rest => readMultilineBasic bound done (skipLines rest)
      | none => do
        let (c, rest) ← readEscape rest
        readMultilineBasic bound (c :: done) rest
    | _ =>
      match newline? cs, cs with
      | some rest, _ => readMultilineBasic bound ('\n' :: done) rest
      | none, c :: rest =>
        if isTextChar c then readMultilineBasic bound (c :: done) rest
        else failIn "multiline basic string" [] cs
      | none, [] => failIn "multiline basic string" [] []

/-- Whether a text goes on with a character that strings admit, or with a line feed. -/
def beginsText (cs : List Char) : Bool :=
  (newline? cs).isSome || cs.head?.any isTextChar

/-- Reads a string in triple single quotes after the opening quotes. -/
def readMultilineLiteral : List Char → List Char → Reader String
  | [], _, _ => failIn "multiline literal string" [] []
  | _ :: bound, done, cs =>
    match cs with
    | '\x27' :: '\x27' :: '\x27' :: '\x27' :: '\x27' :: rest =>
      .ok (String.ofList ('\x27' :: '\x27' :: done).reverse, rest)
    | '\x27' :: '\x27' :: '\x27' :: '\x27' :: rest =>
      .ok (String.ofList ('\x27' :: done).reverse, rest)
    | '\x27' :: '\x27' :: '\x27' :: rest => .ok (String.ofList done.reverse, rest)
    | _ =>
      match newline? cs, cs with
      | some rest, _ => readMultilineLiteral bound ('\n' :: done) rest
      | none, c :: rest =>
        -- Quotes belong to the string only if something of it comes after them.
        if beginsText (cs.dropWhile (· == '\x27')) then
          readMultilineLiteral bound (c :: done) rest
        else failIn "multiline literal string" [] cs
      | none, [] => failIn "multiline literal string" [] []

/-- Reads a string in single quotes after the opening quote. It has no escapes. -/
def readLiteral : Reader String := fun cs =>
  let isContent (c : Char) : Bool := isTextChar c && c != '\x27'
  match cs.dropWhile isContent with
  | '\x27' :: rest => .ok (String.ofList (cs.takeWhile isContent), rest)
  | rest => failIn "literal string" [] rest

/-- Reads a string with quotes of any kind. A line feed right after triple quotes is dropped. -/
def readString : Reader String := fun cs =>
  let body (cs : List Char) : List Char := (newline? cs).getD cs
  match cs with
  | '"' :: '"' :: '"' :: rest => readMultilineBasic rest [] (body rest)
  | '"' :: rest => readBasic rest [] rest
  | '\x27' :: '\x27' :: '\x27' :: rest => readMultilineLiteral rest [] (body rest)
  | '\x27' :: rest => readLiteral rest
  | rest => failIn "string" ["`\"`", "`'`"] rest

/-! ## Keys -/

/-- Reads one key, with or without quotes, on one line. -/
def readSimpleKey : Reader Key := fun cs => do
  let (name, rest) ← match cs with
    | '"' :: rest => readBasic rest [] rest
    | '\x27' :: rest => readLiteral rest
    | _ =>
      if (cs.takeWhile isBareChar).isEmpty then failIn "key" [] cs
      else .ok (String.ofList (cs.takeWhile isBareChar), cs.dropWhile isBareChar)
  return (⟨name, .between cs rest⟩, rest)

/-- How deeply values may be nested, and how many keys may be dotted together. -/
def maxDepth : Nat := 80

/-- Whether a text begins with a key. -/
def beginsKey : List Char → Bool
  | [] => false
  | c :: _ => c == '"' || c == '\x27' || isBareChar c

/-- Reads keys with dots between them, and blanks around each. The first argument bounds their
number, one for each of its characters. -/
def readKeys : List Char → Reader (List Key)
  | [], cs => failIn "key" [] cs
  | _ :: bound, cs => do
    let (key, rest) ← readSimpleKey (skipSpace cs)
    match skipSpace rest with
    | '.' :: next =>
      -- A dot with no key after it does not belong to the keys.
      if beginsKey (skipSpace next) then
        let (keys, rest) ← readKeys bound next
        return (key :: keys, rest)
      else return ([key], '.' :: next)
    | rest => return ([key], rest)

/-- Reads a dotted key: the keys that lead to its last part, and the last part. -/
def readDottedKey : Reader (List Key × Key) := fun cs => do
  let (keys, rest) ← readKeys cs cs
  match keys.getLast? with
  | some last =>
    if maxDepth ≤ keys.length then failWith .recursionLimit cs
    else return ((keys.dropLast, last), rest)
  | none => failIn "key" [] cs

end PageLayout.Toml
