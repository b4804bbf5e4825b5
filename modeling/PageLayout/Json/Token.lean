import PageLayout.Json.Failure
import PageLayout.Json.Value

/-!
# The pieces of JSON text

Readers for blanks, words, strings and numbers. Each one reads from the front of the text and
fails at the first byte that cannot belong to the piece.
-/

namespace PageLayout.Json

/-- The blanks of JSON. -/
def isSpace (c : Char) : Bool :=
  c == ' ' || c == '\t' || c == '\n' || c == '\r'

/-- The text from its first character that is not blank. -/
def skipSpace (cs : List Char) : List Char :=
  cs.dropWhile isSpace

/-- Reads the given letters. -/
def readWord : List Char → Reader Unit
  | [], cs => .ok ((), cs)
  | _ :: _, [] => failAt .eofInValue []
  | w :: ws, c :: cs => if c = w then readWord ws cs else failPast .expectedIdent 1 (c :: cs)

/-! ## Strings -/

/-- The number that four hexadecimal digits write. -/
def hexUnit? (a b c d : Char) : Option Nat := do
  let high := 16 * (← Text.hexValue? a) + (← Text.hexValue? b)
  let low := 16 * (← Text.hexValue? c) + (← Text.hexValue? d)
  return 256 * high + low

/-- The first half of a pair that stands for a character beyond U+FFFF. -/
def isHighSurrogate (unit : Nat) : Bool :=
  0xD800 ≤ unit && unit ≤ 0xDBFF

/-- The second half of such a pair. -/
def isLowSurrogate (unit : Nat) : Bool :=
  0xDC00 ≤ unit && unit ≤ 0xDFFF

/-- The character that a pair of halves stands for. -/
def surrogatePair (high low : Nat) : Char :=
  Char.ofNat (0x10000 + 0x400 * (high - 0xD800) + (low - 0xDC00))

/-- The character that a backslash and a single letter stand for. -/
def shortEscape? (c : Char) : Option Char :=
  match c with
  | '"' => some '"'
  | '\\' => some '\\'
  | '/' => some '/'
  | 'b' => some (Char.ofNat 0x08)
  | 'f' => some (Char.ofNat 0x0C)
  | 'n' => some '\n'
  | 'r' => some '\r'
  | 't' => some '\t'
  | _ => none

/-- Failing at four bytes that are not four hexadecimal digits, or at fewer bytes. -/
def failHex {α : Type} (rest : List Char) : Except Failure α :=
  if byteLength (rest.take 4) < 4 then failAt .eofInString []
  else failPast .invalidEscape 4 rest

/-- Failing where the second half of a pair should be written, and is not. -/
def failPair {α : Type} : List Char → Except Failure α
  | [] => failAt .eofInString []
  | '\\' :: [] => failAt .eofInString []
  | '\\' :: 'u' :: cs => failHex cs
  | '\\' :: cs => failPast .unexpectedEndOfHexEscape 1 cs
  | cs => failPast .unexpectedEndOfHexEscape 1 cs

/-- Reads the characters of a string up to its closing quote, after those already read (in
reverse). -/
def readChars (done : List Char) : Reader (List Char)
  | [] => failAt .eofInString []
  | '"' :: cs => .ok (done.reverse, cs)
  | '\\' :: 'u' :: a :: b :: c :: d :: cs =>
    match hexUnit? a b c d with
    | none => failHex (a :: b :: c :: d :: cs)
    | some unit =>
      if isHighSurrogate unit then
        match cs with
        | '\\' :: 'u' :: e :: f :: g :: h :: cs =>
          match hexUnit? e f g h with
          | none => failHex (e :: f :: g :: h :: cs)
          | some low =>
            -- A first half must be followed by a second half, not by another first one.
            if isLowSurrogate low then readChars (surrogatePair unit low :: done) cs
            else failAt .loneSurrogate cs
        | cs => failPair cs
      else if isLowSurrogate unit then failAt .loneSurrogate cs
      else readChars (Char.ofNat unit :: done) cs
  -- Fewer than four characters are left.
  | '\\' :: 'u' :: cs => failHex cs
  | ['\\'] => failAt .eofInString []
  | '\\' :: c :: cs =>
    match shortEscape? c with
    | some escaped => readChars (escaped :: done) cs
    | none => failPast .invalidEscape 1 (c :: cs)
  | c :: cs =>
    if c < ' ' then failPast .controlCharacter 1 (c :: cs) else readChars (c :: done) cs

/-- Reads a string after its opening quote. -/
def readString : Reader String := fun cs =>
  (readChars [] cs).map fun (chars, rest) => (String.ofList chars, rest)

/-! ## Numbers

The digits of a number are collected into a significand of 64 bits. Digits of the whole part that
do not fit are dropped and counted in the exponent; digits of the fraction that do not fit are
dropped. The double is the significand, rounded, times or divided by one power of ten: two
roundings, so it need not be the double nearest to the number. -/

/-- The greatest significand. -/
def maxSignificand : Nat := Nat.pow 2 64 - 1

/-- The greatest power of ten that is read; beyond it a number is zero or out of range. -/
def maxPower : Nat := Nat.pow 2 31 - 1

/-- Appends digits to a number as long as it stays within the limit: the number, and the digits
left over. -/
def absorb (limit number : Nat) : List Char → Nat × List Char
  | [] => (number, [])
  | d :: ds =>
    if 10 * number + (d.toNat - '0'.toNat) ≤ limit then
      absorb limit (10 * number + (d.toNat - '0'.toNat)) ds
    else (number, d :: ds)

/-- The double nearest to a power of ten. -/
def powerOfTen (power : Nat) : Float :=
  Float.ofScientific 1 false power

/-- Divides a double by a power of ten, `308` powers at a time, in at most that many steps. Zero
stays zero. -/
def divideByPower : Nat → Float → Nat → Float
  | 0, x, _ => x
  | steps + 1, x, power =>
    if power ≤ 308 then x / powerOfTen power
    else if x == 0.0 then x
    else divideByPower steps (x / powerOfTen 308) (power - 308)

/-- The double for a significand and a power of ten, unless it is too large. -/
def scaled? (significand : Nat) (exponent : Int) : Option Float :=
  let x := Float.ofNat significand
  if exponent < 0 then
    some (divideByPower (exponent.natAbs / 308 + 1) x exponent.natAbs)
  else if exponent ≤ 308 then
    let y := x * powerOfTen exponent.toNat
    if y.isInf then none else some y
  else if x == 0.0 then some x
  else none

/-- A double with the sign of the number. -/
def signed (negative : Bool) (x : Float) : Float :=
  if negative then -x else x

/-- An integer if it fits into 64 bits, with its sign; otherwise, and for negative zero, a
double. -/
def wholeNumber (negative : Bool) (significand : Nat) : Number :=
  if !negative then .whole significand
  else if significand = 0 ∨ Nat.pow 2 63 < significand then .real (-Float.ofNat significand)
  else .whole (-significand)

/-- The number for a significand and a power of ten, read up to `rest`. -/
def realNumber (negative : Bool) (significand : Nat) (exponent : Int) : Reader Number := fun rest =>
  match scaled? significand exponent with
  | some x => .ok (.real (signed negative x), rest)
  | none => failAt .numberOutOfRange rest

/-- Reads the power of ten after `e` and finishes the number. -/
def readPower (negative : Bool) (significand : Nat) (exponent : Int) : Reader Number := fun cs =>
  let down := cs.head? == some '-'
  let unsigned := if down || cs.head? == some '+' then cs.drop 1 else cs
  let digits := unsigned.takeWhile Char.isDigit
  let rest := unsigned.dropWhile Char.isDigit
  if unsigned.isEmpty then failAt .eofInValue []
  else if digits.isEmpty then failPast .invalidNumber 1 unsigned
  else match absorb maxPower 0 digits with
    | (power, []) => realNumber negative significand
        (if down then exponent - power else exponent + power) rest
    | (_, dropped) =>
      -- The power is beyond all doubles, so only its sign and a zero significand matter.
      if significand ≠ 0 ∧ !down then failAt .numberOutOfRange (dropped.drop 1 ++ rest)
      else .ok (.real (signed negative 0.0), rest)

/-- Reads the digits after the point and finishes the number. -/
def readFraction (negative : Bool) (significand : Nat) (exponent : Int) : Reader Number := fun cs =>
  let digits := cs.takeWhile Char.isDigit
  let rest := cs.dropWhile Char.isDigit
  let (significand, dropped) := absorb maxSignificand significand digits
  -- Only the digits that went into the significand move the point.
  let exponent := exponent - (digits.length - dropped.length : Nat)
  if cs.isEmpty then failPast .eofInValue 1 []
  else if digits.isEmpty then failPast .invalidNumber 1 cs
  else match rest with
    | 'e' :: rest | 'E' :: rest => readPower negative significand exponent rest
    | rest => realNumber negative significand exponent rest

/-- Reads a number after its sign. -/
def readUnsigned (negative : Bool) : Reader Number := fun cs =>
  let digits := cs.takeWhile Char.isDigit
  let rest := cs.dropWhile Char.isDigit
  let (significand, dropped) := absorb maxSignificand 0 digits
  if cs.isEmpty then failAt .eofInValue []
  else if digits.isEmpty then failPast .invalidNumber 1 cs
  -- A zero in front stands alone.
  else if digits.head? = some '0' ∧ 1 < digits.length then failPast .invalidNumber 1 (cs.drop 1)
  else match rest with
    | '.' :: rest => readFraction negative significand dropped.length rest
    | 'e' :: rest | 'E' :: rest => readPower negative significand dropped.length rest
    | rest =>
      if dropped.isEmpty then .ok (wholeNumber negative significand, rest)
      else realNumber negative significand dropped.length rest

/-- Reads a number. -/
def readNumber : Reader Number
  | '-' :: cs => readUnsigned true cs
  | cs => readUnsigned false cs

end PageLayout.Json
