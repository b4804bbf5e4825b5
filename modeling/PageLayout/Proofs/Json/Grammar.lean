import Mathlib.Data.List.Forall2
import PageLayout.Json.Skip

/-!
# The grammar of JSON

Which texts are JSON values, whatever a reader makes of them: strings may hold escapes that stand
for no character, numbers may be of any size, and arrays and objects may nest to any depth. Blanks
may stand around every part of an array or an object.

- `Spells`: a string with the characters that it stands for.
- `IsLiteral`: a string, whether it stands for characters or not.
- `IsNumber`: a number.
- `IsValue`: a value.
- `IsObject` and `IsArray`: a text with the members or the items that it has.
-/

namespace PageLayout.Json

/-- A text of nothing but blanks. -/
def IsGap (cs : List Char) : Prop :=
  ∀ c ∈ cs, isSpace c

/-! ## Strings -/

/-- What may stand between the quotes of a string. -/
inductive IsLiteral : List Char → Prop
  | nil : IsLiteral []
  | plain {c : Char} {raw : List Char} (hquote : c ≠ '"') (hbackslash : c ≠ '\\')
      (hcontrol : ¬ c < ' ') (h : IsLiteral raw) : IsLiteral (c :: raw)
  | short {e c : Char} {raw : List Char} (hescape : shortEscape? e = some c) (h : IsLiteral raw) :
      IsLiteral ('\\' :: e :: raw)
  | hex {a b c d : Char} {unit : Nat} {raw : List Char} (hunit : hexUnit? a b c d = some unit)
      (h : IsLiteral raw) : IsLiteral ('\\' :: 'u' :: a :: b :: c :: d :: raw)

/-- What stands between the quotes of a string, with the characters that it stands for. Halves of
pairs stand for a character only together. -/
inductive Spells : List Char → List Char → Prop
  | nil : Spells [] []
  | plain {c : Char} {raw chars : List Char} (hquote : c ≠ '"') (hbackslash : c ≠ '\\')
      (hcontrol : ¬ c < ' ') (h : Spells raw chars) : Spells (c :: raw) (c :: chars)
  | short {e c : Char} {raw chars : List Char} (hescape : shortEscape? e = some c)
      (h : Spells raw chars) : Spells ('\\' :: e :: raw) (c :: chars)
  | hex {a b c d : Char} {unit : Nat} {raw chars : List Char}
      (hunit : hexUnit? a b c d = some unit) (hhigh : isHighSurrogate unit = false)
      (hlow : isLowSurrogate unit = false) (h : Spells raw chars) :
      Spells ('\\' :: 'u' :: a :: b :: c :: d :: raw) (Char.ofNat unit :: chars)
  | pair {a b c d e f g h : Char} {high low : Nat} {raw chars : List Char}
      (hunit : hexUnit? a b c d = some high) (hhigh : isHighSurrogate high = true)
      (hunit' : hexUnit? e f g h = some low) (hlow : isLowSurrogate low = true)
      (hraw : Spells raw chars) :
      Spells ('\\' :: 'u' :: a :: b :: c :: d :: '\\' :: 'u' :: e :: f :: g :: h :: raw)
        (surrogatePair high low :: chars)

/-! ## Numbers -/

/-- Digits, of which there is at least one. -/
structure IsDigits (cs : List Char) : Prop where
  ne_nil : cs ≠ []
  isDigit : ∀ c ∈ cs, c.isDigit

/-- The digits before the point of a number. A zero in front stands alone. -/
structure IsWhole (cs : List Char) : Prop extends IsDigits cs where
  zero : cs.head? = some '0' → cs = ['0']

inductive IsFraction : List Char → Prop
  | none : IsFraction []
  | digits {cs : List Char} (h : IsDigits cs) : IsFraction ('.' :: cs)

inductive IsSign : List Char → Prop
  | none : IsSign []
  | plus : IsSign ['+']
  | minus : IsSign ['-']

/-- The power of ten of a number. -/
inductive IsPower : List Char → Prop
  | none : IsPower []
  | digits {e : Char} {sign cs : List Char} (he : e = 'e' ∨ e = 'E') (hsign : IsSign sign)
      (h : IsDigits cs) : IsPower (e :: (sign ++ cs))

/-- A number without a sign. -/
inductive IsUnsigned : List Char → Prop
  | mk {whole fraction power : List Char} (hwhole : IsWhole whole) (hfraction : IsFraction fraction)
      (hpower : IsPower power) : IsUnsigned (whole ++ (fraction ++ power))

inductive IsNumber : List Char → Prop
  | unsigned {cs : List Char} (h : IsUnsigned cs) : IsNumber cs
  | negative {cs : List Char} (h : IsUnsigned cs) : IsNumber ('-' :: cs)

/-! ## Values -/

/-- A value without parts. -/
inductive IsScalar : List Char → Prop
  | null : IsScalar ['n', 'u', 'l', 'l']
  | yes : IsScalar ['t', 'r', 'u', 'e']
  | no : IsScalar ['f', 'a', 'l', 's', 'e']
  | string {raw : List Char} (h : IsLiteral raw) : IsScalar ('"' :: (raw ++ ['"']))
  | number {cs : List Char} (h : IsNumber cs) : IsScalar cs

/-- The opening bracket. -/
def Bracket.opening : Bracket → Char
  | .list => '['
  | .object => '\x7b'

/-- A part of an array or an object. -/
structure Part where
  /-- What stands before the value: blanks, and the key if it is a part of an object. -/
  lead : List Char
  value : List Char
  /-- The blanks behind the value. -/
  trail : List Char

/-- The parts that come after another one, and the closing bracket. -/
def tailText (bracket : Bracket) (gap : List Char) : List Part → List Char
  | [] => gap ++ [bracket.closing]
  | part :: parts =>
    ',' :: (part.lead ++ (part.value ++ (part.trail ++ tailText bracket gap parts)))

/-- An array or an object from behind its opening bracket: parts with commas between them, and
blanks before the closing bracket. -/
def bodyText (bracket : Bracket) (gap : List Char) : List Part → List Char
  | [] => gap ++ [bracket.closing]
  | part :: parts => part.lead ++ (part.value ++ (part.trail ++ tailText bracket gap parts))

/-- A part begins with a key, whose quotes hold the given text. -/
inductive Part.HasKey (raw : List Char) : Part → Prop
  | mk {before after gap value trail : List Char} (hbefore : IsGap before) (hafter : IsGap after)
      (hgap : IsGap gap) :
      HasKey raw ⟨before ++ '"' :: (raw ++ '"' :: (after ++ ':' :: gap)), value, trail⟩

/-- What may stand before the value of a part within brackets. -/
def Bracket.Admits (bracket : Bracket) (part : Part) : Prop :=
  match bracket with
  | .list => IsGap part.lead
  | .object => ∃ raw, IsLiteral raw ∧ part.HasKey raw

/-- A value. -/
inductive IsValue : List Char → Prop
  | scalar {text : List Char} (h : IsScalar text) : IsValue text
  | within (bracket : Bracket) {gap : List Char} {parts : List Part} (hgap : IsGap gap)
      (hlead : ∀ part ∈ parts, bracket.Admits part) (htrail : ∀ part ∈ parts, IsGap part.trail)
      (hvalue : ∀ part ∈ parts, IsValue part.value) :
      IsValue (bracket.opening :: bodyText bracket gap parts)

/-- A part may stand within brackets. -/
structure Bracket.Holds (bracket : Bracket) (part : Part) : Prop where
  lead : bracket.Admits part
  value : IsValue part.value
  trail : IsGap part.trail

/-- An array with the texts of its items. -/
def IsArray (items : List (List Char)) (text : List Char) : Prop :=
  ∃ gap parts, IsGap gap ∧ (∀ part ∈ parts, Bracket.list.Holds part) ∧
    parts.map Part.value = items ∧ text = '[' :: bodyText .list gap parts

/-- A member of an object: its name and the text of its value. -/
structure Member where
  name : String
  value : List Char
  isValue : IsValue value

/-- The members that have one of some names. -/
def Member.among (names : List String) (members : List Member) : List Member :=
  members.filter fun member => member.name ∈ names

/-- A part of an object is a member of it. -/
structure Part.Is (part : Part) (member : Member) : Prop where
  key : ∃ raw, Spells raw member.name.toList ∧ part.HasKey raw
  value : part.value = member.value
  trail : IsGap part.trail

/-- An object with its members, in their order. -/
def IsObject (members : List Member) (text : List Char) : Prop :=
  ∃ gap parts, IsGap gap ∧ List.Forall₂ Part.Is parts members ∧
    text = '\x7b' :: bodyText .object gap parts

end PageLayout.Json
