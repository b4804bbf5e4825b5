import PageLayout.Decimal.Shortest

/-!
# How doubles are spelled

The shortest digits of a double are written either positionally or with an exponent. What a
format decides about this is one `Spelling` value; the digits are the same in all of them, apart
from exact ties.
-/

namespace PageLayout.Decimal

/-- What a format decides about the text of a double. -/
structure Spelling where
  /-- The decimal taken when two shortest decimals are equally near. -/
  tie : Tie
  /-- Whether a number whose first digit counts this power of ten is written positionally. -/
  isPositional : Int → Bool
  /-- Whether a whole number written positionally ends in `.0`. -/
  keepsPoint : Bool
  /-- Whether negative zero keeps its sign. -/
  signsZero : Bool

namespace Spelling

/-- Numbers in running text and in style values: never an exponent, no `.0`, and one zero. -/
def plain : Spelling where
  tie := .up
  isPositional := fun _ => true
  keepsPoint := false
  signsZero := false

/-- Numbers that must be seen to be doubles: never an exponent, and always a point. -/
def pointed : Spelling where
  tie := .up
  isPositional := fun _ => true
  keepsPoint := true
  signsZero := true

/-- Numbers in JSON text: positional from `1e-5` to below `1e16`, and always seen to be doubles. -/
def json : Spelling where
  tie := .even
  isPositional := fun power => -5 ≤ power && power < 16
  keepsPoint := true
  signsZero := true

end Spelling

/-- The decimal digits of a natural number. -/
def natDigits (n : Nat) : List Char :=
  Nat.toDigits 10 n

/-- The decimal digits of an integer, after a minus sign if it is negative. -/
def intDigits : Int → List Char
  | .ofNat n => natDigits n
  | .negSucc n => '-' :: natDigits (n + 1)

namespace Digits

/-- The power of ten that the first digit counts. -/
def leadingPower (d : Digits) : Int :=
  (natDigits d.significand).length - 1 + d.exponent

/-- The digits with the point in its place, padded with zeros up to it. -/
def positional (d : Digits) (keepsPoint : Bool) : List Char :=
  let digits := natDigits d.significand
  if 0 ≤ d.exponent then
    digits ++ List.replicate d.exponent.toNat '0' ++ if keepsPoint then ['.', '0'] else []
  else
    let places := (-d.exponent).toNat
    -- The point falls among the digits, or in front of them.
    if places < digits.length then
      digits.take (digits.length - places) ++ '.' :: digits.drop (digits.length - places)
    else '0' :: '.' :: List.replicate (places - digits.length) '0' ++ digits

/-- The digits with the point after the first one, and a signed power of ten. -/
def scientific (d : Digits) : List Char :=
  let fraction := (natDigits d.significand).drop 1
  (natDigits d.significand).take 1 ++ (if fraction.isEmpty then [] else '.' :: fraction) ++
    'e' :: (if d.leadingPower < 0 then [] else ['+']) ++ intDigits d.leadingPower

end Digits

/-- The text of a double. -/
def Spelling.text (s : Spelling) (x : Float) : String :=
  let sign (negative : Bool) : List Char := if negative then ['-'] else []
  String.ofList <| match Binary.ofFloat x with
    | .nan => ['N', 'a', 'N']
    | .infinite negative => sign negative ++ ['i', 'n', 'f']
    | .finite negative mantissa exponent =>
      let digits := shortest s.tie mantissa exponent
      sign (negative && (mantissa != 0 || s.signsZero)) ++
        if s.isPositional digits.leadingPower then digits.positional s.keepsPoint
        else digits.scientific

/-- The text of an integer. -/
def intText (n : Int) : String :=
  String.ofList (intDigits n)

end PageLayout.Decimal
