import PageLayout.Decimal.Spelling

/-!
# The double nearest to a decimal

Reading a decimal number as the double nearest to it, with ties to the even mantissa; a decimal
too large for a double reads as infinity.
-/

namespace PageLayout.Decimal

/-- The double nearest to `significand * 10 ^ exponent`, negated if `negative`. Beyond the
powers of ten that doubles reach, the answer does not depend on the digits. -/
def nearest (negative : Bool) (significand : Nat) (exponent : Int) : Float :=
  let power := exponent + (natDigits significand).length
  let magnitude : Float :=
    if significand = 0 ∨ power < -400 then 0.0
    else if 400 < power then 1.0 / 0.0
    else Float.ofScientific significand (exponent < 0) exponent.natAbs
  if negative then -magnitude else magnitude

/-- The number that a list of decimal digits writes. -/
def ofDigits (digits : List Char) : Nat :=
  digits.foldl (fun n c => 10 * n + (c.toNat - '0'.toNat)) 0

/-- The integer that a signed list of decimal digits writes, if there is at least one digit and
nothing but digits after the sign. -/
def readInt? : List Char → Option Int
  | '+' :: digits => natural? digits
  | '-' :: digits => (natural? digits).map (- ·)
  | digits => natural? digits
where
  /-- The number that a nonempty list of decimal digits writes. -/
  natural? (digits : List Char) : Option Int :=
    if !digits.isEmpty && digits.all Char.isDigit then some (ofDigits digits) else none

/-- The double that an unsigned decimal writes: digits with at most one point among them, at
least one digit, and perhaps a power of ten after `e` or `E`. -/
def readMagnitude? (negative : Bool) (text : List Char) : Option Float := do
  let isMark (c : Char) : Bool := c == 'e' || c == 'E'
  let number := text.takeWhile fun c => !isMark c
  let power ← match text.dropWhile fun c => !isMark c with
    | [] => some 0
    | _ :: power => readInt? power
  let whole := number.takeWhile fun c => c != '.'
  let fraction := (number.dropWhile fun c => c != '.').drop 1
  if (whole ++ fraction).all Char.isDigit && !(whole ++ fraction).isEmpty then
    some (nearest negative (ofDigits (whole ++ fraction)) (power - fraction.length))
  else none

/-- The double that a text writes: a decimal, or the name of an infinity or of the value that
is not a number in any mixture of cases, after a sign or none. -/
def readFloat? (text : List Char) : Option Float :=
  let signed : Bool × List Char := match text with
    | '-' :: rest => (true, rest)
    | '+' :: rest => (false, rest)
    | rest => (false, rest)
  let name := String.ofList (signed.2.map Char.toLower)
  if name = "inf" ∨ name = "infinity" then some (if signed.1 then -1.0 / 0.0 else 1.0 / 0.0)
  else if name = "nan" then some (0.0 / 0.0)
  else readMagnitude? signed.1 signed.2

end PageLayout.Decimal
