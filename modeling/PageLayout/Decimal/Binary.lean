/-!
# Doubles as exact binary fractions

A finite double is a whole mantissa times a power of two. This module reads it off the bit
pattern, so that everything said about the spelling of doubles is said in whole numbers.
-/

namespace PageLayout.Decimal

/-- What a double stands for. -/
inductive Binary where
  /-- Not a number. -/
  | nan
  /-- An infinity. -/
  | infinite (negative : Bool)
  /-- The number `mantissa * 2 ^ exponent`, negated if `negative`. -/
  | finite (negative : Bool) (mantissa : Nat) (exponent : Int)
deriving DecidableEq, Repr

namespace Binary

/-- The mantissa of the least double of a binade: 53 bits, all but the first zero. -/
def leadingBit : Nat := Nat.pow 2 52

/-- The power of two that the smallest doubles are multiples of. -/
def leastExponent : Int := -1074

/-- The value of a double, from its sign bit, its eleven exponent bits and its fraction. -/
def ofFloat (x : Float) : Binary :=
  let bits := x.toBits.toNat
  let negative := bits / Nat.pow 2 63 == 1
  let biased : Nat := bits / leadingBit % Nat.pow 2 11
  let fraction := bits % leadingBit
  if biased = 2047 then
    if fraction = 0 then .infinite negative else .nan
  else if biased = 0 then .finite negative fraction leastExponent
  else .finite negative (leadingBit + fraction) (biased - 1075)

/-- The natural number that a value equals, if it equals one; negative zero equals zero. -/
def nat? : Binary → Option Nat
  | .finite negative mantissa exponent =>
    if negative && mantissa != 0 then none
    else if 0 ≤ exponent then some (mantissa * Nat.pow 2 exponent.toNat)
    else if mantissa % Nat.pow 2 (-exponent).toNat = 0 then
      some (mantissa / Nat.pow 2 (-exponent).toNat)
    else none
  | _ => none

end Binary

end PageLayout.Decimal
