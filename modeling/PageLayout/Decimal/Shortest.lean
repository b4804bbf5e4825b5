import PageLayout.Decimal.Binary

/-!
# The shortest decimal that reads back

Among the decimals that round to a given double there are some with the fewest digits, and among
those one lies nearest to the double. It is found on the grids of multiples of powers of ten,
from the coarsest to the finest: if a point of a grid rounds to the double, then so does one of
the two grid points beside the double. All comparisons are between whole numbers.

## Main definitions

* `Neighbourhood.ofBinary` measures the numbers that round to a double against a grid.
* `Neighbourhood.nearest?` is the point of the grid among them that lies nearest to the double.
* `shortest` takes that point on the coarsest grid that has one.
-/

namespace PageLayout.Decimal

/-- The decimal number `significand * 10 ^ exponent`. -/
structure Digits where
  /-- The digits, as one whole number. -/
  significand : Nat
  /-- The power of ten that the last digit counts. -/
  exponent : Int
deriving DecidableEq, Repr

/-- Which of two neighbouring decimals is taken when the double lies midway between them. -/
inductive Tie where
  /-- The one with the even last digit. -/
  | even
  /-- The greater one. -/
  | up
deriving DecidableEq, Repr

/-- The numbers that round to a double, measured against the points of a decimal grid. -/
structure Neighbourhood where
  /-- The lower end, as a multiple of one part. -/
  lower : Nat
  /-- The double itself. -/
  centre : Nat
  /-- The upper end. -/
  upper : Nat
  /-- How many parts lie between two points of the grid. -/
  spacing : Nat
  /-- Whether the two ends round to the double as well. -/
  closed : Bool

namespace Neighbourhood

/-- The numbers that round to `mantissa * 2 ^ exponent`, on the grid of the multiples of
`10 ^ grid`. The ends lie midway to the neighbouring doubles; below a power of two the
neighbour is twice as near. The ends belong to the double whose mantissa is even. -/
def ofBinary (mantissa : Nat) (exponent grid : Int) : Neighbourhood :=
  -- Quarters of the last binary place, so that the ends are whole numbers too.
  let scale := Nat.pow 2 (exponent - 2).toNat * Nat.pow 10 (-grid).toNat
  let below :=
    if mantissa = Binary.leadingBit ∧ Binary.leastExponent < exponent then 1 else 2
  { lower := (4 * mantissa - below) * scale
    centre := 4 * mantissa * scale
    upper := (4 * mantissa + 2) * scale
    spacing := Nat.pow 2 (2 - exponent).toNat * Nat.pow 10 grid.toNat
    closed := mantissa % 2 == 0 }

/-- Whether the grid point `t` rounds to the double. -/
def contains (n : Neighbourhood) (t : Nat) : Bool :=
  let point := t * n.spacing
  if n.closed then n.lower ≤ point && point ≤ n.upper else n.lower < point && point < n.upper

/-- The grid point that rounds to the double and lies nearest to it, if there is one. -/
def nearest? (n : Neighbourhood) (tie : Tie) : Option Nat :=
  let t := n.centre / n.spacing
  if n.contains t then
    if n.contains (t + 1) then
      let beneath := n.centre - t * n.spacing
      let above := (t + 1) * n.spacing - n.centre
      if beneath < above then some t
      else if above < beneath then some (t + 1)
      else match tie with
        | .up => some (t + 1)
        | .even => some (if t % 2 = 0 then t else t + 1)
    else some t
  else if n.contains (t + 1) then some (t + 1)
  else none

end Neighbourhood

/-- The first grid with a point that rounds to the double, from `grid` downwards for the given
number of grids; on the last one the point below the double is taken in any case. -/
def Digits.search (tie : Tie) (mantissa : Nat) (exponent : Int) : Nat → Int → Digits
  | 0, grid =>
    let n := Neighbourhood.ofBinary mantissa exponent grid
    ⟨n.centre / n.spacing, grid⟩
  | grids + 1, grid =>
    match (Neighbourhood.ofBinary mantissa exponent grid).nearest? tie with
    | some t => ⟨t, grid⟩
    | none => search tie mantissa exponent grids (grid - 1)

/-- A power of ten that is at least `mantissa * 2 ^ exponent`, and at most a few powers too
large: the number of bits times the decimal logarithm of two. -/
def coarsestGrid (mantissa : Nat) (exponent : Int) : Int :=
  (mantissa.log2 + 1 + exponent) * 30103 / 100000 + 1

/-- The decimal with the fewest digits that rounds to `mantissa * 2 ^ exponent`, and of those
the nearest one. Seventeen digits always suffice, which leaves room in the search for a first
grid that is too coarse. -/
def shortest (tie : Tie) (mantissa : Nat) (exponent : Int) : Digits :=
  if mantissa = 0 then ⟨0, 0⟩
  else Digits.search tie mantissa exponent 20 (coarsestGrid mantissa exponent)

end PageLayout.Decimal
