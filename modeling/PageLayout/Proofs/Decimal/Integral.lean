import Mathlib.Algebra.Order.Field.Power
import Mathlib.Data.Rat.Cast.Order
import Mathlib.Tactic.Linarith
import PageLayout.Json.Value

/-!
# Numbers that are natural

A finite double is a rational number. The test for natural numbers finds the natural number that a
JSON number equals as a rational number, if there is one, however the number is written.

- `Binary.nat?_eq_some_iff` and `Number.nat?_eq_some_iff`.
-/

namespace PageLayout

namespace Decimal.Binary

/-- The number that a double stands for, if it is finite. -/
def toRat? : Binary → Option ℚ
  | .finite negative mantissa exponent =>
    some ((if negative then -1 else 1) * (mantissa * 2 ^ exponent))
  | _ => none

theorem mul_zpow_eq_iff_of_nonneg {mantissa n : Nat} {exponent : Int} (h : 0 ≤ exponent) :
    (mantissa * 2 ^ exponent : ℚ) = n ↔ mantissa * Nat.pow 2 exponent.toNat = n := by
  obtain ⟨k, rfl⟩ := Int.eq_ofNat_of_zero_le h
  rw [zpow_natCast, Int.toNat_natCast, Nat.pow_eq]
  exact_mod_cast Iff.rfl

theorem mul_zpow_eq_iff_of_neg {mantissa n : Nat} {exponent : Int} (h : exponent < 0) :
    (mantissa * 2 ^ exponent : ℚ) = n ↔ mantissa = n * Nat.pow 2 (-exponent).toNat := by
  obtain ⟨k, hk⟩ := Int.eq_ofNat_of_zero_le (show 0 ≤ -exponent by omega)
  obtain rfl : exponent = -k := by omega
  rw [neg_neg, Int.toNat_natCast, Nat.pow_eq, zpow_neg, zpow_natCast, ← div_eq_mul_inv,
    div_eq_iff (pow_ne_zero k two_ne_zero)]
  exact_mod_cast Iff.rfl

/-- The natural number that a double equals is the one that it stands for. -/
theorem nat?_eq_some_iff {b : Binary} {n : Nat} : b.nat? = some n ↔ b.toRat? = some (n : ℚ) := by
  cases b with
  | nan => simp [nat?, toRat?]
  | infinite negative => simp [nat?, toRat?]
  | finite negative mantissa exponent =>
    rw [nat?, toRat?, Option.some.injEq]
    by_cases hsign : (negative && mantissa != 0) = true
    · -- A number below zero is no natural number.
      obtain ⟨rfl, hmantissa⟩ : negative = true ∧ mantissa ≠ 0 := by simpa using hsign
      have hpos : (0 : ℚ) < mantissa * 2 ^ exponent :=
        mul_pos (Nat.cast_pos.2 (Nat.pos_of_ne_zero hmantissa)) (zpow_pos two_pos exponent)
      have hne : (-1 * (mantissa * 2 ^ exponent) : ℚ) ≠ n := by
        have hn : (0 : ℚ) ≤ n := Nat.cast_nonneg n
        linarith
      simpa [hsign] using hne
    · -- The sign of zero does not matter.
      have habs : ((if negative then -1 else 1) * (mantissa * 2 ^ exponent) : ℚ) =
          mantissa * 2 ^ exponent := by
        cases negative with
        | false => simp
        | true =>
          obtain rfl : mantissa = 0 := by simpa using hsign
          simp
      rw [if_neg hsign, habs]
      by_cases hexponent : 0 ≤ exponent
      · rw [if_pos hexponent, Option.some.injEq, mul_zpow_eq_iff_of_nonneg hexponent]
      · rw [if_neg hexponent, mul_zpow_eq_iff_of_neg (by omega)]
        have hpower : 0 < Nat.pow 2 (-exponent).toNat := Nat.two_pow_pos _
        constructor
        · intro h
          split at h
          · next hdvd =>
            obtain rfl := Option.some.inj h
            exact (Nat.div_mul_cancel (Nat.dvd_of_mod_eq_zero hdvd)).symm
          · cases h
        · rintro rfl
          rw [if_pos (Nat.mul_mod_left _ _), Nat.mul_div_cancel _ hpower]

end Decimal.Binary

namespace Json.Number

/-- The number as a rational number, if it is finite. -/
def toRat? : Number → Option ℚ
  | .whole n => some n
  | .real x => (Decimal.Binary.ofFloat x).toRat?

/-- The natural number that a number equals is the one that it stands for. -/
theorem nat?_eq_some_iff {n : Number} {k : Nat} : n.nat? = some k ↔ n.toRat? = some (k : ℚ) := by
  cases n with
  | whole n =>
    have hcast : (n : ℚ) = k ↔ n = k := by exact_mod_cast Iff.rfl
    rw [nat?, toRat?, Option.some.injEq, hcast]
    split
    · rw [Option.some.injEq]
      omega
    · simp only [reduceCtorEq, false_iff]
      omega
  | real x => exact Decimal.Binary.nat?_eq_some_iff

/-- An integer that fits into 64 bits is the natural number that it equals. -/
theorem nat?_eq_of_uint64? {n : Number} {w : UInt64} (h : n.uint64? = some w) :
    n.nat? = some w.toNat := by
  cases n with
  | real x => cases h
  | whole n =>
    rw [uint64?] at h
    split at h
    · next hsign => rw [nat?, if_pos hsign, Decimal.bounded?_eq_some_iff.1 h]
    · cases h

end Json.Number

end PageLayout
