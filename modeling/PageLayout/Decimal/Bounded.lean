/-!
# Natural numbers in 64 bits

A natural number that is too large for 64 bits is refused where a text or an integer is read. A
double is converted all the same, and becomes the greatest number of 64 bits.

- `bounded?_eq_some_iff` and `ofNatClamp_eq_iff`: where neither makes a difference.
-/

namespace PageLayout.Decimal

/-- A natural number in 64 bits, if it fits. -/
def bounded? (n : Nat) : Option UInt64 :=
  if h : n < UInt64.size then some (.ofNatLT n h) else none

theorem bounded?_eq_some_iff {n : Nat} {w : UInt64} : bounded? n = some w ↔ n = w.toNat := by
  rw [bounded?]
  split
  · rw [Option.some.injEq, ← UInt64.toNat_inj, UInt64.toNat_ofNatLT]
  · next hlarge =>
    have hw : w.toNat < UInt64.size := w.toNat_lt
    simp only [reduceCtorEq, false_iff]
    omega

/-- A natural number is cut off only if it becomes the greatest number of 64 bits. -/
theorem ofNatClamp_eq_iff {n : Nat} {w : UInt64} (hw : w.toNat < UInt64.size - 1) :
    UInt64.ofNatClamp n = w ↔ n = w.toNat := by
  rw [← UInt64.toNat_inj]
  rcases Nat.lt_or_ge n UInt64.size with hn | hn
  · rw [UInt64.toNat_ofNatClamp_of_lt hn]
  · rw [UInt64.toNat_ofNatClamp_of_le hn]
    omega

end PageLayout.Decimal
