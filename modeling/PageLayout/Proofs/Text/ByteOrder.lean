import Mathlib.Data.String.Basic

/-!
# The order of texts is that of their bytes

Texts are ordered character by character. Their bytes are in the same order: of two characters, the
greater one has the greater code, and codes of several bytes are told apart by the first byte in
which they differ, since the first byte of a code says how many there are.

- `encode_lt_of_lt`: the codes of two characters, whatever follows them.
- `bytes_lt_iff`: the bytes of two texts.
-/

namespace PageLayout.Text

/-- The bytes of a text. -/
def bytes (s : String) : List UInt8 :=
  s.toUTF8.data.toList

theorem bytes_eq_flatMap (s : String) : bytes s = s.toList.flatMap String.utf8EncodeChar := by
  rw [bytes, String.toUTF8_eq_toByteArray, ← String.utf8Encode_toList, List.utf8Encode,
    List.data_toByteArray]

/-! ## Codes -/

/-- Bytes are compared as the numbers that they stand for. -/
theorem cons_lt_cons_ofNat_iff {m n : Nat} (hm : m < 256) (hn : n < 256) {cs ds : List UInt8} :
    UInt8.ofNat m :: cs < UInt8.ofNat n :: ds ↔ m < n ∨ (m = n ∧ cs < ds) := by
  rw [List.cons_lt_cons_iff, UInt8.lt_iff_toNat_lt, ← UInt8.toNat_inj, UInt8.toNat_ofNat',
    UInt8.toNat_ofNat', Nat.mod_eq_of_lt hm, Nat.mod_eq_of_lt hn]

/-- A greater character has a greater code, and no code begins another one. -/
theorem encode_lt_of_lt {c d : Char} (h : c < d) (cs ds : List UInt8) :
    String.utf8EncodeChar c ++ cs < String.utf8EncodeChar d ++ ds := by
  have hval : c.val.toNat < d.val.toNat := h
  have hmax : d.val.toNat < 1114112 := by
    have := d.valid
    unfold UInt32.isValidChar Nat.isValidChar at this
    omega
  unfold String.utf8EncodeChar
  simp only
  generalize c.val.toNat = m at hval
  generalize d.val.toNat = n at hval hmax
  split_ifs
  all_goals simp (disch := omega) only [List.cons_append, List.nil_append, cons_lt_cons_ofNat_iff]
  -- Codes of different lengths differ in their first bytes already.
  all_goals try omega
  rcases Nat.lt_or_ge (m / 262144) (n / 262144) with hlead | hlead
  · left; omega
  · refine .inr ⟨by omega, ?_⟩
    rcases Nat.lt_or_ge (m / 4096) (n / 4096) with hnext | hnext
    · left; omega
    · refine .inr ⟨by omega, ?_⟩
      rcases Nat.lt_or_ge (m / 64) (n / 64) with hlast | hlast
      · left; omega
      · exact .inr ⟨by omega, .inl (by omega)⟩

/-! ## Texts -/

theorem flatMap_encode_lt_of_lt {cs ds : List Char} (h : cs < ds) :
    cs.flatMap String.utf8EncodeChar < ds.flatMap String.utf8EncodeChar := by
  induction h with
  | @nil d ds =>
    -- No code is empty.
    have hlength : 0 < (String.utf8EncodeChar d).length := by
      rw [String.length_utf8EncodeChar]
      exact d.utf8Size_pos
    obtain ⟨byte, bytes, hcode⟩ := List.exists_cons_of_length_pos hlength
    rw [List.flatMap_cons, hcode]
    exact List.Lex.nil
  | rel hcd => exact encode_lt_of_lt hcd _ _
  | cons _ ih => exact List.append_left_lt ih

/-- One text is before another one if and only if its bytes are. -/
theorem bytes_lt_iff {a b : String} : bytes a < bytes b ↔ a < b := by
  have hstrict : ∀ {a b : String}, a < b → bytes a < bytes b := by
    intro a b h
    rw [bytes_eq_flatMap, bytes_eq_flatMap]
    exact flatMap_encode_lt_of_lt (String.lt_iff_toList_lt.1 h)
  refine ⟨fun h => ?_, hstrict⟩
  rcases lt_trichotomy a b with hab | rfl | hba
  · exact hab
  · exact absurd h (List.lt_irrefl _)
  · exact absurd h (List.lt_asymm (hstrict hba))

end PageLayout.Text
