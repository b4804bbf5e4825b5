import Mathlib.Data.List.Basic

/-!
# Texts with their characters replaced

When every character of a text is replaced by some characters, the text is left as it is just if
each character is replaced by itself.

- `flatMap_eq_self_iff`: the texts that a replacement leaves as they are.
- `append_flatMap_eq_cons_iff`: the same where the first character is replaced in its own way.
-/

namespace PageLayout.Text

variable {f : Char → List Char}

/-- A text is left as it is if each of its characters is. -/
theorem flatMap_eq_self {cs : List Char} (h : ∀ c ∈ cs, f c = [c]) : cs.flatMap f = cs := by
  induction cs with
  | nil => rfl
  | cons c cs ih =>
    obtain ⟨hc, hcs⟩ := List.forall_mem_cons.1 h
    rw [List.flatMap_cons, hc, ih hcs]
    rfl

/-- A text in which every character is replaced by something does not become shorter. -/
theorem length_le_length_flatMap (hf : ∀ c, f c ≠ []) (cs : List Char) :
    cs.length ≤ (cs.flatMap f).length := by
  induction cs with
  | nil => exact Nat.zero_le _
  | cons c cs ih =>
    have hc : 0 < (f c).length := List.length_pos_iff.2 (hf c)
    rw [List.flatMap_cons, List.length_append, List.length_cons]
    omega

/-- What is written for a text is the text itself only if what is written for its first character
and for the others is. -/
theorem append_flatMap_eq_cons_iff (hf : ∀ c, f c ≠ []) {ds cs : List Char} {c : Char}
    (hds : ds ≠ []) :
    ds ++ cs.flatMap f = c :: cs ↔ ds = [c] ∧ cs.flatMap f = cs := by
  constructor
  · intro h
    obtain ⟨d, ds, rfl⟩ := List.exists_cons_of_ne_nil hds
    rw [List.cons_append] at h
    obtain ⟨rfl, hrest⟩ := List.cons.inj h
    -- The other characters leave no room for a second one in place of the first.
    have hlength : (ds ++ cs.flatMap f).length = cs.length := congrArg List.length hrest
    have hle := length_le_length_flatMap hf cs
    rw [List.length_append] at hlength
    obtain rfl : ds = [] := List.length_eq_zero_iff.1 (by omega)
    exact ⟨rfl, hrest⟩
  · rintro ⟨rfl, hcs⟩
    rw [hcs]
    rfl

/-- A replacement of single characters leaves a text as it is just if it does so with each of its
characters. -/
theorem flatMap_eq_self_iff (hf : ∀ c, f c ≠ []) {cs : List Char} :
    cs.flatMap f = cs ↔ ∀ c ∈ cs, f c = [c] := by
  induction cs with
  | nil => simp
  | cons c cs ih =>
    rw [List.flatMap_cons, append_flatMap_eq_cons_iff hf (hf c), ih, List.forall_mem_cons]

end PageLayout.Text
