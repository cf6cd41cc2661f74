import DraftPool.Text.Utf8
import Mathlib

/-
Texts compared byte by byte.
-/

namespace DraftPool.Text

theorem code_lt (c : Char) : c.toNat < 0x110000 := by
  have valid := c.valid
  simp only [UInt32.isValidChar, Nat.isValidChar] at valid
  change c.val.toNat < _
  omega

theorem utf8Bytes_ne_nil (c : Char) : utf8Bytes c ≠ [] := by
  unfold utf8Bytes
  dsimp only
  split_ifs <;> simp

/-- The bytes of two different characters, whatever follows them, order as the characters do. -/
theorem utf8Bytes_append_lt_iff {c d : Char} (apart : c ≠ d) (rest rest' : List Nat) :
    utf8Bytes c ++ rest < utf8Bytes d ++ rest' ↔ c < d := by
  have cBound := code_lt c
  have dBound := code_lt d
  have codes : c.toNat ≠ d.toNat := fun same => apart (Char.ext (UInt32.toNat_inj.1 same))
  rw [Char.lt_def, UInt32.lt_iff_toNat_lt]
  change _ ↔ c.toNat < d.toNat
  unfold utf8Bytes
  dsimp only
  -- one case for each pair of encoding lengths; the bytes differ before either encoding ends
  split_ifs <;>
    simp only [List.cons_append, List.nil_append, List.cons_lt_cons_iff] <;>
    omega

theorem append_lt_append_left_iff {pre rest rest' : List Nat} :
    pre ++ rest < pre ++ rest' ↔ rest < rest' := by
  induction pre with
  | nil => rfl
  | cons b pre inductionHypothesis =>
    simp only [List.cons_append, List.cons_lt_cons_iff, Nat.lt_irrefl, true_and, false_or]
    exact inductionHypothesis

/-- Encoding characters one after another keeps their order. -/
theorem flatMap_utf8Bytes_lt_iff (cs ds : List Char) :
    cs.flatMap utf8Bytes < ds.flatMap utf8Bytes ↔ cs < ds := by
  induction cs generalizing ds with
  | nil =>
    cases ds with
    | nil => simp
    | cons d ds =>
      obtain ⟨b, bytes, encoded⟩ := List.exists_cons_of_ne_nil (utf8Bytes_ne_nil d)
      simp [encoded]
  | cons c cs inductionHypothesis =>
    cases ds with
    | nil => simp
    | cons d ds =>
      rw [List.flatMap_cons, List.flatMap_cons, List.cons_lt_cons_iff]
      by_cases same : c = d
      · subst same
        rw [append_lt_append_left_iff, inductionHypothesis]
        simp
      · rw [utf8Bytes_append_lt_iff same]
        simp [same]

/-- Texts compare as their UTF-8 bytes do. -/
theorem lt_iff_utf8Encode_lt (a b : String) : a < b ↔ utf8Encode a < utf8Encode b := by
  rw [String.lt_iff, utf8Encode, utf8Encode, flatMap_utf8Bytes_lt_iff]

end DraftPool.Text
