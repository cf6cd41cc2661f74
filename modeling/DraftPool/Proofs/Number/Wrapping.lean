import DraftPool.Number.Wrapping
import DraftPool.Text.Decimal
import Mathlib

/-
Sums in 64 bits against the true sums.
-/

namespace DraftPool

/-- A value wrapped into the 64-bit range is the value itself exactly when it fits. -/
theorem bmod_eq_self_iff {x : Int} :
    x.bmod 18446744073709551616 = x ↔ Text.int64Min ≤ x ∧ x ≤ Text.int64Max := by
  unfold Text.int64Min Text.int64Max
  constructor
  · intro wrapped
    have lower := Int.le_bmod (x := x) (m := 18446744073709551616) (by decide)
    have upper := Int.bmod_le (x := x) (m := 18446744073709551616) (by decide)
    rw [wrapped] at lower upper
    omega
  · rintro ⟨lower, upper⟩
    exact Int.bmod_eq_of_le (by omega) (by omega)

/-- Adding up left to right with wrap-around, from a start in range, gives the true sum
wrapped. -/
theorem foldl_addWrapping (values : List Int) {acc : Int}
    (inRange : acc.bmod 18446744073709551616 = acc) :
    values.foldl addWrapping acc = (acc + values.sum).bmod 18446744073709551616 := by
  induction values generalizing acc with
  | nil => simpa using inRange.symm
  | cons value rest inductionHypothesis =>
    -- the partial sum after one step is wrapped, so it is in range for the rest
    have stepInRange : (addWrapping acc value).bmod 18446744073709551616 = addWrapping acc value :=
      Int.bmod_bmod
    rw [List.foldl_cons, inductionHypothesis stepInRange, addWrapping, Int.bmod_add_bmod,
      List.sum_cons, Int.add_assoc]

/-- A sum in 64 bits is the true sum wrapped into the 64-bit range. -/
@[simp] theorem sumWrapping_eq_bmod (values : List Int) :
    sumWrapping values = values.sum.bmod 18446744073709551616 := by
  unfold sumWrapping
  rw [foldl_addWrapping _ Int.zero_bmod, Int.zero_add]

/-- A sum in 64 bits is the true sum exactly when the true sum fits. -/
theorem sumWrapping_eq_sum_iff (values : List Int) :
    sumWrapping values = values.sum ↔ Text.int64Min ≤ values.sum ∧ values.sum ≤ Text.int64Max := by
  rw [sumWrapping_eq_bmod]
  exact bmod_eq_self_iff

/-- A sum in 64 bits does not depend on the order of the values. -/
theorem sumWrapping_perm {values reordered : List Int} (perm : reordered.Perm values) :
    sumWrapping reordered = sumWrapping values := by
  rw [sumWrapping_eq_bmod, sumWrapping_eq_bmod, perm.sum_eq]

end DraftPool
