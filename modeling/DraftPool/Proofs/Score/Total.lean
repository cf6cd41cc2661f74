import DraftPool.Score.Total
import DraftPool.Proofs.Number.Wrapping
import Mathlib

/-
A friend's total by the top-two rule. The main statement is `friendTotal_follows_topTwo`.
-/

namespace DraftPool

/-- `first` and `second` are the two largest scores, counted with multiplicity. -/
def TopTwo (scores : List Int) (first second : Int) : Prop :=
  ∃ rest, scores.Perm (first :: second :: rest) ∧ second ≤ first ∧ ∀ x ∈ rest, x ≤ second

namespace TopTwo

theorem perm {scores reordered : List Int} {first second : Int} (top : TopTwo scores first second)
    (perm : reordered.Perm scores) : TopTwo reordered first second := by
  obtain ⟨rest, split, ordered, below⟩ := top
  exact ⟨rest, perm.trans split, ordered, below⟩

/-- Of two lists that are permutations of each other, each with a head that no later item
exceeds, the heads are equal. -/
theorem head_eq_of_perm {a b : Int} {l m : List Int} (perm : (a :: l).Perm (b :: m))
    (aBound : ∀ x ∈ l, x ≤ a) (bBound : ∀ x ∈ m, x ≤ b) : a = b := by
  have bListed : b ∈ a :: l := perm.mem_iff.2 List.mem_cons_self
  have aListed : a ∈ b :: m := perm.mem_iff.1 List.mem_cons_self
  have bLe : b ≤ a := by
    rcases List.mem_cons.1 bListed with same | later
    · exact Int.le_of_eq same
    · exact aBound b later
  have aLe : a ≤ b := by
    rcases List.mem_cons.1 aListed with same | later
    · exact Int.le_of_eq same
    · exact bBound a later
  omega

/-- The two largest scores are determined by the scores. -/
theorem unique {scores : List Int} {first second first' second' : Int}
    (top : TopTwo scores first second) (top' : TopTwo scores first' second') :
    first = first' ∧ second = second' := by
  obtain ⟨rest, split, ordered, below⟩ := top
  obtain ⟨rest', split', ordered', below'⟩ := top'
  have perm := split.symm.trans split'
  -- the largest score comes first in both splits
  have firstBound {a b : Int} {r : List Int} (le : b ≤ a) (bound : ∀ x ∈ r, x ≤ b) :
      ∀ x ∈ b :: r, x ≤ a := by
    intro x member
    rcases List.mem_cons.1 member with rfl | later
    · exact le
    · exact Int.le_trans (bound x later) le
  have sameFirst := head_eq_of_perm perm (firstBound ordered below) (firstBound ordered' below')
  subst sameFirst
  exact ⟨rfl, head_eq_of_perm perm.cons_inv below below'⟩

end TopTwo

/-- The scores sorted from the highest down, as the total takes them. -/
theorem pairwise_descending (scores : List Int) :
    (scores.mergeSort fun a b => decide (b ≤ a)).Pairwise fun a b => b ≤ a := by
  have sorted := @List.pairwise_mergeSort Int (fun a b => decide (b ≤ a))
    (fun a b c ab bc => by simp only [decide_eq_true_eq] at ab bc ⊢; omega)
    (fun a b => by simp only [Bool.or_eq_true, decide_eq_true_eq]; omega) scores
  exact sorted.imp of_decide_eq_true

/-- With more than two scores, the top-two total is the sum of the first two scores sorted from
the highest down, and those are the two largest. -/
theorem exists_topTwo_friendTotal {scores : List Int} (long : 2 < scores.length) :
    ∃ first second, TopTwo scores first second ∧
      friendTotal scores true = (first + second).bmod 18446744073709551616 := by
  have perm := List.mergeSort_perm scores fun a b => decide (b ≤ a)
  have descending := pairwise_descending scores
  unfold friendTotal
  rw [if_pos (by simpa using long)]
  -- the sorted list has as many scores as the given one, so at least two
  match sorted : scores.mergeSort fun a b => decide (b ≤ a), perm.length_eq with
  | first :: second :: rest, _ =>
    rw [sorted] at perm descending
    have ordered : second ≤ first := List.rel_of_pairwise_cons descending List.mem_cons_self
    have below : ∀ x ∈ rest, x ≤ second := fun _ member =>
      List.rel_of_pairwise_cons descending.of_cons member
    refine ⟨first, second, ⟨rest, perm.symm, ordered, below⟩, ?_⟩
    simp
  | [], sameLength | [_], sameLength => simp at sameLength; omega

/-- With more than two scores, the top-two total is the sum of the two largest in 64 bits. -/
theorem friendTotal_eq_of_topTwo {scores : List Int} (long : 2 < scores.length)
    {first second : Int} (top : TopTwo scores first second) :
    friendTotal scores true = (first + second).bmod 18446744073709551616 := by
  obtain ⟨a, b, sortedTop, total⟩ := exists_topTwo_friendTotal long
  obtain ⟨rfl, rfl⟩ := sortedTop.unique top
  exact total

/-- Without the top-two rule, or with at most two scores, the total sums every score in 64
bits. -/
theorem friendTotal_eq_sumWrapping {scores : List Int} {topTwoOnly : Bool}
    (summed : ¬ (topTwoOnly = true ∧ 2 < scores.length)) :
    friendTotal scores topTwoOnly = sumWrapping scores := by
  unfold friendTotal
  rw [if_neg (by simpa using summed)]

/-- The total does not depend on the order of the scores. -/
theorem friendTotal_perm {scores reordered : List Int} (perm : reordered.Perm scores)
    (topTwoOnly : Bool) : friendTotal reordered topTwoOnly = friendTotal scores topTwoOnly := by
  have sameLength := perm.length_eq
  by_cases topTwo : topTwoOnly = true ∧ 2 < scores.length
  · obtain ⟨onlyTop, long⟩ := topTwo
    subst onlyTop
    obtain ⟨first, second, top, total⟩ := exists_topTwo_friendTotal long
    rw [total, friendTotal_eq_of_topTwo (by omega) (top.perm perm)]
  · rw [friendTotal_eq_sumWrapping topTwo, friendTotal_eq_sumWrapping (by rwa [sameLength]),
      sumWrapping_perm perm]

/-- A friend's total follows the top-two rule, summed in 64 bits. -/
theorem friendTotal_follows_topTwo (scores : List Int) (topTwoOnly : Bool) :
    (topTwoOnly = true ∧ 2 < scores.length →
      (∃ first second, TopTwo scores first second) ∧
        ∀ first second, TopTwo scores first second →
          friendTotal scores topTwoOnly = (first + second).bmod 18446744073709551616 ∧
          (Text.int64Min ≤ first + second ∧ first + second ≤ Text.int64Max →
            friendTotal scores topTwoOnly = first + second)) ∧
    (¬ (topTwoOnly = true ∧ 2 < scores.length) →
      friendTotal scores topTwoOnly = scores.sum.bmod 18446744073709551616 ∧
      ((∀ n, Text.int64Min ≤ (scores.take n).sum ∧ (scores.take n).sum ≤ Text.int64Max) →
        friendTotal scores topTwoOnly = scores.sum)) ∧
    ∀ reordered : List Int, reordered.Perm scores →
      friendTotal reordered topTwoOnly = friendTotal scores topTwoOnly := by
  refine ⟨fun ⟨onlyTop, long⟩ => ?_, fun summed => ?_, fun _ perm => friendTotal_perm perm _⟩
  · subst onlyTop
    obtain ⟨first, second, top, _⟩ := exists_topTwo_friendTotal long
    refine ⟨⟨first, second, top⟩, fun _ _ top' => ?_⟩
    rw [friendTotal_eq_of_topTwo long top']
    exact ⟨rfl, bmod_eq_self_iff.2⟩
  · rw [friendTotal_eq_sumWrapping summed, sumWrapping_eq_bmod]
    -- the last prefix is the whole list
    refine ⟨rfl, fun prefixes => bmod_eq_self_iff.2 ?_⟩
    simpa using prefixes scores.length

example : friendTotal [-2, 7, 7] true = 14 :=
  @friendTotal_eq_of_topTwo [-2, 7, 7] (by decide) 7 7 ⟨[-2], by decide, by decide, by decide⟩

end DraftPool
