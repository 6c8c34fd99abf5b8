/-
The mean of the last few samples.

A buffer takes one sample after another and drops the oldest when it has too many. What
it holds in the end are the last samples of all, as `List.rtake` has them; and their
mean, rounded down, lies between any two bounds of theirs.
-/
import Mathlib.Algebra.Order.BigOperators.Group.List
import Mathlib.Data.Int.Order.Lemmas
import Mathlib.Data.List.DropRight

set_option autoImplicit false

namespace Sonar3D.SlidingMean

variable {α : Type*}

/-- One more sample, and no more than `cap` of them. -/
def slide (cap : ℕ) (buffer : List α) (x : α) : List α :=
  if (buffer ++ [x]).length > cap then (buffer ++ [x]).drop ((buffer ++ [x]).length - cap)
  else buffer ++ [x]

theorem slide_eq_rtake (cap : ℕ) (buffer : List α) (x : α) :
    slide cap buffer x = (buffer ++ [x]).rtake cap := by
  unfold slide List.rtake
  split
  case isTrue => rfl
  case isFalse hfits => rw [Nat.sub_eq_zero_of_le (not_lt.mp hfits), List.drop_zero]

theorem rtake_append_singleton (cap : ℕ) (l : List α) (x : α) :
    (l.rtake cap ++ [x]).rtake cap = (l ++ [x]).rtake cap := by
  unfold List.rtake
  rw [List.length_append, List.length_drop, List.length_append, List.length_singleton]
  by_cases hfits : l.length ≤ cap
  · rw [Nat.sub_eq_zero_of_le hfits, List.drop_zero, Nat.sub_zero]
  · -- the samples dropped before and now are one more than those dropped before
    have hdropped : l.length - cap ≤ l.length := Nat.sub_le _ _
    rw [← List.drop_append_of_le_length hdropped, List.drop_drop]
    congr 1
    omega

/-- A buffer that holds the last samples of all still does after one more. -/
theorem slide_rtake (cap : ℕ) (l : List α) (x : α) :
    slide cap (l.rtake cap) x = (l ++ [x]).rtake cap := by
  rw [slide_eq_rtake, rtake_append_singleton]

/-- The mean, rounded down. -/
def mean (l : List ℤ) : ℤ := l.sum / l.length

/-- It is as big as the least of them at least, and as the greatest at most. -/
theorem mean_mem (l : List ℤ) (hne : l ≠ []) (low high : ℤ) (h : ∀ x ∈ l, low ≤ x ∧ x ≤ high) :
    low ≤ mean l ∧ mean l ≤ high := by
  have hpos : (0 : ℤ) < l.length := by exact_mod_cast List.length_pos_iff.mpr hne
  have hlow := List.card_nsmul_le_sum l low (fun x hx => (h x hx).1)
  have hhigh := List.sum_le_card_nsmul l high (fun x hx => (h x hx).2)
  rw [nsmul_eq_mul] at hlow hhigh
  unfold mean
  constructor
  · rw [Int.le_ediv_iff_mul_le hpos, mul_comm]
    exact_mod_cast hlow
  · have hle : l.sum / (l.length : ℤ) ≤ (l.length : ℤ) * high / l.length :=
      Int.ediv_le_ediv hpos (by exact_mod_cast hhigh)
    rwa [Int.mul_ediv_cancel_left _ hpos.ne'] at hle

end Sonar3D.SlidingMean
