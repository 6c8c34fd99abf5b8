/-
Letting no more through than one in a period.

A limiter keeps the time at which it last let something through. An item whose
time is less than `period` after that is dropped; any other is let through, and
the limiter takes its time. Programs look at the clock twice, once to decide and
once to record, so an item has two times, `asked` and `stamp`.

Two laws: what is let through is spaced by the period, and nothing that is so
spaced is longer. A limiter that lets the first one through that it may is the
best there is.
-/
import Mathlib.Algebra.Order.Monoid.Unbundled.Basic
import Mathlib.Data.List.Chain

set_option autoImplicit false

namespace Sonar3D.RateLimit

variable {α τ : Type*} [Add τ] [LinearOrder τ]

/-- What is let through, the last one before having been at `last`. -/
def accepted (asked stamp : α → τ) (period : τ) : τ → List α → List α
  | _, [] => []
  | last, x :: xs =>
      if last + period > asked x then accepted asked stamp period last xs
      else x :: accepted asked stamp period (stamp x) xs

/-- Every item is at least a period after the one before it, the first after `last`. -/
def Spaced (asked stamp : α → τ) (period : τ) : τ → List α → Prop
  | _, [] => True
  | last, x :: xs => last + period ≤ asked x ∧ Spaced asked stamp period (stamp x) xs

variable (asked stamp : α → τ) (period : τ)

theorem accepted_sublist (last : τ) (xs : List α) :
    (accepted asked stamp period last xs).Sublist xs := by
  induction xs generalizing last with
  | nil => exact List.Sublist.refl _
  | cons x xs ih =>
      rw [accepted]
      split
      · exact (ih last).cons x
      · exact (ih (stamp x)).cons_cons x

theorem accepted_spaced (last : τ) (xs : List α) :
    Spaced asked stamp period last (accepted asked stamp period last xs) := by
  induction xs generalizing last with
  | nil => trivial
  | cons x xs ih =>
      rw [accepted]
      split
      case isTrue => exact ih last
      case isFalse h => exact ⟨le_of_not_gt h, ih (stamp x)⟩

/-- A later start is no help: what is spaced after it is spaced after an earlier one. -/
theorem Spaced.of_le [AddRightMono τ] {last last' : τ} (h : last ≤ last') (xs : List α)
    (hspaced : Spaced asked stamp period last' xs) : Spaced asked stamp period last xs := by
  cases xs with
  | nil => trivial
  | cons x xs => exact ⟨(add_le_add_left h period).trans hspaced.1, hspaced.2⟩

/-- No selection with the same spacing is longer, if the clock does not go back. By
induction on the items: where the limiter lets one through, what another selection
takes in its place is no earlier. -/
theorem length_le_accepted [AddRightMono τ] (last : τ) (xs ys : List α)
    (hclock : xs.Pairwise (fun x x' => stamp x ≤ stamp x')) (hsub : ys.Sublist xs)
    (hspaced : Spaced asked stamp period last ys) :
    ys.length ≤ (accepted asked stamp period last xs).length := by
  induction xs generalizing last ys with
  | nil =>
      rw [List.sublist_nil.mp hsub]
      exact Nat.le_refl _
  | cons x xs ih =>
      obtain ⟨hlater, hclock⟩ := List.pairwise_cons.mp hclock
      rw [accepted]
      split
      case isTrue hdrop =>
        -- the other selection may not take `x` either
        cases hsub with
        | cons _ hsub => exact ih last ys hclock hsub hspaced
        | cons_cons _ _ => exact absurd hdrop (not_lt.mpr hspaced.1)
      case isFalse =>
        rw [List.length_cons]
        cases hsub with
        | cons _ hsub =>
            cases ys with
            | nil => exact Nat.zero_le _
            | cons y ys =>
                have hy : y ∈ xs := hsub.subset List.mem_cons_self
                have hrest := hspaced.2.of_le asked stamp period (hlater y hy)
                have htail : ys.Sublist xs := (List.sublist_cons_self y ys).trans hsub
                exact Nat.succ_le_succ (ih (stamp x) ys hclock htail hrest)
        | cons_cons _ hsub => exact Nat.succ_le_succ (ih (stamp x) _ hclock hsub hspaced.2)

end Sonar3D.RateLimit
