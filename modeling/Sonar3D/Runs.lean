/-
Runs of a deterministic step function.

A node that reads an input per step is `step : σ → ι → σ`, a run is the left
fold of it over the inputs, and the state before the `n`-th step is the fold
over the first `n` of them. That last reading, `stateAt`, is what a property
of the form "whenever the code reaches line L" quantifies over, so the
lemmas here are about it: how it moves by one step, when it stays put, and
the invariant rule.
-/
import Mathlib.Data.List.Basic
import Mathlib.Data.Nat.Init

set_option autoImplicit false

namespace Sonar3D.Runs

variable {σ ι : Type*}

/-- The state in which the `n`-th step of the run of `step` from `s` over `is`
starts; the final state once the inputs are used up. -/
def stateAt (step : σ → ι → σ) (s : σ) (is : List ι) (n : ℕ) : σ :=
  (is.take n).foldl step s

@[simp] theorem stateAt_zero (step : σ → ι → σ) (s : σ) (is : List ι) :
    stateAt step s is 0 = s := by
  simp [stateAt]

theorem stateAt_succ (step : σ → ι → σ) (s : σ) (is : List ι) (n : ℕ) (h : n < is.length) :
    stateAt step s is (n + 1) = step (stateAt step s is n) is[n] := by
  rw [stateAt, List.take_succ_eq_append_getElem h, List.foldl_append]
  rfl

/-- Past its inputs a run stands still, in the state the whole fold ends in. -/
theorem stateAt_of_length_le (step : σ → ι → σ) (s : σ) (is : List ι) (n : ℕ)
    (h : is.length ≤ n) : stateAt step s is n = is.foldl step s := by
  rw [stateAt, List.take_of_length_le h]

/-- The invariant rule between two moments of a run: a predicate that holds at
`m` and that every step before `n` preserves holds at `n`. -/
theorem stateAt_invariant (step : σ → ι → σ) (s : σ) (is : List ι) (I : σ → Prop) (m n : ℕ)
    (hmn : m ≤ n) (hstart : I (stateAt step s is m))
    (hstep : ∀ k, m ≤ k → k < n → ∀ hk : k < is.length,
      I (stateAt step s is k) → I (step (stateAt step s is k) is[k])) :
    I (stateAt step s is n) := by
  induction n, hmn using Nat.le_induction with
  | base => exact hstart
  | succ n hmn ih =>
      have ihn : I (stateAt step s is n) :=
        ih (fun k hmk hkn hk => hstep k hmk (by omega) hk)
      by_cases hn : n < is.length
      · -- a step is taken
        rw [stateAt_succ step s is n hn]
        exact hstep n hmn (by omega) hn ihn
      · -- the inputs are used up, and the run stands still
        rw [stateAt_of_length_le step s is (n + 1) (by omega)]
        rwa [stateAt_of_length_le step s is n (by omega)] at ihn

/-- The invariant rule for a whole run. -/
theorem foldl_invariant (step : σ → ι → σ) (I : σ → Prop)
    (hstep : ∀ s i, I s → I (step s i)) (s : σ) (hstart : I s) (is : List ι) :
    I (is.foldl step s) := by
  induction is generalizing s with
  | nil => exact hstart
  | cons i is ih => exact ih (step s i) (hstep s i hstart)

end Sonar3D.Runs
