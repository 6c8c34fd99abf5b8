/-
When a scan that `testfinal` ends has covered the turn.

Line 232 ends a scan when the angle reported last is past 358 degrees. That
angle is a global: the report behind it may be older than the scan, because
`g` dispatches nothing while the servo is sent home. A scan that is ended has
gone from the bow to the end exactly when a report at or below one degree was
handled since its `g`, and over a whole run that comes down to a condition on
what is dispatched, `BowSeenFirst`: after each `g` the bow is reported before
any spin leaves the last angle past 358.
-/
import Sonar3D.TestfinalCloud

set_option autoImplicit false

namespace Sonar3D.Testfinal

open Sonar3D.Hold Sonar3D.Runs

variable {α : Type*}

/-! ## The reports of a scan -/

def anglesBetween (spins : List (List (Callback α))) (m n : ℕ) : List ℚ :=
  ((spins.take n).drop m).flatten.filterMap Callback.angle?

/-- A report at or below one degree and, after it, one above 358. -/
def CoversTurn (angles : List ℚ) : Prop :=
  ∃ pre mid post a b, angles = pre ++ a :: (mid ++ b :: post) ∧ a ≤ 1 ∧ 358 < b

/-- The turn `m` is the one that last set `scan` to one before turn `n`. -/
def LastStart (s : State α) (spins : List (List (Callback α))) (m n : ℕ) : Prop :=
  m < n ∧ StartsScan (stateAt body s spins m)
    ∧ ∀ k, m < k → k < n → ¬ StartsScan (stateAt body s spins k)

/-- Line 232, in turn `n`, changes `scan` from one to zero. -/
def EndsScan (s : State α) (spins : List (List (Callback α))) (n : ℕ) : Prop :=
  (stateAt body s spins n).scan = 1 ∧ (stateAt body s spins n).ang_servo > 358

/-- Every scan that line 232 ends has covered the turn since its `g`. -/
def FinishedScansCover (s : State α) (spins : List (List (Callback α))) : Prop :=
  ∀ m n, n ≤ spins.length → LastStart s spins m n → EndsScan s spins n →
    CoversTurn (anglesBetween spins m n)

/-- After each `g`, as long as no report at or below one degree has been
dispatched since, every spin leaves the last angle -- that of a report before
`g` if there is none since -- at 358 or below. -/
def BowSeenFirst (s : State α) (spins : List (List (Callback α))) : Prop :=
  ∀ m n, m < n → n ≤ spins.length → StartsScan (stateAt body s spins m) →
    (∀ a ∈ anglesBetween spins m n, 1 < a) →
      held Callback.angle? s.ang_servo (spins.take n).flatten ≤ 358

/-! ## The angle the test reads -/

/-- The angle in turn `n` is the one dispatched last before it. -/
theorem stateAt_ang_servo (s : State α) (spins : List (List (Callback α))) (n : ℕ) :
    (stateAt body s spins n).ang_servo
      = held Callback.angle? s.ang_servo (spins.take n).flatten :=
  run_ang_servo s (spins.take n)

theorem take_split (spins : List (List (Callback α))) (m n : ℕ) (hmn : m ≤ n) :
    spins.take n = spins.take m ++ (spins.take n).drop m := by
  have h := List.take_append_drop m (spins.take n)
  rw [List.take_take, Nat.min_eq_left hmn] at h
  exact h.symm

/-- Once something has been reported since turn `m`, the angle in turn `n` is
the last of those reports. -/
theorem ang_servo_of_reported (s : State α) (spins : List (List (Callback α))) (m n : ℕ)
    (hmn : m ≤ n) (hne : anglesBetween spins m n ≠ []) :
    (stateAt body s spins n).ang_servo = (anglesBetween spins m n).getLast hne := by
  rw [stateAt_ang_servo, take_split spins m n hmn, List.flatten_append, held_append]
  exact held_eq_getLast _ _ _ hne

theorem anglesBetween_subset (spins : List (List (Callback α))) (m k n : ℕ) (hkn : k ≤ n) :
    ∀ a ∈ anglesBetween spins m k, a ∈ anglesBetween spins m n := by
  intro a ha
  have hpre : (spins.take k).drop m <+: (spins.take n).drop m :=
    (List.take_prefix_take_left hkn).drop m
  obtain ⟨rest, hrest⟩ := hpre
  unfold anglesBetween at ha ⊢
  rw [← hrest, List.flatten_append, List.filterMap_append]
  exact List.mem_append_left _ ha

/-- A list with an angle at the bow whose last angle is past the end covers the
turn. -/
theorem coversTurn_of_mem (angles : List ℚ) (a : ℚ) (ha : a ∈ angles) (hlow : a ≤ 1)
    (hne : angles ≠ []) (hlast : 358 < angles.getLast hne) : CoversTurn angles := by
  obtain ⟨pre, rest, hsplit⟩ := List.append_of_mem ha
  subst hsplit
  rcases List.eq_nil_or_concat rest with hnil | ⟨mid, b, hrest⟩
  · -- the bow cannot be the last report: 358 < a ≤ 1
    subst hnil
    rw [List.getLast_append_singleton] at hlast
    linarith
  · rw [List.concat_eq_append] at hrest
    subst hrest
    refine ⟨pre, mid, [], a, b, rfl, hlow, ?_⟩
    simpa using hlast

/-! ## Over a run -/

theorem scan_on_of_le (s : State α) (spins : List (List (Callback α))) (m n : ℕ) (hmn : m < n)
    (hn : n ≤ spins.length) (hstart : StartsScan (stateAt body s spins m))
    (hle : ∀ k, m < k → k < n → ¬ (stateAt body s spins k).ang_servo > 358) :
    (stateAt body s spins n).scan = 1 := by
  apply scan_stays_on s spins (m + 1) n hmn
  · rw [stateAt_succ body s spins m (by omega)]
    exact body_scan_start _ _ hstart
  · exact hle

/-- **A run's finished scans cover the turn exactly when after each `g` the bow
is seen first.** -/
theorem finishedScansCover_iff (c : Option Char) (stdin : List Char)
    (spins : List (List (Callback α))) :
    FinishedScansCover (State.initial c stdin) spins ↔ BowSeenFirst (State.initial c stdin) spins := by
  constructor
  · intro hcover m n hmn hn hstart hbow
    -- strong induction: the turns before `n` have left the angle at 358 or
    -- below, so the scan is still on when turn `n` tests it
    induction n using Nat.strong_induction_on with
    | _ n ih =>
        have hle : ∀ k, m < k → k < n →
            ¬ (stateAt body (State.initial c stdin) spins k).ang_servo > 358 := by
          intro k hmk hkn
          rw [stateAt_ang_servo, not_lt]
          exact ih k hkn hmk (by omega)
            (fun a ha => hbow a (anglesBetween_subset spins m k n (by omega) a ha))
        have hon : ∀ k, m < k → k ≤ n →
            (stateAt body (State.initial c stdin) spins k).scan = 1 :=
          fun k hmk hkn => scan_on_of_le _ spins m k hmk (by omega) hstart
            (fun j hmj hjk => hle j hmj (by omega))
        rw [← stateAt_ang_servo]
        by_contra hpast
        have hlast : LastStart (State.initial c stdin) spins m n :=
          ⟨hmn, hstart, fun k hmk hkn hk => hk.1 (hon k hmk (by omega))⟩
        obtain ⟨pre, mid, post, a, b, hangles, hlow, -⟩ :=
          hcover m n hn hlast ⟨hon n hmn (Nat.le_refl n), not_le.mp hpast⟩
        have ha : a ∈ anglesBetween spins m n := by
          rw [hangles]
          simp
        exact absurd hlow (not_le.mpr (hbow a ha))
  · -- the last angle is past 358, so the bow must have been seen, and the last
    -- report since `g` is the one past the end
    intro hbow m n hn hlast hend
    obtain ⟨hmn, hstart, -⟩ := hlast
    obtain ⟨-, hpast⟩ := hend
    by_cases hlow : ∃ a ∈ anglesBetween spins m n, a ≤ 1
    · obtain ⟨a, ha, hle⟩ := hlow
      have hne : anglesBetween spins m n ≠ [] := List.ne_nil_of_mem ha
      rw [ang_servo_of_reported _ spins m n (by omega) hne] at hpast
      exact coversTurn_of_mem _ a ha hle hne hpast
    · have hhigh : ∀ a ∈ anglesBetween spins m n, 1 < a := by
        intro a ha
        by_contra hle
        exact hlow ⟨a, ha, not_lt.mp hle⟩
      have hle := hbow m n hmn hn hstart hhigh
      rw [← stateAt_ang_servo] at hle
      exact absurd hpast (not_lt.mpr hle)

def twoScans : State ℕ := State.initial none ['g', '\n', 'g', '\n']

/-- The second `g` is served before the servo reports again. -/
def noReportSpins : List (List (Callback ℕ)) := [[reportAt 0], [reportAt 360], [], []]

/-- The second `g` finds the servo on its way back, six seconds not being enough
for the whole way, and the servo turns round there. -/
def slowReturnSpins : List (List (Callback ℕ)) :=
  [[reportAt 0], [reportAt 360], [], [reportAt 291], [reportAt 360]]

/-- The second scan ends in the turn after its `g`, on the angle that ended the
first one; or it ends having seen 291 degrees and more. Either way the bow was
not seen. -/
theorem secondScan_not_covered :
    (LastStart twoScans noReportSpins 3 4 ∧ EndsScan twoScans noReportSpins 4
        ∧ ¬ CoversTurn (anglesBetween noReportSpins 3 4))
      ∧ (LastStart twoScans slowReturnSpins 3 5 ∧ EndsScan twoScans slowReturnSpins 5
        ∧ ¬ CoversTurn (anglesBetween slowReturnSpins 3 5)) := by
  have hstart : StartsScan (stateAt body twoScans noReportSpins 3)
      ∧ StartsScan (stateAt body twoScans slowReturnSpins 3)
      ∧ ¬ StartsScan (stateAt body twoScans slowReturnSpins 4) := by
    decide +kernel
  have hend : EndsScan twoScans noReportSpins 4 ∧ EndsScan twoScans slowReturnSpins 5 := by
    unfold EndsScan
    decide +kernel
  obtain ⟨hstart₁, hstart₂, hnext⟩ := hstart
  refine ⟨⟨⟨by omega, hstart₁, fun k h3 h4 => by omega⟩, hend.1, ?_⟩,
    ⟨⟨by omega, hstart₂, ?_⟩, hend.2, ?_⟩⟩
  · rintro ⟨pre, mid, post, a, b, hangles, -⟩
    have hnil : anglesBetween noReportSpins 3 4 = [] := rfl
    rw [hnil] at hangles
    simp at hangles
  · intro k h3 h5
    obtain rfl : k = 4 := by omega
    exact hnext
  · rintro ⟨pre, mid, post, a, b, hangles, hlow, -⟩
    have hseen : ∀ a ∈ anglesBetween slowReturnSpins 3 5, 1 < a := by decide +kernel
    have ha : a ∈ anglesBetween slowReturnSpins 3 5 := by
      rw [hangles]
      simp
    exact absurd hlow (not_le.mpr (hseen a ha))

end Sonar3D.Testfinal
