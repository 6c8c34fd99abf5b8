/-
When a scan of `system3D` ends.

The scan goes on while the reported position is not `6.283185307`, and so does the
taking of clouds. With the limits of `tilt.yaml` the servo reports multiples of
`2π/4096` from zero to `4095` of them, and the last of these is short of the goal
by more than a thousandth of a radian. It is where a servo sent to the goal comes
to rest, and no report ends the scan.
-/
import Sonar3D.System3D
import Mathlib.Analysis.Real.Pi.Bounds

set_option autoImplicit false

namespace Sonar3D.System3D

open Sonar3D.Hold

/-! ## The positions of the servo -/

/-- The steps of the encoder in a turn. -/
def encoderSteps : ℕ := 4096

/-- Step `k` of the encoder: `init: 0`, `min: 0`, `max: 4095`. -/
noncomputable def position (k : ℕ) : ℝ := (2 * k : ℕ) * Real.pi / encoderSteps

def Admissible (p : ℝ) : Prop := ∃ k ≤ 4095, p = position k

/-- Where a servo sent to the goal comes to rest: the admissible position closest
to it. -/
structure Reached (p : ℝ) : Prop where
  admissible : Admissible p
  closest : ∀ q, Admissible q → |p - goal| ≤ |q - goal|

theorem position_mono {k m : ℕ} (h : k ≤ m) : position k ≤ position m := by
  have hpi := Real.pi_pos
  unfold position
  gcongr

theorem position_last_lt : position 4095 < goal := by
  have hpi := Real.pi_lt_d4
  unfold position encoderSteps goal
  norm_num
  linarith

/-- Every position is short of the goal. -/
theorem Admissible.lt_goal {p : ℝ} (h : Admissible p) : p < goal := by
  obtain ⟨k, hk, rfl⟩ := h
  exact lt_of_le_of_lt (position_mono hk) position_last_lt

theorem reached_iff (p : ℝ) : Reached p ↔ p = position 4095 := by
  have hlast : Admissible (position 4095) := ⟨4095, Nat.le_refl _, rfl⟩
  -- below the goal, closer is larger
  have habs : ∀ q, Admissible q → |q - goal| = goal - q := by
    intro q hq
    rw [abs_sub_comm, abs_of_pos (sub_pos.mpr hq.lt_goal)]
  constructor
  · intro h
    have hclosest := h.closest _ hlast
    rw [habs p h.admissible, habs _ hlast] at hclosest
    obtain ⟨k, hk, rfl⟩ := h.admissible
    exact le_antisymm (position_mono hk) (by linarith)
  · rintro rfl
    refine ⟨hlast, ?_⟩
    intro q hq
    rw [habs _ hlast, habs q hq]
    obtain ⟨k, hk, rfl⟩ := hq
    have hle := position_mono hk
    linarith

/-! ## The end of a scan -/

/-- The scan has ended: the loop is left, and the clouds that still arrive are not
taken. -/
structure ScanEnds (s : State) : Prop where
  leaves : ¬ Scanning s
  frozen : ∀ clouds : List PointCloud, (clouds.foldl sonarCallback s).cloud_sonar = s.cloud_sonar

/-- After a report the position is the one reported last. -/
theorem spinOnce_of_lastPosition (s : State) (cbs : List Callback) (p : ℝ)
    (hlast : Img3D.lastPosition cbs = some p) :
    (spinOnce s cbs).msg_servo.current_pos = p := by
  have hpos := spinOnce_current_pos s cbs
  rcases held_eq_or_exists Img3D.Callback.position? none cbs with hnone | ⟨cb, hcb, hwrite⟩
  · rw [Img3D.lastPosition, held_of_none _ _ _ hnone] at hlast
    cases hlast
  · -- something is written, so the initial value does not matter
    have hne : cbs.filterMap Img3D.Callback.position? ≠ [] :=
      List.ne_nil_of_mem (List.mem_filterMap.mpr ⟨cb, hcb, hwrite⟩)
    rw [Img3D.lastPosition, held_eq_getLast _ _ _ hne] at hlast
    rw [held_eq_getLast _ _ _ hne, hlast] at hpos
    exact Option.some.inj hpos

theorem scanning_of_reached (s : State) (cbs : List Callback) (p : ℝ)
    (hlast : Img3D.lastPosition cbs = some p) (hreached : Reached p) :
    Scanning (spinOnce s cbs) := by
  unfold Scanning
  rw [spinOnce_of_lastPosition s cbs p hlast]
  exact hreached.admissible.lt_goal.ne

theorem sonarCallback_of_scanning (s : State) (h : Scanning s) (msg : PointCloud) :
    (sonarCallback s msg).cloud_sonar = msg := by
  unfold sonarCallback
  rw [if_pos h]

/-- The scan does not end: whatever was dispatched, if the position reported last
is the one the servo reaches for the goal, the loop goes on and every cloud that
arrives is taken. -/
theorem scan_never_ends (s : State) (cbs : List Callback) (p : ℝ)
    (hlast : Img3D.lastPosition cbs = some p) (hreached : Reached p) :
    ¬ ScanEnds (spinOnce s cbs)
      ∧ Scanning (spinOnce s cbs)
      ∧ ∀ msg, (sonarCallback (spinOnce s cbs) msg).cloud_sonar = msg := by
  have hscanning := scanning_of_reached s cbs p hlast hreached
  refine ⟨?_, hscanning, sonarCallback_of_scanning _ hscanning⟩
  intro h
  exact h.leaves hscanning

/-- The report of the last position. -/
noncomputable def atRest : List Callback := [.servo ⟨position 4095, goal, 0, false⟩]

theorem scan_never_ends_atRest :
    Img3D.lastPosition atRest = some (position 4095) ∧ Reached (position 4095)
      ∧ ¬ ScanEnds (spinOnce State.initial atRest) :=
  have hreached : Reached (position 4095) := (reached_iff _).mpr rfl
  ⟨rfl, hreached, (scan_never_ends State.initial atRest _ rfl hreached).1⟩

theorem scanEnds_fails :
    ¬ ∀ s cbs p, Img3D.lastPosition cbs = some p → Reached p → ScanEnds (spinOnce s cbs) := by
  intro h
  have hreached : Reached (position 4095) := (reached_iff _).mpr rfl
  exact (h State.initial atRest _ rfl hreached).leaves
    (scanning_of_reached State.initial atRest _ rfl hreached)

end Sonar3D.System3D
