/-
The matrix of `system3D` against the matrix of `img3D`.

Both callbacks write a rotation about Z, `img3D` of the position in radians and
`system3D` of the same position in degrees: its `cos` and `sin` are given the local
that was made for the log line above. Two rotations are the same matrix exactly if
their angles differ by whole turns, so the nodes agree on a grid of positions, a
good tenth of a radian apart, and nowhere else.
-/
import Sonar3D.System3D
import Mathlib.Analysis.Real.Pi.Irrational
import Mathlib.Analysis.SpecialFunctions.Trigonometric.Angle

set_option autoImplicit false

namespace Sonar3D.System3D

/-! ## Two rotations -/

theorem rotationMatrix_eq_iff (a b : ℝ) :
    rotationMatrix a = rotationMatrix b ↔ ∃ k : ℤ, a - b = 2 * Real.pi * k := by
  constructor
  · intro h
    have hcos : Real.cos a = Real.cos b := by
      have hentry : rotationMatrix a 0 0 = rotationMatrix b 0 0 := by rw [h]
      simpa [rotationMatrix] using hentry
    have hsin : Real.sin a = Real.sin b := by
      have hentry : rotationMatrix a 1 0 = rotationMatrix b 1 0 := by rw [h]
      simpa [rotationMatrix] using hentry
    exact Real.Angle.angle_eq_iff_two_pi_dvd_sub.mp (Real.Angle.cos_sin_inj hcos hsin)
  · rintro ⟨k, hk⟩
    have hangle : a = b + k * (2 * Real.pi) := by linarith
    unfold rotationMatrix
    rw [hangle, Real.cos_add_int_mul_two_pi, Real.sin_add_int_mul_two_pi]

/-! ## The two nodes -/

/-- After one report both nodes hold the same matrix, and output the same cloud
for the same sonar cloud, whatever their globals were. -/
structure NodesAgree (msg : JointState ℝ) : Prop where
  matrix_eq : ∀ (s : State) (t : Img3D.State),
    (servoCallback s msg).transformationMatrix
      = (Img3D.servoCallback t msg).transformationMatrix
  receive_eq : ∀ (s : State) (t : Img3D.State), s.cloud_sonar = t.cloud_points →
    receive (servoCallback s msg) = Img3D.receive (Img3D.servoCallback t msg)

/-- The positions at which degrees and radians are the same angle. -/
noncomputable def commonPosition (k : ℤ) : ℝ := (2 * k : ℤ) * Real.pi / ((180 : ℤ) / pi - 1)

theorem degrees_sub_eq_iff (p : ℝ) (k : ℤ) :
    p * ((180 : ℤ) / pi) - p = 2 * Real.pi * k ↔ p = commonPosition k := by
  have hscale : ((180 : ℤ) : ℝ) / pi - 1 ≠ 0 := by
    unfold pi
    norm_num
  unfold commonPosition
  rw [eq_div_iff hscale, Int.cast_mul]
  push_cast
  constructor
  · intro h
    linarith
  · intro h
    linarith

theorem servoCallback_matrix_eq_iff (s : State) (t : Img3D.State) (msg : JointState ℝ) :
    (servoCallback s msg).transformationMatrix
        = (Img3D.servoCallback t msg).transformationMatrix
      ↔ ∃ k, msg.current_pos = commonPosition k := by
  show rotationMatrix (msg.current_pos * ((180 : ℤ) / pi)) = rotationMatrix msg.current_pos ↔ _
  rw [rotationMatrix_eq_iff]
  exact exists_congr (degrees_sub_eq_iff msg.current_pos)

/-- The nodes agree on a report if and only if its position is an integer multiple
of `2π / (180/pi - 1)`. -/
theorem nodesAgree_iff (msg : JointState ℝ) :
    NodesAgree msg ↔ ∃ k, msg.current_pos = commonPosition k := by
  constructor
  · intro h
    rw [← servoCallback_matrix_eq_iff State.initial Img3D.State.initial]
    exact h.matrix_eq _ _
  · intro h
    have hmatrix := fun s t => (servoCallback_matrix_eq_iff s t msg).mpr h
    refine ⟨hmatrix, ?_⟩
    intro s t hcloud
    -- the reports leave the clouds alone
    show transformPointCloud s.cloud_sonar (servoCallback s msg).transformationMatrix
      = transformPointCloud t.cloud_points (Img3D.servoCallback t msg).transformationMatrix
    rw [hmatrix s t, hcloud]

/-- No position that is a rational number, other than zero, is a common one. -/
theorem ratCast_ne_commonPosition (q : ℚ) (hq : q ≠ 0) (k : ℤ) : (q : ℝ) ≠ commonPosition k := by
  intro h
  rw [← degrees_sub_eq_iff] at h
  by_cases hk : k = 0
  · subst hk
    have hzero : (q : ℝ) * (180 / pi - 1) = 0 := by
      push_cast at h
      linarith
    unfold pi at hzero
    norm_num at hzero
    exact hq hzero
  · -- `π` would be rational
    apply irrational_pi.intCast_mul (mul_ne_zero two_ne_zero hk)
    refine ⟨q * (180 / 3.14159265) - q, ?_⟩
    unfold pi at h
    push_cast at h ⊢
    linarith

/-- At a position of one radian they do not agree. -/
theorem nodesAgree_fails : ¬ ∀ msg, NodesAgree msg := by
  intro h
  have hmatrix := (h ⟨1, 0, 0, false⟩).matrix_eq State.initial Img3D.State.initial
  obtain ⟨k, hk⟩ := (servoCallback_matrix_eq_iff _ _ _).mp hmatrix
  exact ratCast_ne_commonPosition 1 one_ne_zero k (by rw [← hk, Rat.cast_one])

end Sonar3D.System3D
