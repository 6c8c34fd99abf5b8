/-
The data the nodes exchange, and the one geometric operation they apply.

`pcl::PointXYZ`, `dynamixel_msgs::JointState` and `Eigen::Matrix4f` as the
nodes use them, with coordinates read as real numbers (no rounding) and the
trigonometric functions as the real ones. `pcl::transformPointCloud` is the
affine map of the upper three rows of the matrix, point by point; the
conversions between PCL and ROS clouds are exact and therefore invisible here.

`rotationMatrix` is the matrix both rotation nodes write with Eigen's comma
initialiser. What the rest of the development needs of it is
`transformPoint_rotationMatrix`: on a point it is the planar rotation of
`(x, y)` and the identity on `z`.
-/
import Sonar3D.PlanarRotation
import Mathlib.Analysis.SpecialFunctions.Trigonometric.Basic
import Mathlib.LinearAlgebra.Matrix.Notation

set_option autoImplicit false

namespace Sonar3D

open Sonar3D.PlanarRotation

/-! ## Messages -/

/-- `dynamixel_msgs::JointState`, the fields the callbacks copy. The number
type is a parameter: the nodes that take a cosine of the position read it as a
real, the one that only compares angles as an exact rational. -/
structure JointState (K : Type*) where
  current_pos : K
  goal_pos : K
  velocity : K
  is_moving : Bool
deriving DecidableEq

/-- `pcl::PointXYZ`. -/
@[ext] structure PointXYZ where
  x : ℝ
  y : ℝ
  z : ℝ

def PointXYZ.origin : PointXYZ := ⟨0, 0, 0⟩

/-- `pcl::PointCloud<pcl::PointXYZ>`: its points, in order. -/
abbrev PointCloud := List PointXYZ

/-! ## Transforming a cloud -/

/-- `Eigen::Matrix4f`. -/
abbrev Matrix4f := Matrix (Fin 4) (Fin 4) ℝ

def transformPoint (m : Matrix4f) (p : PointXYZ) : PointXYZ where
  -- the upper three rows of `m`, as an affine map
  x := m 0 0 * p.x + m 0 1 * p.y + m 0 2 * p.z + m 0 3
  y := m 1 0 * p.x + m 1 1 * p.y + m 1 2 * p.z + m 1 3
  z := m 2 0 * p.x + m 2 1 * p.y + m 2 2 * p.z + m 2 3

/-- `pcl::transformPointCloud`. -/
def transformPointCloud (cloud : PointCloud) (m : Matrix4f) : PointCloud :=
  cloud.map (transformPoint m)

def distSq (p q : PointXYZ) : ℝ :=
  (p.x - q.x) ^ 2 + (p.y - q.y) ^ 2 + (p.z - q.z) ^ 2

/-! ## The rotation about Z -/

/-- The matrix the servo callbacks write for the angle `a`. -/
noncomputable def rotationMatrix (a : ℝ) : Matrix4f :=
  !![Real.cos a, -Real.sin a, 0, 0;
     Real.sin a,  Real.cos a, 0, 0;
     0,           0,          1, 0;
     0,           0,          0, 1]

/-- On a point the matrix is the planar rotation of `(x, y)`; `z` stays. -/
theorem transformPoint_rotationMatrix (a : ℝ) (p : PointXYZ) :
    transformPoint (rotationMatrix a) p
      = ⟨rotX (Real.cos a) (Real.sin a) p.x p.y,
          rotY (Real.cos a) (Real.sin a) p.x p.y, p.z⟩ := by
  ext <;> simp [transformPoint, rotationMatrix, rotX, rotY, sub_eq_add_neg]

/-- Two rotations one after the other are the rotation by the sum. -/
theorem transformPoint_rotation_add (a b : ℝ) (p : PointXYZ) :
    transformPoint (rotationMatrix a) (transformPoint (rotationMatrix b) p)
      = transformPoint (rotationMatrix (a + b)) p := by
  rw [transformPoint_rotationMatrix, transformPoint_rotationMatrix, transformPoint_rotationMatrix,
    Real.cos_add, Real.sin_add]
  dsimp only
  rw [rotX_comp, rotY_comp]

theorem transformPoint_zero (p : PointXYZ) : transformPoint 0 p = PointXYZ.origin := by
  simp [transformPoint, PointXYZ.origin]

/-- `p` has the height of `q` and its squared distance to the Z axis. -/
structure SameHeightAndRadius (p q : PointXYZ) : Prop where
  height : p.z = q.z
  radius : p.x ^ 2 + p.y ^ 2 = q.x ^ 2 + q.y ^ 2

theorem rotation_sameHeightAndRadius (a : ℝ) (p : PointXYZ) :
    SameHeightAndRadius (transformPoint (rotationMatrix a) p) p := by
  rw [transformPoint_rotationMatrix]
  exact ⟨rfl, rot_sq_add_sq _ _ _ _ (Real.cos_sq_add_sin_sq a)⟩

theorem rotation_distSq (a : ℝ) (p q : PointXYZ) :
    distSq (transformPoint (rotationMatrix a) p) (transformPoint (rotationMatrix a) q)
      = distSq p q := by
  have hplane := rot_dist_sq (Real.cos a) (Real.sin a) p.x p.y q.x q.y
    (Real.cos_sq_add_sin_sq a)
  rw [transformPoint_rotationMatrix, transformPoint_rotationMatrix, distSq, distSq]
  simp only at hplane ⊢
  rw [hplane]

/-- A point on the Z axis at height zero is the origin, and nothing else is. -/
theorem sameHeightAndRadius_origin_iff (p : PointXYZ) :
    SameHeightAndRadius PointXYZ.origin p ↔ p = PointXYZ.origin := by
  constructor
  · rintro ⟨hz, hr⟩
    have hsum : p.x ^ 2 + p.y ^ 2 = 0 := by
      simpa [PointXYZ.origin] using hr.symm
    -- a sum of two squares is zero only if both are
    have hx : p.x = 0 := by nlinarith [sq_nonneg p.x, sq_nonneg p.y]
    have hy : p.y = 0 := by nlinarith [sq_nonneg p.x, sq_nonneg p.y]
    ext
    · exact hx
    · exact hy
    · exact hz.symm
  · rintro rfl
    exact ⟨rfl, rfl⟩

end Sonar3D
