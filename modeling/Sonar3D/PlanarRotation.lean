/-
Rotation of the plane by a pair `(c, s)` with `c² + s² = 1`.

Over any commutative ring: the only fact about an angle that the isometry
argument uses is the Pythagorean identity, so the angle itself does not appear
and the lemmas serve real cosines and sines as well as exact rational pairs.
-/
import Mathlib.Tactic.LinearCombination
import Mathlib.Tactic.Ring

set_option autoImplicit false

namespace Sonar3D.PlanarRotation

variable {K : Type*} [CommRing K]

def rotX (c s x y : K) : K := c * x - s * y

def rotY (c s x y : K) : K := s * x + c * y

/-- A rotation keeps the squared distance to the origin. -/
theorem rot_sq_add_sq (c s x y : K) (h : c ^ 2 + s ^ 2 = 1) :
    rotX c s x y ^ 2 + rotY c s x y ^ 2 = x ^ 2 + y ^ 2 := by
  simp only [rotX, rotY]
  linear_combination (x ^ 2 + y ^ 2) * h

theorem rotX_sub (c s x y x' y' : K) :
    rotX c s x y - rotX c s x' y' = rotX c s (x - x') (y - y') := by
  simp only [rotX]
  ring

theorem rotY_sub (c s x y x' y' : K) :
    rotY c s x y - rotY c s x' y' = rotY c s (x - x') (y - y') := by
  simp only [rotY]
  ring

theorem rot_dist_sq (c s x y x' y' : K) (h : c ^ 2 + s ^ 2 = 1) :
    (rotX c s x y - rotX c s x' y') ^ 2 + (rotY c s x y - rotY c s x' y') ^ 2
      = (x - x') ^ 2 + (y - y') ^ 2 := by
  -- the difference of the images is the image of the difference
  rw [rotX_sub, rotY_sub, rot_sq_add_sq c s _ _ h]

/-- One rotation after another: the angles add up. -/
theorem rotX_comp (c s c' s' x y : K) :
    rotX c s (rotX c' s' x y) (rotY c' s' x y)
      = rotX (c * c' - s * s') (s * c' + c * s') x y := by
  simp only [rotX, rotY]
  ring

theorem rotY_comp (c s c' s' x y : K) :
    rotY c s (rotX c' s' x y) (rotY c' s' x y)
      = rotY (c * c' - s * s') (s * c' + c * s') x y := by
  simp only [rotX, rotY]
  ring

/-- A radius can be told from the two coordinates it gives. -/
theorem radius_eq (c s r r' : K) (h : c ^ 2 + s ^ 2 = 1) (hx : r * c = r' * c)
    (hy : r * s = r' * s) : r = r' := by
  -- `r = r (c² + s²)`, and the same for `r'`
  linear_combination c * hx + s * hy + (r' - r) * h

end Sonar3D.PlanarRotation
