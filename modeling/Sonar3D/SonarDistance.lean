/-
How far from the head `receive()` puts a point.

The point of a reading of range `R` at bearing `a` is `(R cos a, R sin a, R sin a)`:
the line that gave `y` the servo angle has been replaced by the sine, and `z` has
kept its own. The third coordinate is one too many, and the point lies at
`R sqrt(1 + sin² a)`. That is `R` only where the sine is zero, and the angle is a
rational number of radians, so only straight ahead.
-/
import Sonar3D.SonarGate
import Mathlib.Analysis.Real.Pi.Bounds
import Mathlib.Analysis.Real.Pi.Irrational
import Mathlib.Analysis.SpecialFunctions.Trigonometric.Bounds

set_option autoImplicit false

namespace Sonar3D.Sonar

/-! ## The distance of a point -/

def distanceSq (p : PointXYZ) : ℝ := p.x ^ 2 + p.y ^ 2 + p.z ^ 2

noncomputable def distance (p : PointXYZ) : ℝ := Real.sqrt (distanceSq p)

/-- Every point of a datagram lies at its measured range, and so inside the
bounds of the gate. -/
structure AtMeasuredDistance (buf : ReceiveBuf) (d : Datagram) : Prop where
  distanceSq_eq : ∀ b ∈ beams buf (some d), distanceSq b.point = (b.corrected_range : ℝ) ^ 2
  between : ∀ p ∈ receive buf (some d), 1 / 2 < distance p ∧ distance p < 50

/-- Reading `j` of a datagram is straight ahead: the start angle, in whole
degrees, and `j` increments make the 180 degrees that stand for zero. -/
def Datagram.Ahead (d : Datagram) (j : ℕ) : Prop :=
  100 * (d.word 76 / 100) + j * d.byte 78 = 18000

instance (d : Datagram) (j : ℕ) : Decidable (d.Ahead j) := inferInstanceAs (Decidable (_ = _))

/-- The third coordinate counts the sine a second time. -/
theorem Beam.point_distanceSq (b : Beam) :
    distanceSq b.point
      = (b.corrected_range : ℝ) ^ 2
        * (1 + Real.sin ((pi / 180 * b.bearing : ℚ) : ℝ) ^ 2) := by
  have hone := Real.cos_sq_add_sin_sq ((pi / 180 * b.bearing : ℚ) : ℝ)
  unfold distanceSq Beam.point
  dsimp only
  linear_combination (b.corrected_range : ℝ) ^ 2 * hone

theorem distance_of_distanceSq (p : PointXYZ) (r : ℝ) (hr : 0 ≤ r) (h : distanceSq p = r ^ 2) :
    distance p = r := by
  unfold distance
  rw [h, Real.sqrt_sq hr]

/-! ## When the sine is zero -/

/-- No other rational is a multiple of `π`. -/
theorem sin_ratCast_eq_zero_iff (q : ℚ) : Real.sin (q : ℝ) = 0 ↔ q = 0 := by
  constructor
  · intro h
    obtain ⟨n, hn⟩ := Real.sin_eq_zero_iff.mp h
    by_cases hzero : n = 0
    · rw [hzero, Int.cast_zero, zero_mul] at hn
      exact_mod_cast hn.symm
    · exact absurd ⟨q, hn.symm⟩ (irrational_pi.intCast_mul hzero)
  · rintro rfl
    rw [Rat.cast_zero, Real.sin_zero]

/-- The point of a kept reading lies at its range exactly at bearing zero. -/
theorem Beam.point_distanceSq_eq_iff (b : Beam) (hpos : 0 < b.corrected_range) :
    distanceSq b.point = (b.corrected_range : ℝ) ^ 2 ↔ b.bearing = 0 := by
  have hrange : (b.corrected_range : ℝ) ^ 2 ≠ 0 := by positivity
  have hpi : pi / 180 ≠ 0 := by
    unfold pi
    norm_num
  rw [b.point_distanceSq, mul_eq_left₀ hrange, add_eq_left, sq_eq_zero_iff,
    sin_ratCast_eq_zero_iff, mul_eq_zero, or_iff_right hpi]

theorem bearing_datagram (buf : ReceiveBuf) (d : Datagram) (j : ℕ) (hlen : 78 < d.bytes.length) :
    bearing (decodeHeader (afterRecv buf (some d))) j
      = ((100 * (d.word 76 / 100) + j * d.byte 78 : ℕ) : ℚ) / 100 - 180 := by
  have hstart : get_value (afterRecv buf (some d)) 76 = d.word 76 :=
    get_value_afterRecv buf d 76 (by omega)
  have hinc := afterRecv_byte buf d 78 hlen
  unfold bearing decodeHeader
  dsimp only
  rw [hstart, hinc]
  -- both operands are natural numbers, so the division is theirs
  rw [show ((d.word 76 : ℕ) : ℤ).tdiv 100 = ((d.word 76 / 100 : ℕ) : ℤ) from rfl]
  simp only [Int.cast_sub, Int.cast_natCast, Int.cast_ofNat, Nat.cast_add, Nat.cast_mul,
    Nat.cast_ofNat]
  ring

theorem bearing_eq_zero_iff (buf : ReceiveBuf) (d : Datagram) (j : ℕ)
    (hlen : 78 < d.bytes.length) :
    bearing (decodeHeader (afterRecv buf (some d))) j = 0 ↔ d.Ahead j := by
  rw [bearing_datagram buf d j hlen, sub_eq_zero, div_eq_iff (by norm_num)]
  norm_num
  unfold Datagram.Ahead
  norm_cast

/-! ## The law -/

theorem Beam.corrected_range_gate (buf : ReceiveBuf) (d : Delivery) (b : Beam)
    (hb : b ∈ beams buf d) : InGate b.corrected_range := by
  have hin := ((exists_mem_beams buf d b.j).mp ⟨b, hb, rfl⟩).2
  rw [eq_of_mem_beams buf d b hb]
  exact hin

/-- A published point lies at its range exactly if its reading is straight ahead. -/
theorem distanceSq_eq_iff_ahead (buf : ReceiveBuf) (d : Datagram) (b : Beam)
    (hb : b ∈ beams buf (some d)) :
    distanceSq b.point = (b.corrected_range : ℝ) ^ 2 ↔ d.Ahead b.j := by
  have hgate := Beam.corrected_range_gate buf (some d) b hb
  have hpos : 0 < b.corrected_range := lt_trans (by norm_num) hgate.1
  have hheader := header_lt d b.j ((mem_beams buf (some d) b).mp hb).1
  have hbearing : b.bearing = bearing (decodeHeader (afterRecv buf (some d))) b.j :=
    congrArg Beam.bearing (eq_of_mem_beams buf (some d) b hb)
  rw [b.point_distanceSq_eq_iff hpos, hbearing, bearing_eq_zero_iff buf d b.j (by omega)]

/-- At its range a point is between the bounds of the gate. -/
theorem distance_between (p : PointXYZ) (r : ℚ) (hgate : InGate r)
    (heq : distanceSq p = (r : ℝ) ^ 2) : 1 / 2 < distance p ∧ distance p < 50 := by
  obtain ⟨hmin, hmax⟩ := hgate
  have hmin' : (1 / 2 : ℝ) < r := by
    have hreal : ((1 / 2 : ℚ) : ℝ) < r := by exact_mod_cast hmin
    simpa using hreal
  have hmax' : (r : ℝ) < 50 := by exact_mod_cast hmax
  rw [distance_of_distanceSq p r (by linarith) heq]
  exact ⟨hmin', hmax'⟩

/-- The points of a datagram lie at their measured ranges if and only if every
reading in the gate is straight ahead. -/
theorem atMeasuredDistance_iff (buf : ReceiveBuf) (d : Datagram) :
    AtMeasuredDistance buf d
      ↔ ∀ j < readings (Delivery.ret (some d)), d.Kept buf j → d.Ahead j := by
  constructor
  · intro h j hj hkept
    obtain ⟨b, hb, rfl⟩ :=
      (exists_mem_beams buf (some d) j).mpr ⟨hj, (kept_exact buf d j hj).1.mpr hkept⟩
    exact (distanceSq_eq_iff_ahead buf d b hb).mp (h.distanceSq_eq b hb)
  · intro h
    have heq : ∀ b ∈ beams buf (some d),
        distanceSq b.point = (b.corrected_range : ℝ) ^ 2 := by
      intro b hb
      obtain ⟨hj, hin⟩ := (exists_mem_beams buf (some d) b.j).mp ⟨b, hb, rfl⟩
      exact (distanceSq_eq_iff_ahead buf d b hb).mpr
        (h b.j hj ((kept_exact buf d b.j hj).1.mp hin))
    refine ⟨heq, ?_⟩
    intro p hp
    obtain ⟨b, hb, rfl⟩ := List.mem_map.mp hp
    exact distance_between b.point _ (Beam.corrected_range_gate buf (some d) b hb) (heq b hb)

/-- One reading of 40 metres at 90 degrees. -/
def abeam : Datagram where
  bytes := (((List.replicate 256 0).set 76 105).set 77 120).set 86 10 ++ [15, 160]
  length_le := by decide +kernel

theorem sin_abeam : 1 - 1 / 100 < Real.sin ((pi / 180 * 90 : ℚ) : ℝ) ^ 2 := by
  have hone := Real.cos_sq_add_sin_sq ((pi / 180 * 90 : ℚ) : ℝ)
  have hhalf : ((pi / 180 * 90 : ℚ) : ℝ) = 1.570796325 := by
    unfold pi
    norm_num
  -- the cosine is at most the distance to a quarter turn
  have hcos : Real.cos ((pi / 180 * 90 : ℚ) : ℝ) ^ 2
      ≤ (Real.pi / 2 - ((pi / 180 * 90 : ℚ) : ℝ)) ^ 2 := by
    rw [← Real.sin_pi_div_two_sub]
    exact sq_le_sq.mpr Real.abs_sin_le_abs
  have hsmall : (Real.pi / 2 - ((pi / 180 * 90 : ℚ) : ℝ)) ^ 2 < 1 / 100 := by
    have hlo := Real.pi_gt_d6
    have hhi := Real.pi_lt_d6
    rw [hhalf]
    nlinarith
  linarith

/-- It is published more than 50 metres away. -/
theorem atMeasuredDistance_fails :
    (∃ p ∈ receive ReceiveBuf.initial (some abeam), 50 < distance p)
      ∧ ¬ ∀ buf d, AtMeasuredDistance buf d := by
  have hfar : ∃ p ∈ receive ReceiveBuf.initial (some abeam), 50 < distance p := by
    have hbeam : beams ReceiveBuf.initial (some abeam) = [⟨0, 40, 90⟩] := by
      rw [beams_eq]
      decide +kernel
    refine ⟨Beam.point ⟨0, 40, 90⟩, ?_, ?_⟩
    · unfold receive
      rw [hbeam]
      exact List.mem_singleton_self _
    · have hsin := sin_abeam
      apply Real.lt_sqrt_of_sq_lt
      rw [Beam.point_distanceSq]
      push_cast at hsin ⊢
      linarith
  refine ⟨hfar, ?_⟩
  intro h
  obtain ⟨p, hp, hgt⟩ := hfar
  exact absurd ((h ReceiveBuf.initial abeam).between p hp).2 hgt.not_gt

end Sonar3D.Sonar
