/-
The gyro.

`gyro.py` reads the gyro's analog input off the same reports as the odometry. Whenever
the robot stands still, the reading goes into a buffer, and the mean of the buffer is
what the gyro says when it does not turn. `publish` integrates what a reading is off
from that. The node calls the two in turns, but a run here is any sequence of calls:
`sense` is also called when the driver starts, and `spin` may leave between the two.

Numbers are exact rationals, and the quaternion of `PyKDL.Rotation.RotZ` is its angle.
-/
import Sonar3D.SlidingMean
import Sonar3D.Runs
import Sonar3D.TurtlebotSensors
import Mathlib.Tactic.Linarith

set_option autoImplicit false

namespace Sonar3D.Turtlebot

open Sonar3D.SlidingMean Sonar3D.Runs

/-- `TurtlebotGyro`. -/
structure Gyro where
  cal_offset : ℤ
  orientation : ℚ
  cal_buffer : List ℤ

structure GyroParams where
  gyro_measurement_range : ℚ
  gyro_scale_correction : ℚ

/-- `sensor_msgs/Imu`, the entries that change. -/
structure Imu where
  stamp : ℤ
  angular_velocity_z : ℚ
  orientation : ℚ

def Gyro.init : Gyro := ⟨0, 0, []⟩

def cal_buffer_length : ℕ := 1000

/-- The division is that of Python 2 on integers. -/
def Gyro.update_calibration (g : Gyro) (s : SensorState) : Gyro :=
  if Still s then
    let cal_buffer := slide cal_buffer_length g.cal_buffer s.user_analog_input
    { g with cal_buffer, cal_offset := mean cal_buffer }
  else g

/-- The turn of a reading, in radians a second, "sign change" and all. -/
def Gyro.rate (g : Gyro) (p : GyroParams) (user_analog_input : ℤ) : ℚ :=
  -(((user_analog_input : ℚ) - g.cal_offset) / g.cal_offset * p.gyro_measurement_range * (pi / 180)
    * p.gyro_scale_correction)

/-- The gyro afterwards, and the messages on `imu/data` and `imu/raw`; the second one
divides by the range, which raises an error if it is zero. -/
def Gyro.publish (p : GyroParams) (g : Gyro) (s : SensorState) (last_time : ℤ) :
    Gyro × Option Imu × Option Imu :=
  if g.cal_offset = 0 then (g, none, none)
  else
    let dt : ℚ := (s.stamp - last_time) / 1000000000
    let past_orientation := g.orientation
    let rate := g.rate p s.user_analog_input
    let g := { g with orientation := g.orientation + rate * dt }
    let data : Imu := ⟨s.stamp, rate, g.orientation⟩
    if p.gyro_measurement_range = 0 then (g, some data, none)
    else
      let rawRate := -((s.user_analog_input : ℚ) / p.gyro_measurement_range * (pi / 180)
        * p.gyro_scale_correction)
      (g, some data, some ⟨s.stamp, rawRate, past_orientation + rawRate * dt⟩)

/-! ## Runs -/

inductive GyroCall where
  | update_calibration (s : SensorState)
  | publish (s : SensorState) (last_time : ℤ)

def Gyro.step (p : GyroParams) (g : Gyro) : GyroCall → Gyro
  | .update_calibration s => g.update_calibration s
  | .publish s last_time => (g.publish p s last_time).1

/-- The reading that a call puts into the buffer. -/
def GyroCall.rest? : GyroCall → Option ℤ
  | .update_calibration s => if Still s then some s.user_analog_input else none
  | .publish _ _ => none

/-- The readings at rest, in order. -/
def rests (calls : List GyroCall) : List ℤ := calls.filterMap GyroCall.rest?

theorem Gyro.publish_cal (p : GyroParams) (g : Gyro) (s : SensorState) (last_time : ℤ) :
    (g.publish p s last_time).1.cal_offset = g.cal_offset
      ∧ (g.publish p s last_time).1.cal_buffer = g.cal_buffer := by
  unfold Gyro.publish
  dsimp only
  split
  · exact ⟨rfl, rfl⟩
  · split
    · exact ⟨rfl, rfl⟩
    · exact ⟨rfl, rfl⟩

theorem Gyro.publish_orientation (p : GyroParams) (g : Gyro) (s : SensorState) (last_time : ℤ) :
    (g.publish p s last_time).1.orientation
      = if g.cal_offset = 0 then g.orientation
        else g.orientation + g.rate p s.user_analog_input
          * ((s.stamp - last_time : ℚ) / 1000000000) := by
  unfold Gyro.publish
  dsimp only
  by_cases hsilent : g.cal_offset = 0
  · rw [if_pos hsilent, if_pos hsilent]
  · rw [if_neg hsilent, if_neg hsilent, apply_ite Prod.fst, ite_self]

/-- The gyro's calibration, if those were the readings at rest. -/
structure Gyro.Calibrated (g : Gyro) (rests : List ℤ) : Prop where
  cal_buffer : g.cal_buffer = rests.rtake cal_buffer_length
  cal_offset : g.cal_offset = mean (rests.rtake cal_buffer_length)

theorem Gyro.Calibrated.step {g : Gyro} {readings : List ℤ} (h : g.Calibrated readings)
    (p : GyroParams) (call : GyroCall) :
    (g.step p call).Calibrated (readings ++ call.rest?.toList) := by
  cases call with
  | publish s last_time =>
      obtain ⟨hoffset, hbuffer⟩ := g.publish_cal p s last_time
      have hnone : readings ++ (GyroCall.publish s last_time).rest?.toList = readings :=
        List.append_nil _
      rw [hnone]
      exact ⟨hbuffer.trans h.cal_buffer, hoffset.trans h.cal_offset⟩
  | update_calibration s =>
      have hslide : slide cal_buffer_length g.cal_buffer s.user_analog_input
          = (readings ++ [s.user_analog_input]).rtake cal_buffer_length := by
        rw [h.cal_buffer, slide_rtake]
      unfold Gyro.step Gyro.update_calibration GyroCall.rest?
      dsimp only
      by_cases hstill : Still s
      · rw [if_pos hstill, if_pos hstill, Option.toList_some]
        exact ⟨hslide, congrArg mean hslide⟩
      · rw [if_neg hstill, if_neg hstill, Option.toList_none, List.append_nil]
        exact h

theorem Gyro.Calibrated.foldl {g : Gyro} {readings : List ℤ} (h : g.Calibrated readings)
    (p : GyroParams) (calls : List GyroCall) :
    (calls.foldl (Gyro.step p) g).Calibrated (readings ++ rests calls) := by
  induction calls generalizing g readings with
  | nil =>
      rw [rests, List.filterMap_nil, List.append_nil]
      exact h
  | cons call calls ih =>
      have hrest := ih (h.step p call)
      rw [List.append_assoc] at hrest
      unfold rests at hrest ⊢
      cases hcall : call.rest? with
      | none =>
          rw [hcall, Option.toList_none, List.nil_append] at hrest
          rwa [List.foldl_cons, List.filterMap_cons_none hcall]
      | some reading =>
          rw [hcall, Option.toList_some] at hrest
          rwa [List.foldl_cons, List.filterMap_cons_some hcall]

theorem Gyro.calibrated_init : Gyro.init.Calibrated [] := ⟨rfl, rfl⟩

/-- In every run, the buffer holds the last thousand readings at rest, and the offset is
their mean. -/
theorem gyro_calibration (p : GyroParams) (calls : List GyroCall) :
    (calls.foldl (Gyro.step p) Gyro.init).cal_buffer = (rests calls).rtake 1000
      ∧ (calls.foldl (Gyro.step p) Gyro.init).cal_offset = mean ((rests calls).rtake 1000) := by
  have hcalibrated := Gyro.calibrated_init.foldl p calls
  rw [List.nil_append] at hcalibrated
  exact ⟨hcalibrated.cal_buffer, hcalibrated.cal_offset⟩

/-! ## Drift -/

/-- The reading, if the call uses it, is between the two. -/
def Within (low high : ℤ) : GyroCall → Prop
  | .update_calibration s => Still s → low ≤ s.user_analog_input ∧ s.user_analog_input ≤ high
  | .publish s _ => low ≤ s.user_analog_input ∧ s.user_analog_input ≤ high

/-- The time that a call integrates over, in seconds. -/
def GyroCall.elapsed : GyroCall → ℚ
  | .update_calibration _ => 0
  | .publish s last_time => |(s.stamp - last_time : ℚ) / 1000000000|

/-- The greatest rate of a gyro at rest. -/
def GyroParams.drift (p : GyroParams) (low high : ℤ) : ℚ :=
  (high - low) / low * |p.gyro_measurement_range * (pi / 180) * p.gyro_scale_correction|

theorem rests_within (low high : ℤ) (calls : List GyroCall)
    (hwithin : ∀ call ∈ calls, Within low high call) :
    ∀ reading ∈ rests calls, low ≤ reading ∧ reading ≤ high := by
  intro reading hmem
  obtain ⟨call, hcall, hreading⟩ := List.mem_filterMap.mp hmem
  have hbounds := hwithin call hcall
  cases call with
  | publish s last_time => exact absurd hreading (by simp [GyroCall.rest?])
  | update_calibration s =>
      unfold GyroCall.rest? at hreading
      dsimp only at hreading
      by_cases hstill : Still s
      · rw [if_pos hstill] at hreading
        obtain rfl := Option.some.inj hreading
        exact hbounds hstill
      · rw [if_neg hstill] at hreading
        exact absurd hreading (by simp)

/-- The offset is between the bounds of the readings, or nothing is published yet. -/
theorem Gyro.Calibrated.within {g : Gyro} {readings : List ℤ} (h : g.Calibrated readings)
    (low high : ℤ) (hreadings : ∀ reading ∈ readings, low ≤ reading ∧ reading ≤ high) :
    g.cal_offset = 0 ∨ (low ≤ g.cal_offset ∧ g.cal_offset ≤ high) := by
  rw [h.cal_offset]
  by_cases hempty : readings.rtake cal_buffer_length = []
  · rw [hempty]
    exact Or.inl rfl
  · refine Or.inr (mean_mem _ hempty low high (fun reading hmem => hreadings reading ?_))
    exact List.mem_of_mem_drop hmem

theorem Gyro.abs_rate_le (p : GyroParams) (g : Gyro) (low high reading : ℤ) (hlow : 0 < low)
    (hoffset : low ≤ g.cal_offset ∧ g.cal_offset ≤ high)
    (hreading : low ≤ reading ∧ reading ≤ high) : |g.rate p reading| ≤ p.drift low high := by
  have hlow' : (0 : ℚ) < low := by exact_mod_cast hlow
  have hoffset' : (low : ℚ) ≤ g.cal_offset := by exact_mod_cast hoffset.1
  have hspan : |(reading : ℚ) - g.cal_offset| ≤ high - low := by
    rw [abs_le]
    have hreading_low : (low : ℚ) ≤ reading := by exact_mod_cast hreading.1
    have hreading_high : (reading : ℚ) ≤ high := by exact_mod_cast hreading.2
    have hoffset_high : (g.cal_offset : ℚ) ≤ high := by exact_mod_cast hoffset.2
    exact ⟨by linarith, by linarith⟩
  have hquot : |((reading : ℚ) - g.cal_offset) / g.cal_offset| ≤ (high - low) / low := by
    rw [abs_div, abs_of_pos (hlow'.trans_le hoffset')]
    exact div_le_div₀ ((abs_nonneg _).trans hspan) hspan hlow' hoffset'
  unfold Gyro.rate GyroParams.drift
  rw [abs_neg, mul_assoc, mul_assoc, abs_mul, ← mul_assoc p.gyro_measurement_range]
  gcongr

/-- What one call adds to the orientation. -/
theorem Gyro.abs_orientation_step_le (p : GyroParams) (g : Gyro) (call : GyroCall) (low high : ℤ)
    (hlow : 0 < low) (hwithin : Within low high call)
    (hoffset : g.cal_offset = 0 ∨ (low ≤ g.cal_offset ∧ g.cal_offset ≤ high)) :
    |(g.step p call).orientation - g.orientation| ≤ p.drift low high * call.elapsed := by
  cases call with
  | update_calibration s =>
      have hsame : (g.update_calibration s).orientation = g.orientation := by
        unfold Gyro.update_calibration
        split <;> rfl
      unfold Gyro.step GyroCall.elapsed
      dsimp only
      rw [hsame, sub_self, abs_zero, mul_zero]
  | publish s last_time =>
      unfold Gyro.step GyroCall.elapsed
      dsimp only
      rw [Gyro.publish_orientation]
      rcases hoffset with hsilent | hoffset
      · rw [if_pos hsilent, sub_self, abs_zero]
        -- the bounds are those of the reading
        have hspan : (low : ℚ) ≤ high := by exact_mod_cast hwithin.1.trans hwithin.2
        have hlow' : (0 : ℚ) < low := by exact_mod_cast hlow
        unfold GyroParams.drift
        have hdrift := div_nonneg (sub_nonneg.mpr hspan) hlow'.le
        positivity
      · rw [if_neg (by omega), add_sub_cancel_left, abs_mul]
        gcongr
        exact g.abs_rate_le p low high s.user_analog_input hlow hoffset hwithin

/-- **Drift.** In every run whose readings, at rest and when published, stay between two
bounds, the orientation gets away from zero no faster than the bounds allow. -/
theorem gyro_drift (p : GyroParams) (calls : List GyroCall) (low high : ℤ) (hlow : 0 < low)
    (hwithin : ∀ call ∈ calls, Within low high call) :
    |(calls.foldl (Gyro.step p) Gyro.init).orientation|
      ≤ p.drift low high * (calls.map GyroCall.elapsed).sum := by
  -- the last call first: what it adds is bounded by the calibration before it
  induction calls using List.reverseRecOn with
  | nil => simp [Gyro.init]
  | append_singleton calls call ih =>
      have hbefore := ih (fun call' hmem => hwithin call' (List.mem_append_left _ hmem))
      have hcalibrated := Gyro.calibrated_init.foldl p calls
      rw [List.nil_append] at hcalibrated
      have hoffset := hcalibrated.within low high (rests_within low high calls
        (fun call' hmem => hwithin call' (List.mem_append_left _ hmem)))
      have hstep := Gyro.abs_orientation_step_le p (calls.foldl (Gyro.step p) Gyro.init) call low
        high hlow (hwithin call (List.mem_append_right _ List.mem_cons_self)) hoffset
      rw [List.foldl_append, List.foldl_cons, List.foldl_nil, List.map_append, List.sum_append,
        List.map_singleton, List.sum_singleton, mul_add]
      have htriangle := abs_add_le
        (((calls.foldl (Gyro.step p) Gyro.init).step p call).orientation
          - (calls.foldl (Gyro.step p) Gyro.init).orientation)
        (calls.foldl (Gyro.step p) Gyro.init).orientation
      rw [sub_add_cancel] at htriangle
      linarith

/-- A reading at rest, one second after another. -/
def gyroAt (stamp user_analog_input : ℤ) : SensorState :=
  { SensorState.initial with stamp, user_analog_input }

def gyroCalls : List GyroCall :=
  [.update_calibration (gyroAt 1000000000 500), .publish (gyroAt 1000000000 500) 0,
    .update_calibration (gyroAt 2000000000 502), .publish (gyroAt 2000000000 502) 1000000000]

theorem gyro_drift_rest :
    |(gyroCalls.foldl (Gyro.step ⟨150, 27 / 20⟩) Gyro.init).orientation|
      ≤ (⟨150, 27 / 20⟩ : GyroParams).drift 500 502 * (gyroCalls.map GyroCall.elapsed).sum := by
  apply gyro_drift ⟨150, 27 / 20⟩ gyroCalls 500 502 (by decide)
  intro call hmem
  simp only [gyroCalls, List.mem_cons, List.not_mem_nil, or_false] at hmem
  rcases hmem with rfl | rfl | rfl | rfl <;> simp [Within, gyroAt]

end Sonar3D.Turtlebot
