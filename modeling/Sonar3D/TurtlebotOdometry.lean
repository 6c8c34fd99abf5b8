/-
Where the robot believes it is.

`compute_odom` adds the distance and the angle of each report to a pose that it keeps
for as long as the node lives. Its runs are any sequence of calls: `spin` may fail and
be started again, and the pose goes on from where it was. Each call that takes its
report is a move of `Sonar3D.DeadReckoning`, and the results are what this means for
the numbers: how far the pose can get, what it owes to its start, the circles it drives
and the error it makes on the way back.
-/
import Sonar3D.DeadReckoning
import Sonar3D.Runs
import Sonar3D.TurtlebotNode
import Mathlib.Analysis.Real.Pi.Bounds

set_option autoImplicit false

namespace Sonar3D.Turtlebot

open Sonar3D.DeadReckoning Sonar3D.Runs

/-! ## `compute_odom` -/

/-- `geometry_msgs/Pose2D`. -/
@[ext] structure Pose2D where
  x : ℝ
  y : ℝ
  theta : ℝ

def ODOM_POSE_COVARIANCE : List ℚ :=
  [1 / 1000, 0, 0, 0, 0, 0,
    0, 1 / 1000, 0, 0, 0, 0,
    0, 0, 1000000, 0, 0, 0,
    0, 0, 0, 1000000, 0, 0,
    0, 0, 0, 0, 1000000, 0,
    0, 0, 0, 0, 0, 1000]

def ODOM_POSE_COVARIANCE2 : List ℚ :=
  [1 / 1000000000, 0, 0, 0, 0, 0,
    0, 1 / 1000, 1 / 1000000000, 0, 0, 0,
    0, 0, 1000000, 0, 0, 0,
    0, 0, 0, 1000000, 0, 0,
    0, 0, 0, 0, 1000000, 0,
    0, 0, 0, 0, 0, 1 / 1000000000]

/-- The numbers of the pose again, as are the second ones. -/
def ODOM_TWIST_COVARIANCE : List ℚ := ODOM_POSE_COVARIANCE

def ODOM_TWIST_COVARIANCE2 : List ℚ := ODOM_POSE_COVARIANCE2

/-- `nav_msgs/Odometry`, without the entries that are always zero and the frames. -/
structure Odometry where
  stamp : ℤ
  position_x : ℝ
  position_y : ℝ
  orientation_z : ℝ
  orientation_w : ℝ
  linear_x : ℚ
  angular_z : ℚ
  pose_covariance : List ℚ
  twist_covariance : List ℚ

structure Corrections where
  odom_linear_scale_correction : ℚ
  odom_angular_scale_correction : ℚ

/-- "On startup, Create can report junk readings". -/
def Junk (s : SensorState) : Prop := |s.distance| > 1 ∨ |s.angle| > 1

instance (s : SensorState) : Decidable (Junk s) := inferInstanceAs (Decidable (_ ∨ _))

/-- The pose afterwards, and the message if no error is raised. -/
noncomputable def compute_odom (c : Corrections) (pos2d : Pose2D) (s : SensorState)
    (last_time : ℤ) : Pose2D × Option Odometry :=
  let dt : ℚ := (s.stamp - last_time) / 1000000000
  if Junk s then (pos2d, none)
  else
    let d := s.distance * c.odom_linear_scale_correction
    let angle := s.angle * c.odom_angular_scale_correction
    let x := Real.cos angle * d
    let y := -Real.sin angle * d
    let last_angle := pos2d.theta
    let pos2d : Pose2D :=
      ⟨pos2d.x + (Real.cos last_angle * x - Real.sin last_angle * y),
        pos2d.y + (Real.sin last_angle * x + Real.cos last_angle * y), pos2d.theta + angle⟩
    -- the division by `dt` comes after the pose
    if dt = 0 then (pos2d, none)
    else
      (pos2d, some {
        stamp := s.stamp
        position_x := pos2d.x
        position_y := pos2d.y
        orientation_z := Real.sin (pos2d.theta / (2 : ℚ))
        orientation_w := Real.cos (pos2d.theta / (2 : ℚ))
        linear_x := d / dt
        angular_z := angle / dt
        pose_covariance := if Still s then ODOM_POSE_COVARIANCE2 else ODOM_POSE_COVARIANCE
        twist_covariance := if Still s then ODOM_TWIST_COVARIANCE2 else ODOM_TWIST_COVARIANCE })

/-- No message: this is what `spin` takes for an invalid report. -/
theorem compute_odom_none_iff (c : Corrections) (pos2d : Pose2D) (s : SensorState)
    (last_time : ℤ) : (compute_odom c pos2d s last_time).2 = none ↔ Invalid s last_time := by
  have hdt : ((s.stamp - last_time : ℚ) / 1000000000 = 0) ↔ s.stamp = last_time := by
    rw [div_eq_zero_iff, or_iff_left (by norm_num), sub_eq_zero, Int.cast_inj]
  unfold compute_odom
  dsimp only
  by_cases hjunk : Junk s
  · rw [if_pos hjunk]
    exact iff_of_true rfl (hjunk.imp id Or.inl)
  · rw [if_neg hjunk]
    by_cases hstamp : s.stamp = last_time
    · rw [if_pos (hdt.mpr hstamp)]
      exact iff_of_true rfl (Or.inr (Or.inr hstamp))
    · rw [if_neg (fun h => hstamp (hdt.mp h))]
      refine iff_of_false (by simp) ?_
      rintro (hdist | hangle | hsame)
      · exact hjunk (Or.inl hdist)
      · exact hjunk (Or.inr hangle)
      · exact hstamp hsame

/-- A turn of `spin` with a report ends in an error exactly if `compute_odom` raised it. -/
theorem step_raised_iff (p : Params) (c : Corrections) (pos2d : Pose2D) (st : Spin) (turn : Turn)
    (r : SensorState) (hrun : st.status = .running) (hsensed : turn.sensed = .report r) :
    (st.step p turn).status = .raised ↔ (compute_odom c pos2d r st.s.stamp).2 = none := by
  rw [compute_odom_none_iff]
  by_cases hinvalid : Invalid r st.s.stamp
  · refine iff_of_true ?_ hinvalid
    rw [Spin.step_eq p st turn hrun, hsensed]
    dsimp only
    rw [Spin.report_eq, (st.same_others p turn .start).1.s, if_pos hinvalid]
  · refine iff_of_false ?_ hinvalid
    by_cases hreboot : NeedsReboot r
    · rw [Spin.step_eq p st turn hrun, hsensed]
      dsimp only
      rw [Spin.report_eq, (st.same_others p turn .start).1.s, if_neg hinvalid, if_pos hreboot]
      simp
    · rw [(st.step_acts p turn r hrun ⟨hsensed, hinvalid, hreboot⟩).status]
      simp

/-! ## As dead reckoning -/

def Pose2D.pose (p : Pose2D) : Pose := ⟨⟨p.x, p.y⟩, p.theta⟩

/-- The move that a distance and an angle make. -/
noncomputable def Corrections.move (c : Corrections) (distance angle : ℚ) : Move :=
  Move.against ((distance * c.odom_linear_scale_correction : ℚ) : ℝ)
    ((angle * c.odom_angular_scale_correction : ℚ) : ℝ)

theorem move_neg (c : Corrections) (distance angle : ℚ) :
    c.move (-distance) (-angle)
      = Move.against (-((distance * c.odom_linear_scale_correction : ℚ) : ℝ))
          (-((angle * c.odom_angular_scale_correction : ℚ) : ℝ)) := by
  unfold Corrections.move
  rw [neg_mul, neg_mul, Rat.cast_neg, Rat.cast_neg]

/-- The move of a call, if it takes its report. -/
noncomputable def Corrections.move? (c : Corrections) (s : SensorState) : Option Move :=
  if Junk s then none else some (c.move s.distance s.angle)

theorem exp_ofReal_mul_I (a : ℝ) : Complex.exp (a * Complex.I) = ⟨Real.cos a, Real.sin a⟩ := by
  apply Complex.ext
  · rw [Complex.exp_ofReal_mul_I_re]
  · rw [Complex.exp_ofReal_mul_I_im]

/-- A call moves the pose, or leaves it where it is. -/
theorem pose_compute_odom (c : Corrections) (p : Pose2D) (s : SensorState) (last_time : ℤ) :
    (compute_odom c p s last_time).1.pose = ((c.move? s).map p.pose.move).getD p.pose := by
  unfold compute_odom Corrections.move? Corrections.move Move.against
  dsimp only
  by_cases hjunk : Junk s
  · rw [if_pos hjunk, if_pos hjunk]
    rfl
  · rw [if_neg hjunk, if_neg hjunk, apply_ite Prod.fst, ite_self]
    unfold Pose2D.pose Pose.move
    rw [Option.map_some, Option.getD_some]
    dsimp only
    rw [exp_ofReal_mul_I, exp_ofReal_mul_I]
    ext
    · apply Complex.ext
      · simp
        ring
      · simp
        ring
    · rfl

/-- A report, and the time of the one before. -/
abbrev OdomCall := SensorState × ℤ

/-- The pose after `n` calls. -/
noncomputable def odomAt (c : Corrections) (p : Pose2D) (calls : List OdomCall) (n : ℕ) : Pose2D :=
  stateAt (fun p call => (compute_odom c p call.1 call.2).1) p calls n

noncomputable def Corrections.moves (c : Corrections) (calls : List OdomCall) : List Move :=
  calls.filterMap (fun call => c.move? call.1)

theorem moves_append (c : Corrections) (calls calls' : List OdomCall) :
    c.moves (calls ++ calls') = c.moves calls ++ c.moves calls' := List.filterMap_append

theorem pose_foldl (c : Corrections) (p : Pose2D) (calls : List OdomCall) :
    (calls.foldl (fun p call => (compute_odom c p call.1 call.2).1) p).pose
      = (c.moves calls).foldl Pose.move p.pose := by
  induction calls generalizing p with
  | nil => rfl
  | cons call calls ih =>
      rw [List.foldl_cons, ih, pose_compute_odom]
      unfold Corrections.moves
      cases hmove : c.move? call.1 with
      | none => simp only [List.filterMap_cons, hmove, Option.map_none, Option.getD_none]
      | some m =>
          simp only [List.filterMap_cons, hmove, Option.map_some, Option.getD_some, List.foldl_cons]

theorem pose_odomAt (c : Corrections) (p : Pose2D) (calls : List OdomCall) (n : ℕ) :
    (odomAt c p calls n).pose = (c.moves (calls.take n)).foldl Pose.move p.pose :=
  pose_foldl c p (calls.take n)

theorem normSq_pos_sub (p q : Pose2D) :
    ‖p.pose.pos - q.pose.pos‖ ^ 2 = (p.x - q.x) ^ 2 + (p.y - q.y) ^ 2 := by
  rw [← Complex.normSq_eq_norm_sq, Complex.normSq_apply]
  unfold Pose2D.pose
  simp only [Complex.sub_re, Complex.sub_im]
  ring

/-! ## What a run comes to -/

/-- How far a report says the robot has gone, if it is no junk. -/
def rolled (s : SensorState) : ℚ := if Junk s then 0 else |s.distance|

/-- How far it says the robot has turned. -/
def turned (s : SensorState) : ℚ := if Junk s then 0 else s.angle

theorem sum_moves (c : Corrections) (f : Move → ℝ) (g : SensorState → ℚ)
    (hfg : ∀ s, ((c.move? s).map f).getD 0 = g s) (calls : List OdomCall) :
    ((c.moves calls).map f).sum = ((calls.map (fun call => g call.1)).sum : ℚ) := by
  induction calls with
  | nil => simp [Corrections.moves]
  | cons call calls ih =>
      have hcall := hfg call.1
      unfold Corrections.moves at ih ⊢
      rw [List.map_cons, List.sum_cons, Rat.cast_add, ← ih, ← hcall]
      cases hmove : c.move? call.1 with
      | none => simp only [List.filterMap_cons, hmove, Option.map_none, Option.getD_none, zero_add]
      | some m =>
          simp only [List.filterMap_cons, hmove, Option.map_some, Option.getD_some, List.map_cons,
            List.sum_cons]

theorem norm_move_ahead (c : Corrections) (distance angle : ℚ) :
    ‖(c.move distance angle).ahead‖ = ((|distance * c.odom_linear_scale_correction| : ℚ) : ℝ) := by
  unfold Corrections.move
  rw [norm_against_ahead, Rat.cast_abs]

theorem getD_move?_ahead (c : Corrections) (s : SensorState) :
    ((c.move? s).map (fun m => ‖m.ahead‖)).getD 0
      = ((rolled s * |c.odom_linear_scale_correction| : ℚ) : ℝ) := by
  unfold Corrections.move? rolled
  by_cases hjunk : Junk s
  · simp [if_pos hjunk]
  · rw [if_neg hjunk, if_neg hjunk, Option.map_some, Option.getD_some, norm_move_ahead, abs_mul]

theorem getD_move?_turn (c : Corrections) (s : SensorState) :
    ((c.move? s).map Move.turn).getD 0
      = ((turned s * c.odom_angular_scale_correction : ℚ) : ℝ) := by
  unfold Corrections.move? turned
  by_cases hjunk : Junk s
  · simp [if_pos hjunk]
  · rw [if_neg hjunk, if_neg hjunk, Option.map_some, Option.getD_some]
    exact against_turn _ _

theorem odomAt_add (c : Corrections) (p : Pose2D) (calls : List OdomCall) (m n : ℕ) :
    odomAt c p calls (m + n) = odomAt c (odomAt c p calls m) (calls.drop m) n := by
  unfold odomAt stateAt
  rw [List.take_add, List.foldl_append]

/-- In every run of calls, from any one of them to any later one, the pose gets no
farther than the reports that are no junk say that the wheels rolled, and turns by just
what they say. A report with the stamp of the one before it is among them: it moves the
pose, and then the division by `dt` raises an error. -/
theorem odometry_displacement (c : Corrections) (p : Pose2D) (calls : List OdomCall) (m n : ℕ) :
    let before := odomAt c p calls m
    let after := odomAt c p calls (m + n)
    let between := (calls.drop m).take n
    (after.x - before.x) ^ 2 + (after.y - before.y) ^ 2
        ≤ (((between.map (fun call =>
            rolled call.1 * |c.odom_linear_scale_correction|)).sum : ℚ) : ℝ) ^ 2
      ∧ after.theta = before.theta + (((between.map (fun call =>
          turned call.1 * c.odom_angular_scale_correction)).sum : ℚ) : ℝ) := by
  dsimp only
  rw [odomAt_add]
  obtain ⟨before, hbefore⟩ : ∃ before, before = odomAt c p calls m := ⟨_, rfl⟩
  obtain ⟨rest, hrest⟩ : ∃ rest, rest = calls.drop m := ⟨_, rfl⟩
  rw [← hbefore, ← hrest]
  have hpose := pose_odomAt c before rest n
  constructor
  · have hsum := sum_moves c _ _ (getD_move?_ahead c) (rest.take n)
    have hnorm := norm_foldl_move_sub_le before.pose (c.moves (rest.take n))
    rw [← hpose, hsum] at hnorm
    rw [← normSq_pos_sub]
    gcongr
  · have hsum := sum_moves c _ _ (getD_move?_turn c) (rest.take n)
    have hheading := heading_foldl_move before.pose (c.moves (rest.take n))
    rw [← hpose, hsum] at hheading
    exact hheading

/-- Every run of calls draws the path that it draws from the origin, turned and moved
to where it starts. -/
theorem odometry_from_anywhere (c : Corrections) (p : Pose2D) (calls : List OdomCall) (n : ℕ) :
    let path := odomAt c ⟨0, 0, 0⟩ calls n
    odomAt c p calls n
      = ⟨p.x + (Real.cos p.theta * path.x - Real.sin p.theta * path.y),
          p.y + (Real.sin p.theta * path.x + Real.cos p.theta * path.y), p.theta + path.theta⟩ := by
  dsimp only
  have horigin : (⟨0, 0, 0⟩ : Pose2D).pose = Pose.origin := rfl
  have hpath := pose_odomAt c ⟨0, 0, 0⟩ calls n
  have hpose := pose_odomAt c p calls n
  rw [foldl_move_eq_comp, ← horigin, ← hpath] at hpose
  obtain ⟨path, hpath⟩ : ∃ path, path = odomAt c ⟨0, 0, 0⟩ calls n := ⟨_, rfl⟩
  rw [← hpath] at hpose ⊢
  unfold Pose2D.pose Pose.comp at hpose
  rw [exp_ofReal_mul_I, Pose.mk.injEq, Complex.ext_iff] at hpose
  obtain ⟨⟨hx, hy⟩, htheta⟩ := hpose
  simp only [Complex.add_re, Complex.mul_re, Complex.add_im, Complex.mul_im] at hx hy
  ext
  · exact hx
  · rw [hy]
    ring
  · exact htheta

/-! ## Circles -/

/-- The calls all report the same. -/
def Steady (calls : List OdomCall) (distance angle : ℚ) : Prop :=
  ∀ call ∈ calls, call.1.distance = distance ∧ call.1.angle = angle

theorem moves_steady (c : Corrections) (calls : List OdomCall) (distance angle : ℚ)
    (hsteady : Steady calls distance angle) (hdistance : |distance| ≤ 1) (hangle : |angle| ≤ 1) :
    c.moves calls = List.replicate calls.length (c.move distance angle) := by
  induction calls with
  | nil => rfl
  | cons call calls ih =>
      obtain ⟨hd, ha⟩ := hsteady call List.mem_cons_self
      have hjunk : ¬ Junk call.1 := by
        unfold Junk
        rw [hd, ha]
        exact not_or.mpr ⟨not_lt.mpr hdistance, not_lt.mpr hangle⟩
      have hmove : c.move? call.1 = some (c.move distance angle) := by
        unfold Corrections.move?
        rw [if_neg hjunk, hd, ha]
      have hrest := ih (fun call' hmem => hsteady call' (List.mem_cons_of_mem call hmem))
      unfold Corrections.moves at hrest ⊢
      rw [List.length_cons, List.replicate_succ, ← hrest]
      simp only [List.filterMap_cons, hmove]

/-- A robot that reports the same distance and the same turn all the time believes that
it drives in a circle: every pose of the run is as far from one point. -/
theorem odometry_circle (c : Corrections) (p : Pose2D) (calls : List OdomCall)
    (distance angle : ℚ) (hsteady : Steady calls distance angle) (hdistance : |distance| ≤ 1)
    (hangle : |angle| ≤ 1)
    (hturn : Real.sin ((angle * c.odom_angular_scale_correction : ℚ) / 2) ≠ 0) :
    ∃ cx cy : ℝ, ∀ n, ((odomAt c p calls n).x - cx) ^ 2 + ((odomAt c p calls n).y - cy) ^ 2
      = ((distance * c.odom_linear_scale_correction : ℚ)
          / (2 * Real.sin ((angle * c.odom_angular_scale_correction : ℚ) / 2))) ^ 2 := by
  obtain ⟨m, hm⟩ : ∃ m, m = c.move distance angle := ⟨_, rfl⟩
  refine ⟨(p.pose.centre m).re, (p.pose.centre m).im, fun n => ?_⟩
  have hpose := pose_odomAt c p calls n
  rw [moves_steady c (calls.take n) distance angle
    (fun call hmem => hsteady call (List.mem_of_mem_take hmem)) hdistance hangle, ← hm] at hpose
  have hcentre := centre_foldl_replicate p.pose m (by rw [hm]; exact hturn) (calls.take n).length
  rw [← hpose] at hcentre
  have hahead : ‖m.ahead‖ = ((|distance * c.odom_linear_scale_correction| : ℚ) : ℝ) := by
    rw [hm, norm_move_ahead]
  have hturn' : m.turn = ((angle * c.odom_angular_scale_correction : ℚ) : ℝ) := by
    rw [hm]
    rfl
  have hnorm := norm_sub_centre (odomAt c p calls n).pose m
  rw [hcentre, hahead, hturn'] at hnorm
  have hsq := congrArg (fun r => r ^ 2) hnorm
  rw [← Complex.normSq_eq_norm_sq, Complex.normSq_apply, Complex.sub_re, Complex.sub_im, div_pow,
    Rat.cast_abs, sq_abs, mul_pow, sq_abs, ← pow_two, ← pow_two] at hsq
  rw [div_pow, mul_pow]
  exact hsq

/-- A tenth of a metre and a fifth of a radian, twice; and the same back. -/
def arcReport (distance angle : ℚ) : OdomCall :=
  ({ SensorState.initial with stamp := 2, distance, angle }, 1)

def arcOut : List OdomCall := [arcReport (1 / 10) (1 / 5), arcReport (1 / 10) (1 / 5)]

def arcBack : List OdomCall := [arcReport (-(1 / 10)) (-(1 / 5)), arcReport (-(1 / 10)) (-(1 / 5))]

theorem steady_pair (distance angle : ℚ) :
    Steady [arcReport distance angle, arcReport distance angle] distance angle := by
  intro call hmem
  have hcall : call = arcReport distance angle := by simpa using hmem
  rw [hcall]
  exact ⟨rfl, rfl⟩

theorem sin_tenth_ne_zero : Real.sin (((1 / 5 * 1 : ℚ) : ℝ) / 2) ≠ 0 := by
  apply ne_of_gt
  apply Real.sin_pos_of_pos_of_lt_pi
  · norm_num
  · refine lt_trans ?_ Real.pi_gt_three
    norm_num

theorem odometry_circle_arc :
    ∃ cx cy : ℝ, ∀ n, ((odomAt ⟨1, 1⟩ ⟨0, 0, 0⟩ arcOut n).x - cx) ^ 2
        + ((odomAt ⟨1, 1⟩ ⟨0, 0, 0⟩ arcOut n).y - cy) ^ 2
      = (((1 / 10 * 1 : ℚ) : ℝ) / (2 * Real.sin (((1 / 5 * 1 : ℚ) : ℝ) / 2))) ^ 2 :=
  odometry_circle ⟨1, 1⟩ ⟨0, 0, 0⟩ arcOut (1 / 10) (1 / 5) (steady_pair _ _) (by decide +kernel)
    (by decide +kernel) sin_tenth_ne_zero

/-! ## There and back -/

/-- The robot drives an arc of `n` equal reports and the same arc back. It is believed to
look again as it did, but not to be where it was: it is off by the chord of the arc,
times twice the sine of one and a half turns. -/
theorem odometry_out_and_back (c : Corrections) (p : Pose2D) (out back : List OdomCall)
    (distance angle : ℚ) (hout : Steady out distance angle)
    (hback : Steady back (-distance) (-angle)) (hlength : back.length = out.length)
    (hdistance : |distance| ≤ 1) (hangle : |angle| ≤ 1)
    (hturn : Real.sin ((angle * c.odom_angular_scale_correction : ℚ) / 2) ≠ 0) :
    let turn : ℝ := (angle * c.odom_angular_scale_correction : ℚ)
    let home := odomAt c p (out ++ back) (out ++ back).length
    home.theta = p.theta
      ∧ (home.x - p.x) ^ 2 + (home.y - p.y) ^ 2
        = ((distance * c.odom_linear_scale_correction : ℚ)
            * (Real.sin (out.length * turn / 2) / Real.sin (turn / 2))
            * (2 * Real.sin (3 * turn / 2))) ^ 2 := by
  dsimp only
  obtain ⟨home, hhome⟩ : ∃ home, home = odomAt c p (out ++ back) (out ++ back).length := ⟨_, rfl⟩
  rw [← hhome]
  have hpose : home.pose
      = (List.replicate out.length (c.move distance angle)
          ++ List.replicate out.length (c.move (-distance) (-angle))).foldl Pose.move p.pose := by
    rw [hhome, pose_odomAt, List.take_length, moves_append,
      moves_steady c out distance angle hout hdistance hangle,
      moves_steady c back (-distance) (-angle) hback (by rwa [abs_neg]) (by rwa [abs_neg]), hlength]
  rw [move_neg] at hpose
  unfold Corrections.move at hpose
  constructor
  · have hheading := congrArg Pose.heading hpose
    rwa [heading_foldl_replicate_back _ _ _ rfl] at hheading
  · rw [← normSq_pos_sub, hpose, norm_foldl_replicate_against _ _ _ hturn, sq_abs]

theorem odometry_out_and_back_arc :
    (odomAt ⟨1, 1⟩ ⟨0, 0, 0⟩ (arcOut ++ arcBack) 4).theta = 0 :=
  (odometry_out_and_back ⟨1, 1⟩ ⟨0, 0, 0⟩ arcOut arcBack (1 / 10) (1 / 5) (steady_pair _ _)
    (steady_pair _ _) rfl (by decide +kernel) (by decide +kernel) sin_tenth_ne_zero).1

end Sonar3D.Turtlebot
