/-
The nodelet `CloudToScan`: a cloud seen as a laser scan.

`cloud_to_scan.cpp` takes the points of a cloud that lie in a band of heights and
makes a scan of them: a row of ranges, one for each direction, each the range of the
nearest point in its direction, or a metre more than the greatest range if there is
none nearer than that. The index of a direction is computed from the angle and used as
it is, so a point in one of the last directions can be written behind the end of the
row; the model has no scan then, and none for a length that is no `uint32_t` or whose
indices are no `int`.

The fields of the message are floats, and so are the difference and the quotient that
give the row its length; what a float makes of a number is a parameter. The arithmetic
on the points, in doubles, and the ranges, which are floats, are real numbers with no
rounding. A coordinate may be NaN, which is `none`; infinite ones are left out, and so
is the header.
-/
import Sonar3D.LeastBins
import Mathlib.Analysis.SpecialFunctions.Complex.Arg

set_option autoImplicit false

namespace Sonar3D.CloudToScan

open Sonar3D.LeastBins

/-- A `pcl::PointXYZ` as it comes from the camera. -/
structure Point where
  x : Option ℝ
  y : Option ℝ
  z : Option ℝ

/-- What the constructor, the parameters and `reconfigure` set. -/
structure Config where
  min_height_ : ℝ
  max_height_ : ℝ
  angle_min_ : ℝ
  angle_max_ : ℝ
  angle_increment_ : ℝ
  scan_time_ : ℝ
  range_min_ : ℝ
  range_max_ : ℝ

/-- The constructor. -/
noncomputable def Config.initial : Config where
  min_height_ := (1 / 10 : ℚ)
  max_height_ := (15 / 100 : ℚ)
  angle_min_ := -(Real.pi * (1 / 2 : ℚ))
  angle_max_ := Real.pi * (1 / 2 : ℚ)
  angle_increment_ := Real.pi * (1 / 360 : ℚ)
  scan_time_ := (1 / 30 : ℚ)
  range_min_ := (45 / 100 : ℚ)
  range_max_ := (10 : ℚ)

noncomputable def Config.range_min_sq_ (c : Config) : ℝ := c.range_min_ * c.range_min_

/-- `sensor_msgs::LaserScan`. -/
structure LaserScan where
  angle_min : ℝ
  angle_max : ℝ
  angle_increment : ℝ
  time_increment : ℝ
  scan_time : ℝ
  range_min : ℝ
  range_max : ℝ
  ranges : List ℝ

noncomputable def atan2 (y x : ℝ) : ℝ := Complex.arg ⟨x, y⟩

variable (float : ℝ → ℝ) (c : Config)

/-! ## The callback -/

noncomputable def Config.angle_min : ℝ := float c.angle_min_

noncomputable def Config.angle_max : ℝ := float c.angle_max_

noncomputable def Config.angle_increment : ℝ := float c.angle_increment_

noncomputable def Config.range_max : ℝ := float c.range_max_

/-- `ranges_size`; `none` if there is no quotient, or none that is a length whose
indices an `int` can hold. -/
noncomputable def Config.ranges_size : Option ℕ :=
  let quotient := float (float (c.angle_max float - c.angle_min float) / c.angle_increment float)
  if c.angle_increment float ≠ 0 ∧ 0 ≤ ⌈quotient⌉ ∧ ⌈quotient⌉ < 2 ^ 31 then some ⌈quotient⌉₊
  else none

/-- `range_sq` and `angle` of a point that is not rejected. -/
noncomputable def measure (p : Point) : Option (ℝ × ℝ) :=
  match p.x, p.y, p.z with
  | some x, some y, some z =>
      if -y > c.max_height_ ∨ -y < c.min_height_ then none
      else
        let range_sq := z * z + x * x
        if range_sq < c.range_min_sq_ then none
        else
          let angle := -atan2 x z
          if angle < c.angle_min float ∨ angle > c.angle_max float then none
          else some (range_sq, angle)
  | _, _, _ => none

/-- `(angle - output->angle_min) / output->angle_increment`, truncated. -/
noncomputable def index (angle : ℝ) : ℕ :=
  ⌊(angle - c.angle_min float) / c.angle_increment float⌋₊

/-- The body of the loop; `none` for a write behind the end of `ranges`. -/
noncomputable def loopBody (ranges : List ℝ) (p : Point) : Option (List ℝ) :=
  match measure float c p with
  | none => some ranges
  | some (range_sq, angle) =>
      let index := index float c angle
      match ranges[index]? with
      | none => none
      | some r =>
          some (if r * r > range_sq then ranges.set index (Real.sqrt range_sq) else ranges)

/-- `output`, with its row. -/
noncomputable def output (ranges : List ℝ) : LaserScan where
  angle_min := c.angle_min float
  angle_max := c.angle_max float
  angle_increment := c.angle_increment float
  time_increment := 0
  scan_time := float c.scan_time_
  range_min := float c.range_min_
  range_max := c.range_max float
  ranges := ranges

noncomputable def callback (cloud : List Point) : Option LaserScan := do
  let ranges_size ← c.ranges_size float
  let ranges ← cloud.foldlM (loopBody float c) (List.replicate ranges_size (c.range_max float + 1))
  some (output float c ranges)

/-! ## The points seen -/

/-- The point is not rejected, its direction is number `i`, and its range is `r`. -/
def Seen (p : Point) (i : ℕ) (r : ℝ) : Prop :=
  ∃ range_sq angle, measure float c p = some (range_sq, angle) ∧ i = index float c angle
    ∧ r = Real.sqrt range_sq

/-- The bin and the range of a point. -/
noncomputable def bin? (p : Point) : Option (ℕ × ℝ) :=
  (measure float c p).map (fun m => (index float c m.2, Real.sqrt m.1))

theorem bin?_eq_some_iff (p : Point) (i : ℕ) (r : ℝ) :
    bin? float c p = some (i, r) ↔ Seen float c p i r := by
  unfold bin? Seen
  constructor
  · intro h
    obtain ⟨⟨range_sq, angle⟩, hm, hpair⟩ := Option.map_eq_some_iff.mp h
    obtain ⟨rfl, rfl⟩ := Prod.mk.inj hpair
    exact ⟨range_sq, angle, hm, rfl, rfl⟩
  · rintro ⟨range_sq, angle, hm, rfl, rfl⟩
    rw [hm]
    rfl

/-- What is measured of a point: a square, and an angle between the two limits. -/
theorem measure_some (p : Point) (range_sq angle : ℝ)
    (h : measure float c p = some (range_sq, angle)) :
    0 ≤ range_sq ∧ c.angle_min float ≤ angle ∧ angle ≤ c.angle_max float := by
  obtain ⟨px, py, pz⟩ := p
  unfold measure at h
  cases px with
  | none => exact absurd h (by simp)
  | some x =>
      cases py with
      | none => exact absurd h (by simp)
      | some y =>
          cases pz with
          | none => exact absurd h (by simp)
          | some z =>
              dsimp only at h
              by_cases hheight : -y > c.max_height_ ∨ -y < c.min_height_
              · rw [if_pos hheight] at h
                exact absurd h (by simp)
              rw [if_neg hheight] at h
              by_cases hnear : z * z + x * x < c.range_min_sq_
              · rw [if_pos hnear] at h
                exact absurd h (by simp)
              rw [if_neg hnear] at h
              by_cases haside : -atan2 x z < c.angle_min float ∨ -atan2 x z > c.angle_max float
              · rw [if_pos haside] at h
                exact absurd h (by simp)
              rw [if_neg haside] at h
              obtain ⟨rfl, rfl⟩ := Prod.mk.inj (Option.some.inj h)
              obtain ⟨hmin, hmax⟩ := not_or.mp haside
              refine ⟨?_, not_lt.mp hmin, not_lt.mp hmax⟩
              exact add_nonneg (mul_self_nonneg z) (mul_self_nonneg x)

/-! ## The loop as bins -/

/-- With no negative range in the row, to write a point is to put its range into its
bin: the squares are compared, and they compare as the ranges do. -/
theorem loopBody_eq (ranges : List ℝ) (hpos : ∀ r ∈ ranges, 0 ≤ r) (p : Point) :
    loopBody float c ranges p = (bin? float c p).elim (some ranges) (put ranges) := by
  unfold loopBody bin?
  cases hm : measure float c p with
  | none => rfl
  | some m =>
      obtain ⟨range_sq, angle⟩ := m
      have hsq := (measure_some float c p range_sq angle hm).1
      rw [Option.map_some, Option.elim_some]
      unfold put
      dsimp only
      cases hbin : ranges[index float c angle]? with
      | none => rfl
      | some r =>
          have hr : 0 ≤ r := hpos r (List.mem_of_getElem? hbin)
          have hless : r * r > range_sq ↔ Real.sqrt range_sq < r := by
            rw [gt_iff_lt, Real.sqrt_lt hsq hr, sq]
          simp only [hless]

/-- What is put in is not negative, so no range ever is. -/
theorem put_nonneg (ranges ranges' : List ℝ) (hpos : ∀ r ∈ ranges, 0 ≤ r) (m : ℕ × ℝ)
    (hm : 0 ≤ m.2) (h : put ranges m = some ranges') : ∀ r ∈ ranges', 0 ≤ r := by
  unfold put at h
  cases hbin : ranges[m.1]? with
  | none =>
      rw [hbin] at h
      exact absurd h (by simp)
  | some b =>
      rw [hbin] at h
      obtain rfl := Option.some.inj h
      intro r hr
      split at hr
      · rcases List.mem_or_eq_of_mem_set hr with hold | rfl
        · exact hpos r hold
        · exact hm
      · exact hpos r hr

theorem foldlM_loopBody (cloud : List Point) (ranges : List ℝ) (hpos : ∀ r ∈ ranges, 0 ≤ r) :
    cloud.foldlM (loopBody float c) ranges
      = (cloud.filterMap (bin? float c)).foldlM put ranges := by
  induction cloud generalizing ranges with
  | nil => rfl
  | cons p cloud ih =>
      rw [List.foldlM_cons, loopBody_eq float c ranges hpos]
      cases hbin : bin? float c p with
      | none =>
          rw [List.filterMap_cons_none hbin]
          exact ih ranges hpos
      | some m =>
          rw [List.filterMap_cons_some hbin, List.foldlM_cons, Option.elim_some]
          cases hput : put ranges m with
          | none => rfl
          | some ranges' =>
              have hm : 0 ≤ m.2 := by
                obtain ⟨_, _, _, _, hr⟩ := (bin?_eq_some_iff float c p m.1 m.2).mp hbin
                rw [hr]
                exact Real.sqrt_nonneg _
              exact ih ranges' (put_nonneg ranges ranges' hpos m hm hput)

theorem mem_bins (cloud : List Point) (i : ℕ) (r : ℝ) :
    (i, r) ∈ cloud.filterMap (bin? float c) ↔ ∃ p ∈ cloud, Seen float c p i r := by
  rw [List.mem_filterMap]
  simp only [bin?_eq_some_iff]

/-- The callback is the bins, filled one after the other. -/
theorem callback_eq (hmax : 0 ≤ c.range_max float + 1) (n : ℕ) (hn : c.ranges_size float = some n)
    (cloud : List Point) :
    callback float c cloud
      = ((cloud.filterMap (bin? float c)).foldlM put
          (List.replicate n (c.range_max float + 1))).map (output float c) := by
  have hnonneg : ∀ r ∈ List.replicate n (c.range_max float + 1), 0 ≤ r := by
    intro r hr
    rw [List.eq_of_mem_replicate hr]
    exact hmax
  unfold callback
  rw [hn, Option.bind_eq_bind, Option.bind_some, foldlM_loopBody float c cloud _ hnonneg,
    Option.bind_eq_bind, Option.map_eq_bind]
  rfl

/-- Without a length there is no scan. -/
theorem ranges_size_of_callback (cloud : List Point) (scan : LaserScan)
    (h : callback float c cloud = some scan) : ∃ n, c.ranges_size float = some n := by
  unfold callback at h
  obtain ⟨n, hn, -⟩ := Option.bind_eq_some_iff.mp h
  exact ⟨n, hn⟩

theorem callback_eq_none_iff (hmax : 0 ≤ c.range_max float + 1) (n : ℕ)
    (hn : c.ranges_size float = some n) (cloud : List Point) :
    callback float c cloud = none ↔ ∃ p ∈ cloud, ∃ i r, Seen float c p i r ∧ n ≤ i := by
  rw [callback_eq float c hmax n hn, Option.map_eq_none_iff, foldlM_put_eq_none_iff,
    List.length_replicate]
  constructor
  · rintro ⟨⟨i, r⟩, hbin, hover⟩
    obtain ⟨p, hp, hseen⟩ := (mem_bins float c cloud i r).mp hbin
    exact ⟨p, hp, i, r, hseen, hover⟩
  · rintro ⟨p, hp, i, r, hseen, hover⟩
    exact ⟨(i, r), (mem_bins float c cloud i r).mpr ⟨p, hp, hseen⟩, hover⟩

/-! ## The scan -/

/-- A scan is as long as its directions are many, and in each it has the least of the
ranges seen there and `range_max + 1`, so that a point farther off than that is not
published: whatever the cloud, and in whatever order its points come. And there is a
scan if no point has an index behind the end. -/
theorem callback_nearest (hmax : 0 ≤ c.range_max float + 1) (cloud : List Point) :
    (∀ scan, callback float c cloud = some scan →
        c.ranges_size float = some scan.ranges.length
          ∧ ∀ i (hi : i < scan.ranges.length),
              IsLeast (insert (c.range_max float + 1) {r | ∃ p ∈ cloud, Seen float c p i r})
                scan.ranges[i])
      ∧ (∀ n, c.ranges_size float = some n →
          (∀ p ∈ cloud, ∀ i r, Seen float c p i r → i < n) →
          ∃ scan, callback float c cloud = some scan)
      ∧ ∀ cloud', cloud.Perm cloud' → callback float c cloud' = callback float c cloud := by
  refine ⟨?_, ?_, ?_⟩
  · intro scan hscan
    obtain ⟨n, hn⟩ := ranges_size_of_callback float c cloud scan hscan
    rw [callback_eq float c hmax n hn] at hscan
    obtain ⟨ranges, hranges, rfl⟩ := Option.map_eq_some_iff.mp hscan
    obtain ⟨hlength, hleast⟩ := foldlM_put_isLeast _ ranges _ hranges
    rw [List.length_replicate] at hlength
    have hrow : (output float c ranges).ranges.length = n := hlength
    refine ⟨by rw [hn, hrow], fun i hi => ?_⟩
    have hbin := hleast i (by rw [List.length_replicate, ← hlength]; exact hi) hi
    rw [List.getElem_replicate] at hbin
    simp only [mem_bins] at hbin
    exact hbin
  · intro n hn hwithin
    apply Option.ne_none_iff_exists'.mp
    rw [ne_eq, callback_eq_none_iff float c hmax n hn]
    rintro ⟨p, hp, i, r, hseen, hover⟩
    exact absurd (hwithin p hp i r hseen) (Nat.not_lt.mpr hover)
  · intro cloud' hperm
    cases hn : c.ranges_size float with
    | none =>
        unfold callback
        rw [hn]
        rfl
    | some n =>
        rw [callback_eq float c hmax n hn, callback_eq float c hmax n hn,
          foldlM_put_perm _ _ _ (hperm.filterMap (bin? float c))]

/-! ## With the values of the constructor, and no rounding -/

theorem initial_range_max : 0 ≤ Config.initial.range_max id + 1 := by
  show (0 : ℝ) ≤ ((10 : ℚ) : ℝ) + 1
  norm_num

theorem initial_increment : 0 < Config.initial.angle_increment id := by
  show (0 : ℝ) < Real.pi * ((1 / 360 : ℚ) : ℝ)
  have hpi := Real.pi_pos
  positivity

/-- 360 increments of half a degree. -/
theorem initial_whole :
    Config.initial.angle_max id - Config.initial.angle_min id
      = (360 : ℕ) * Config.initial.angle_increment id := by
  show Real.pi * ((1 / 2 : ℚ) : ℝ) - -(Real.pi * ((1 / 2 : ℚ) : ℝ))
    = ((360 : ℕ) : ℝ) * (Real.pi * ((1 / 360 : ℚ) : ℝ))
  push_cast
  ring

/-- The quotient that gives the row its length. -/
theorem initial_quotient :
    (Config.initial.angle_max id - Config.initial.angle_min id) / Config.initial.angle_increment id
      = (360 : ℕ) := by
  rw [initial_whole, mul_div_cancel_right₀ _ initial_increment.ne']

theorem initial_ranges_size : Config.initial.ranges_size id = some 360 := by
  unfold Config.ranges_size
  simp only [id_eq, initial_quotient, Nat.ceil_natCast, Int.ceil_natCast]
  rw [if_pos ⟨initial_increment.ne', by norm_num, by norm_num⟩]

/-- A point a metre ahead, and one a metre to the left, both in the band of heights. -/
def ahead : Point := ⟨some 0, some (-(12 / 100 : ℚ) : ℚ), some 1⟩

def left : Point := ⟨some (-1), some (-(12 / 100 : ℚ) : ℚ), some 0⟩

theorem measure_point (x y z : ℝ) (hheight : c.min_height_ ≤ -y ∧ -y ≤ c.max_height_)
    (hnear : c.range_min_sq_ ≤ z * z + x * x)
    (haside : c.angle_min float ≤ -atan2 x z ∧ -atan2 x z ≤ c.angle_max float) :
    measure float c ⟨some x, some y, some z⟩ = some (z * z + x * x, -atan2 x z) := by
  unfold measure
  dsimp only
  rw [if_neg (not_or.mpr ⟨not_lt.mpr hheight.2, not_lt.mpr hheight.1⟩),
    if_neg (not_lt.mpr hnear), if_neg (not_or.mpr ⟨not_lt.mpr haside.1, not_lt.mpr haside.2⟩)]

/-- The band of heights and the least range, for the two points. -/
theorem initial_admits :
    (Config.initial.min_height_ ≤ -((-(12 / 100 : ℚ) : ℚ) : ℝ)
        ∧ -((-(12 / 100 : ℚ) : ℚ) : ℝ) ≤ Config.initial.max_height_)
      ∧ Config.initial.range_min_sq_ ≤ 1 := by
  have hmin : Config.initial.min_height_ = ((1 / 10 : ℚ) : ℝ) := rfl
  have hmax : Config.initial.max_height_ = ((15 / 100 : ℚ) : ℝ) := rfl
  have hrange : Config.initial.range_min_sq_ = ((45 / 100 : ℚ) : ℝ) * ((45 / 100 : ℚ) : ℝ) := rfl
  rw [hmin, hmax, hrange]
  norm_num

theorem measure_ahead : measure id Config.initial ahead = some (1, 0) := by
  obtain ⟨hheight, hnear⟩ := initial_admits
  have hangle : -atan2 0 1 = 0 := by
    have harg : atan2 0 1 = Complex.arg 1 := rfl
    rw [harg, Complex.arg_one, neg_zero]
  have hlimits : Config.initial.angle_min id ≤ 0 ∧ 0 ≤ Config.initial.angle_max id := by
    have hmax : 0 ≤ Real.pi * ((1 / 2 : ℚ) : ℝ) := by
      have hpi := Real.pi_pos
      positivity
    exact ⟨neg_nonpos.mpr hmax, hmax⟩
  have hpoint := measure_point id Config.initial 0 _ 1 hheight (by simpa using hnear)
    (by rw [hangle]; exact hlimits)
  have hsq : (1 : ℝ) * 1 + 0 * 0 = 1 := by norm_num
  rw [hangle, hsq] at hpoint
  exact hpoint

theorem seen_ahead : Seen id Config.initial ahead 180 1 := by
  refine ⟨1, 0, measure_ahead, ?_, by rw [Real.sqrt_one]⟩
  have hmin : (0 - Config.initial.angle_min id)
      = (180 : ℕ) * Config.initial.angle_increment id := by
    show 0 - -(Real.pi * ((1 / 2 : ℚ) : ℝ)) = ((180 : ℕ) : ℝ) * (Real.pi * ((1 / 360 : ℚ) : ℝ))
    push_cast
    ring
  unfold index
  rw [hmin, mul_div_cancel_right₀ _ initial_increment.ne', Nat.floor_natCast]

/-- A scan of the point ahead: a metre, at index 180. -/
theorem callback_nearest_ahead :
    ∃ scan, callback id Config.initial [ahead] = some scan ∧ scan.ranges.length = 360
      ∧ scan.ranges[180]? = some 1 := by
  -- only one direction is seen, at one range
  have honly : ∀ p ∈ [ahead], ∀ i r, Seen id Config.initial p i r → i = 180 ∧ r = 1 := by
    intro p hp i r hseen
    obtain rfl := List.mem_singleton.mp hp
    have hsame := ((bin?_eq_some_iff _ _ _ _ _).mpr hseen).symm.trans
      ((bin?_eq_some_iff _ _ _ _ _).mpr seen_ahead)
    exact Prod.mk.inj (Option.some.inj hsame)
  obtain ⟨hscans, hscanned, -⟩ := callback_nearest id Config.initial initial_range_max [ahead]
  obtain ⟨scan, hscan⟩ := hscanned 360 initial_ranges_size (fun p hp i r hseen => by
    obtain ⟨rfl, -⟩ := honly p hp i r hseen
    decide)
  obtain ⟨hsize, hleast⟩ := hscans scan hscan
  have hlength : scan.ranges.length = 360 :=
    Option.some.inj (hsize.symm.trans initial_ranges_size)
  have hi : 180 < scan.ranges.length := by omega
  refine ⟨scan, hscan, hlength, ?_⟩
  rw [List.getElem?_eq_getElem hi]
  congr 1
  obtain ⟨hmem, hlower⟩ := hleast 180 hi
  rcases hmem with hfar | ⟨p, hp, hseen⟩
  · -- eleven metres is not the least
    have hle : scan.ranges[180] ≤ 1 :=
      hlower (Or.inr ⟨ahead, List.mem_singleton.mpr rfl, seen_ahead⟩)
    have hmax : Config.initial.range_max id = ((10 : ℚ) : ℝ) := rfl
    rw [hfar, hmax] at hle
    norm_num at hle
  · exact (honly p hp _ _ hseen).2

/-! ## Behind the end of the row -/

end Sonar3D.CloudToScan
