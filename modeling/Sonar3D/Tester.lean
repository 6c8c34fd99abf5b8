/-
The node `tester`: a cloud to try the other nodes with.

`tester.cpp` publishes on `cloud_test`, the topic `img3D` and `system3D` listen
to, until a key is pressed. Every cloud is the same right angle of two walls, a
floor a hundred metres below the sonar and a wall a hundred metres beside it,
each point of which a throw of `rand()` moves away by a metre or not.

`rand()` is a parameter: `rand n` is what its `n`-th call returns. The coordinates
are assigned from `int`s, so they are integers here, and a `pcl::PointXYZ` is zero
when it is declared; `y` is not assigned to, and stays zero.
-/
import Sonar3D.KeyLoop
import Sonar3D.SonarKeys

set_option autoImplicit false

namespace Sonar3D.Tester

open Sonar3D.KeyLoop

/-! ## One cloud -/

/-- A `pcl::PointXYZ` with the coordinates this node gives it. -/
@[ext] structure TestPoint where
  x : ℤ
  y : ℤ
  z : ℤ
deriving DecidableEq

def TestPoint.point (p : TestPoint) : PointXYZ := ⟨p.x, p.y, p.z⟩

/-- What the two loops work on: the calls of `rand()` made, the variable
`test_points`, which both reuse, and the cloud so far. -/
structure Build where
  calls : ℕ
  test_points : TestPoint
  temp_data_cloud : List TestPoint

def Build.push (b : Build) (p : TestPoint) : Build where
  calls := b.calls + 1
  test_points := p
  temp_data_cloud := b.temp_data_cloud ++ [p]

variable (rand : ℕ → ℕ)

/-- `rand()%2`. -/
def dice_roll (n : ℕ) : ℤ := (rand n % 2 : ℕ)

/-- The first loop body: the floor, from left to right. -/
def floorStep (b : Build) (i : ℕ) : Build :=
  b.push { b.test_points with x := i, z := -100 - dice_roll rand b.calls }

/-- The second one: the wall, from the top down. -/
def wallStep (b : Build) (i : ℕ) : Build :=
  b.push { b.test_points with z := -i, x := 100 + dice_roll rand b.calls }

/-- Both loops, one after the other. -/
def buildCloud (calls : ℕ) (test_points : TestPoint) : Build :=
  (List.range 101).foldl (wallStep rand)
    ((List.range 101).foldl (floorStep rand) ⟨calls, test_points, []⟩)

/-! ## `main` -/

/-- What the body of `while(!kbhit())` works on. -/
structure Vars where
  calls : ℕ
  test_points : TestPoint
  published : List (List TestPoint)

def Vars.initial : Vars := ⟨0, ⟨0, 0, 0⟩, []⟩

/-- The body: a cloud, published. -/
def body (v : Vars) : Vars :=
  let b := buildCloud rand v.calls v.test_points
  { calls := b.calls
    test_points := b.test_points
    published := v.published ++ [b.temp_data_cloud] }

/-- `main`, over the keys pressed before each poll. -/
def run (its : List (List Char)) : Loop Char Vars :=
  its.foldl (Loop.step Sonar.kbhit id (fun v _ => body rand v)) (Loop.start Vars.initial)

/-! ## The loops in closed form -/

/-- The cloud made from the throws `calls`, `calls + 1`, .. -/
def testCloud (calls : ℕ) : List TestPoint :=
  (List.range 101).map (fun i => ⟨i, 0, -100 - dice_roll rand (calls + i)⟩)
    ++ (List.range 101).map (fun i => ⟨100 + dice_roll rand (calls + 101 + i), 0, -i⟩)

/-- A loop that pushes a point for each turn, made of the turn and of the number
of calls before it, is a map. The `y` of the variable goes with it. -/
theorem foldl_push (f : Build → ℕ → Build) (point : ℕ → ℕ → ℤ → TestPoint)
    (hf : ∀ b i, f b i = b.push (point b.calls i b.test_points.y))
    (hy : ∀ calls i y, (point calls i y).y = y) (b : Build) (n : ℕ) :
    ((List.range n).foldl f b).calls = b.calls + n
      ∧ ((List.range n).foldl f b).test_points.y = b.test_points.y
      ∧ ((List.range n).foldl f b).temp_data_cloud
          = b.temp_data_cloud
            ++ (List.range n).map (fun i => point (b.calls + i) i b.test_points.y) := by
  induction n with
  | zero => simp
  | succ n ih =>
      obtain ⟨hcalls, hkeep, hcloud⟩ := ih
      rw [List.range_succ, List.foldl_append, List.foldl_cons, List.foldl_nil, hf]
      refine ⟨?_, ?_, ?_⟩
      · simp only [Build.push, hcalls]
        omega
      · simp only [Build.push, hy, hkeep]
      · simp only [Build.push, hcalls, hkeep, hcloud, List.map_append, List.map_cons,
          List.map_nil, List.append_assoc]

theorem buildCloud_spec (calls : ℕ) (p : TestPoint) (hp : p.y = 0) :
    (buildCloud rand calls p).calls = calls + 202
      ∧ (buildCloud rand calls p).test_points.y = 0
      ∧ (buildCloud rand calls p).temp_data_cloud = testCloud rand calls := by
  obtain ⟨hcalls, hy, hcloud⟩ := foldl_push (floorStep rand)
    (fun calls i y => ⟨i, y, -100 - dice_roll rand calls⟩) (fun _ _ => rfl) (fun _ _ _ => rfl)
    ⟨calls, p, []⟩ 101
  obtain ⟨hcalls', hy', hcloud'⟩ := foldl_push (wallStep rand)
    (fun calls i y => ⟨100 + dice_roll rand calls, y, -i⟩) (fun _ _ => rfl) (fun _ _ _ => rfl)
    ((List.range 101).foldl (floorStep rand) ⟨calls, p, []⟩) 101
  rw [hp] at hy hcloud
  refine ⟨?_, hy'.trans hy, ?_⟩
  · rw [buildCloud, hcalls', hcalls]
  · rw [buildCloud, hcloud', hcloud, hcalls, hy, List.nil_append]
    rfl

/-! ## What a cloud is like -/

/-- The right angle: the floor, at most a metre deeper than it should be, or the
wall, at most a metre further. -/
def OnCorner (p : TestPoint) : Prop :=
  p.y = 0 ∧ ((0 ≤ p.x ∧ p.x ≤ 100 ∧ (p.z = -100 ∨ p.z = -101))
    ∨ (-100 ≤ p.z ∧ p.z ≤ 0 ∧ (p.x = 100 ∨ p.x = 101)))

theorem dice_roll_cases (n : ℕ) : dice_roll rand n = 0 ∨ dice_roll rand n = 1 := by
  unfold dice_roll
  omega

theorem onCorner_of_mem (calls : ℕ) (p : TestPoint) (hp : p ∈ testCloud rand calls) :
    OnCorner p := by
  unfold testCloud at hp
  rcases List.mem_append.mp hp with h | h
  · obtain ⟨i, hi, rfl⟩ := List.mem_map.mp h
    have hlt := List.mem_range.mp hi
    have hroll := dice_roll_cases rand (calls + i)
    refine ⟨rfl, Or.inl ?_⟩
    dsimp only
    omega
  · obtain ⟨i, hi, rfl⟩ := List.mem_map.mp h
    have hlt := List.mem_range.mp hi
    have hroll := dice_roll_cases rand (calls + 101 + i)
    refine ⟨rfl, Or.inr ?_⟩
    dsimp only
    omega

/-- No point is further from the sonar's axis than 101 metres, or deeper. -/
theorem OnCorner.bounds (p : TestPoint) (h : OnCorner p) :
    p.point.x ^ 2 + p.point.y ^ 2 ≤ 101 ^ 2 ∧ -101 ≤ p.point.z ∧ p.point.z ≤ 0 := by
  obtain ⟨hy, hxz⟩ := h
  have hx : 0 ≤ p.x ∧ p.x ≤ 101 := by omega
  have hz : -101 ≤ p.z ∧ p.z ≤ 0 := by omega
  have hxr : (0 : ℝ) ≤ p.x ∧ (p.x : ℝ) ≤ 101 := by exact_mod_cast hx
  have hzr : (-101 : ℝ) ≤ p.z ∧ (p.z : ℝ) ≤ 0 := by exact_mod_cast hz
  have hsq : (p.x : ℝ) ^ 2 ≤ 101 ^ 2 := pow_le_pow_left₀ hxr.1 hxr.2 2
  refine ⟨?_, hzr.1, hzr.2⟩
  show (p.x : ℝ) ^ 2 + (p.y : ℝ) ^ 2 ≤ 101 ^ 2
  rw [hy, Int.cast_zero]
  simpa using hsq

/-! ## The run -/

/-- How many polls come before the first one that finds a key. -/
def quietPolls (its : List (List Char)) : ℕ := (quiet id its).length

theorem body_spec (v : Vars) (hy : v.test_points.y = 0) :
    (body rand v).test_points.y = 0 ∧ (body rand v).calls = v.calls + 202
      ∧ (body rand v).published = v.published ++ [testCloud rand v.calls] := by
  obtain ⟨hcalls, hy', hcloud⟩ := buildCloud_spec rand v.calls v.test_points hy
  refine ⟨hy', hcalls, ?_⟩
  unfold body
  dsimp only
  rw [hcloud]

/-- As many clouds as iterations, each from the next 202 throws. -/
theorem foldl_body (v : Vars) (its : List (List Char)) (hy : v.test_points.y = 0) :
    (its.foldl (fun v _ => body rand v) v).published
      = v.published
        ++ (List.range its.length).map (fun k => testCloud rand (v.calls + 202 * k)) := by
  induction its generalizing v with
  | nil => simp
  | cons keys its ih =>
      obtain ⟨hy', hcalls, hpub⟩ := body_spec rand v hy
      have hshift : ∀ k, v.calls + 202 + 202 * k = v.calls + 202 * (k + 1) := by
        intro k
        omega
      rw [List.foldl_cons, ih (body rand v) hy', hpub, hcalls, List.length_cons,
        List.range_succ_eq_map, List.map_cons, List.map_map, List.append_assoc]
      simp only [hshift]
      rfl

theorem run_published (its : List (List Char)) :
    (run rand its).vars.published
      = (List.range (quietPolls its)).map (fun k => testCloud rand (202 * k)) := by
  have hvars := (run_spec id (fun v _ => body rand v) Sonar.kbhit_spec Vars.initial its).2
  unfold run
  rw [hvars, foldl_body rand Vars.initial _ rfl]
  simp [Vars.initial, quietPolls]

/-- `tester` publishes one cloud for every poll before the first key and none
after, whatever is pressed when: cloud `k` is the right angle made from the throws
`202 k` to `202 k + 201`, and the loop is left exactly when a key has been
pressed. -/
theorem run_publishes (its : List (List Char)) :
    ((run rand its).finished = true ↔ ∃ keys ∈ its, keys ≠ [])
      ∧ (run rand its).vars.published
          = (List.range (quietPolls its)).map (fun k => testCloud rand (202 * k))
      ∧ ∀ cloud ∈ (run rand its).vars.published,
          cloud.length = 202 ∧ ∀ p ∈ cloud, OnCorner p := by
  refine ⟨(run_spec id (fun v _ => body rand v) Sonar.kbhit_spec Vars.initial its).1,
    run_published rand its, ?_⟩
  intro cloud hcloud
  rw [run_published] at hcloud
  obtain ⟨k, -, rfl⟩ := List.mem_map.mp hcloud
  refine ⟨?_, onCorner_of_mem rand (202 * k)⟩
  unfold testCloud
  rw [List.length_append, List.length_map, List.length_map, List.length_range]

end Sonar3D.Tester
