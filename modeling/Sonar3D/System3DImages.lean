/-
The images of `system3D` against those of `img3D`.

The two nodes do not put a cloud at the same angle, but what they publish differs
by nothing else. For the same messages, dispatched in the same turns, each image of
`system3D` is the image of `img3D` turned about the axis -- by how much depends on
the position, `180/pi - 1` times it -- so heights, radii and the distances within
an image are the same. That needs every report to be short of the goal, where
`system3D` stops taking clouds; with the limits of `tilt.yaml` every report is.
-/
import Sonar3D.Img3DPairing
import Sonar3D.System3DScan

set_option autoImplicit false

namespace Sonar3D.System3D

open Sonar3D.Hold

/-- The matrix of a position in `system3D`; zero before the first report. -/
noncomputable def matrixOf : Option ℝ → Matrix4f
  | none => 0
  | some a => rotationMatrix (a * ((180 : ℤ) / pi))

/-- By how much the images of a position differ: by the difference of the position in
degrees and in radians, taken as an angle. Before the first report there is nothing to
turn. -/
noncomputable def excess : Option ℝ → ℝ
  | none => 0
  | some a => ((180 : ℤ) / pi - 1) * a

/-- The image of `img3D`, turned about the axis by the excess of the position. -/
noncomputable def turned (image : PointCloud) (p : Option ℝ) : PointCloud :=
  transformPointCloud image (rotationMatrix (excess p))

/-- The position held at the start of each turn, `p` before the first of them. -/
def positions (p : Option ℝ) : List (List Callback) → List (Option ℝ)
  | [] => []
  | queued :: spins => p :: positions (held Img3D.Callback.position? p queued) spins

/-- The node holds the cloud `c` and the matrix of the position `p`, and takes
clouds. -/
structure Holds (s : State) (c : PointCloud) (p : Option ℝ) : Prop where
  cloud : s.cloud_sonar = c
  matrix : s.transformationMatrix = matrixOf p
  scanning : Scanning s

theorem Holds.initial : Holds State.initial [] none := by
  refine ⟨rfl, rfl, ?_⟩
  unfold Scanning State.initial goal
  norm_num

/-- With reports short of the goal, the registers are those of `img3D`. -/
theorem Holds.spinOnce {s : State} {c : PointCloud} {p : Option ℝ} (h : Holds s c p)
    (cbs : List Callback) (hgrid : ∀ msg, .servo msg ∈ cbs → Admissible msg.current_pos) :
    Holds (spinOnce s cbs) (held Img3D.Callback.cloud? c cbs)
      (held Img3D.Callback.position? p cbs) := by
  induction cbs generalizing s c p with
  | nil => exact h
  | cons cb cbs ih =>
      rw [held_cons, held_cons]
      apply ih _ (fun msg hmsg => hgrid msg (List.mem_cons_of_mem cb hmsg))
      cases cb with
      | sonar msg =>
          have hdispatch : dispatch s (.sonar msg) = { s with cloud_sonar := msg } :=
            if_pos h.scanning
          rw [hdispatch]
          exact ⟨rfl, h.matrix, h.scanning⟩
      | servo msg =>
          -- not at the goal yet
          have hshort := (hgrid msg List.mem_cons_self).lt_goal
          exact ⟨h.cloud, rfl, hshort.ne⟩

/-- The one image is the other one turned by the difference of the angles. -/
theorem Holds.receive {s : State} {c : PointCloud} {p : Option ℝ} (h : Holds s c p) :
    receive s = turned (transformPointCloud c (Img3D.matrixOf p)) p := by
  unfold System3D.receive turned
  rw [h.cloud, h.matrix]
  cases p with
  | none =>
      -- both matrices are zero, and the origin stays where it is
      unfold matrixOf Img3D.matrixOf transformPointCloud excess
      rw [List.map_map]
      apply List.map_congr_left
      intro q _
      rw [Function.comp_apply, transformPoint_zero, transformPoint_rotationMatrix]
      simp [PlanarRotation.rotX, PlanarRotation.rotY, PointXYZ.origin]
  | some a =>
      have hangle : excess (some a) + a = a * ((180 : ℤ) / pi) := by
        unfold excess
        ring
      unfold matrixOf Img3D.matrixOf transformPointCloud
      rw [List.map_map]
      apply List.map_congr_left
      intro q _
      rw [Function.comp_apply, transformPoint_rotation_add, hangle]

/-- Turn by turn, from any moment of a scan. -/
theorem Holds.scanLoop {n : Scan} {c : PointCloud} {p : Option ℝ} (h : Holds n.globals c p)
    (spins : List (List Callback))
    (hgrid : ∀ queued ∈ spins, ∀ msg, .servo msg ∈ queued → Admissible msg.current_pos) :
    (scanLoop n spins).1.published
      = n.published ++ List.zipWith turned (Img3D.samples c p spins) (positions p spins) := by
  induction spins generalizing n c p with
  | nil => exact (List.append_nil _).symm
  | cons queued spins ih =>
      have hspin := h.spinOnce queued (hgrid queued List.mem_cons_self)
      have hpub := ih (n := n.iterate queued) hspin
        (fun q hq => hgrid q (List.mem_cons_of_mem queued hq))
      unfold System3D.scanLoop
      rw [if_pos h.scanning, hpub]
      show (n.published ++ [System3D.receive n.globals]) ++ _ = _
      rw [h.receive, List.append_assoc]
      rfl

/-- In every scan of `system3D` from its start, the images it publishes are those that
`img3D` publishes in the same turns of the same messages, each turned about the axis by
`180/pi - 1` times the position held in that turn, for every list of spins whose
reports are positions of the servo. -/
theorem scan_images_turned (spins : List (List Callback))
    (hgrid : ∀ queued ∈ spins, ∀ msg, .servo msg ∈ queued → Admissible msg.current_pos) :
    (scanLoop (beginScan State.initial) spins).1.published
      = List.zipWith turned (Img3D.samples [] none spins) (positions none spins) := by
  have hstart : Holds (beginScan State.initial).globals [] none := by
    unfold beginScan
    dsimp only
    split <;> exact Holds.initial
  have hnone : (beginScan State.initial).published = [] := by
    unfold beginScan
    dsimp only
    split <;> rfl
  rw [hstart.scanLoop spins hgrid, hnone, List.nil_append]

/-- A cloud and a report of a quarter turn, and one more turn of the loop. -/
noncomputable def quarterSpins : List (List Callback) :=
  [[.sonar [⟨1, 0, 0⟩], .servo ⟨position 1024, goal, 0, true⟩], []]

theorem scan_images_turned_quarter :
    (scanLoop (beginScan State.initial) quarterSpins).1.published
      = [[], turned [transformPoint (rotationMatrix (position 1024)) ⟨1, 0, 0⟩]
          (some (position 1024))] := by
  refine (scan_images_turned quarterSpins ?_).trans rfl
  intro queued hqueued msg hmsg
  unfold quarterSpins at hqueued
  rcases List.mem_pair.mp hqueued with rfl | rfl
  · rcases List.mem_pair.mp hmsg with hcloud | hreport
    · exact absurd hcloud (by simp)
    · rw [Img3D.Callback.servo.inj hreport]
      exact ⟨1024, by norm_num, rfl⟩
  · simp at hmsg

end Sonar3D.System3D
