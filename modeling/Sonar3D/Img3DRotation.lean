/-
When a publication of `img3D` is a rotation of the sonar cloud.

`transformationMatrix` is a global that only `servoCallback` writes, and the
loop publishes before its first `spinOnce`. Once a report has been handled the
matrix is a rotation about Z for good, and rotating keeps heights, distances to
the axis and distances between points. Before that the matrix is zero, every
point is published at the origin, and the published cloud has the shape of the
sonar cloud only if that cloud is all at the origin too. The two halves meet in
`publication_rigid_iff`.
-/
import Sonar3D.Img3DPairing

set_option autoImplicit false

namespace Sonar3D.Img3D

open Sonar3D.CallbackQueue Sonar3D.Hold

/-- `m` is a rotation about the Z axis. -/
def IsRotationZ (m : Matrix4f) : Prop := ∃ a, m = rotationMatrix a

/-- `pub` has the shape of `source`, point by point: same height, same distance
to the Z axis, same distances between points. -/
structure RigidAboutZ (source pub : PointCloud) : Prop where
  length_eq : pub.length = source.length
  points : ∀ pq ∈ source.zip pub, SameHeightAndRadius pq.2 pq.1
  distances : ∀ pq ∈ source.zip pub, ∀ pq' ∈ source.zip pub,
    distSq pq.2 pq'.2 = distSq pq.1 pq'.1

theorem mem_zip_transform (m : Matrix4f) (cloud : PointCloud) (pq : PointXYZ × PointXYZ) :
    pq ∈ cloud.zip (transformPointCloud cloud m) ↔ ∃ p ∈ cloud, (p, transformPoint m p) = pq := by
  have hzip : cloud.zip (transformPointCloud cloud m)
      = cloud.map (fun p => (p, transformPoint m p)) := by
    have h : (cloud.map id).zip (cloud.map (transformPoint m))
        = cloud.map (fun p => (p, transformPoint m p)) := List.zip_map'
    rwa [List.map_id] at h
  rw [hzip, List.mem_map]

theorem rigid_rotation (a : ℝ) (cloud : PointCloud) :
    RigidAboutZ cloud (transformPointCloud cloud (rotationMatrix a)) where
  length_eq := List.length_map _
  points := by
    intro pq hpq
    obtain ⟨p, -, rfl⟩ := (mem_zip_transform _ _ _).mp hpq
    exact rotation_sameHeightAndRadius a p
  distances := by
    intro pq hpq pq' hpq'
    obtain ⟨p, -, rfl⟩ := (mem_zip_transform _ _ _).mp hpq
    obtain ⟨p', -, rfl⟩ := (mem_zip_transform _ _ _).mp hpq'
    exact rotation_distSq a p p'

/-- Under the zero matrix only a cloud at the origin keeps its shape. -/
theorem rigid_zero_iff (cloud : PointCloud) :
    RigidAboutZ cloud (transformPointCloud cloud 0) ↔ ∀ p ∈ cloud, p = PointXYZ.origin := by
  constructor
  · intro h p hp
    have hmem : (p, transformPoint 0 p) ∈ cloud.zip (transformPointCloud cloud 0) :=
      (mem_zip_transform _ _ _).mpr ⟨p, hp, rfl⟩
    have hsame := h.points _ hmem
    rw [transformPoint_zero] at hsame
    exact (sameHeightAndRadius_origin_iff p).mp hsame
  · intro h
    refine ⟨List.length_map _, ?_, ?_⟩
    · intro pq hpq
      obtain ⟨p, hp, rfl⟩ := (mem_zip_transform _ _ _).mp hpq
      rw [transformPoint_zero, h p hp]
      exact (sameHeightAndRadius_origin_iff _).mpr rfl
    · intro pq hpq pq' hpq'
      obtain ⟨p, hp, rfl⟩ := (mem_zip_transform _ _ _).mp hpq
      obtain ⟨p', hp', rfl⟩ := (mem_zip_transform _ _ _).mp hpq'
      rw [transformPoint_zero, transformPoint_zero, h p hp, h p' hp']

theorem not_isRotationZ_zero : ¬ IsRotationZ 0 := by
  rintro ⟨a, h⟩
  -- the lower right entry of a rotation is one
  have hentry : (0 : Matrix4f) 3 3 = rotationMatrix a 3 3 := by rw [h]
  simp [rotationMatrix] at hentry

/-- A position is known exactly once a report has been handled. -/
theorem lastPosition_cases (cbs : List Callback) :
    ((∃ r, .servo r ∈ cbs) ∧ ∃ a, lastPosition cbs = some a)
      ∨ ((¬ ∃ r, .servo r ∈ cbs) ∧ lastPosition cbs = none) := by
  rcases held_eq_or_exists Callback.position? none cbs with hnone | ⟨cb, hmem, hcb⟩
  · right
    refine ⟨?_, held_of_none _ _ _ hnone⟩
    rintro ⟨r, hr⟩
    have hwrite := hnone _ hr
    simp [Callback.position?] at hwrite
  · left
    cases cb with
    | sonar msg => simp [Callback.position?] at hcb
    | servo r =>
        refine ⟨⟨r, hmem⟩, r.current_pos, ?_⟩
        unfold lastPosition
        simp only [Callback.position?, Option.some.injEq] at hcb
        exact hcb.symm

/-- **The publication after `es`.** It shows the current cloud; the matrix
applied is a rotation about Z if and only if a report has been handled; and the
points keep their heights and distances if and only if a report has been
handled or the whole current cloud is at the origin. -/
theorem publication_rigid_iff (es : List Event) :
    published (es ++ [.iterate]) = published es ++ [receive (run es).globals]
      ∧ (IsRotationZ (run es).globals.transformationMatrix ↔ ∃ r, .servo r ∈ handled es)
      ∧ (RigidAboutZ (run es).globals.cloud_points (receive (run es).globals) ↔
          (∃ r, .servo r ∈ handled es)
            ∨ ∀ p ∈ (run es).globals.cloud_points, p = PointXYZ.origin) := by
  obtain ⟨-, hmatrix⟩ := run_globals es
  have hpub : published (es ++ [.iterate]) = published es ++ [receive (run es).globals] := by
    unfold published
    rw [iterations_iterate, List.map_append]
    rfl
  refine ⟨hpub, ?_⟩
  unfold receive
  rw [hmatrix]
  rcases lastPosition_cases (handled es) with ⟨hreport, a, ha⟩ | ⟨hreport, hnone⟩
  · rw [ha]
    exact ⟨iff_of_true ⟨a, rfl⟩ hreport, iff_of_true (rigid_rotation a _) (Or.inl hreport)⟩
  · -- no report yet: the matrix is what static storage left there
    rw [hnone]
    refine ⟨iff_of_false not_isRotationZ_zero hreport, ?_⟩
    rw [or_iff_right hreport]
    exact rigid_zero_iff _

/-- The sonar has delivered, the servo has not. -/
noncomputable def unreportedRun : List Event := [.arrive (cloudAt 1), .iterate]

/-- The next publication puts the point `(1, 0, 0)` at the origin. -/
theorem unreportedRun_not_rigid :
    published (unreportedRun ++ [.iterate]) = [[], [PointXYZ.origin]]
      ∧ (run unreportedRun).globals.cloud_points = [⟨1, 0, 0⟩]
      ∧ ¬ IsRotationZ (run unreportedRun).globals.transformationMatrix
      ∧ ¬ RigidAboutZ (run unreportedRun).globals.cloud_points
          (receive (run unreportedRun).globals) := by
  have hcloud : (run unreportedRun).globals.cloud_points = [⟨1, 0, 0⟩] := rfl
  have hmatrix : (run unreportedRun).globals.transformationMatrix = 0 := rfl
  have hpub : published (unreportedRun ++ [.iterate]) = [[], [transformPoint 0 ⟨1, 0, 0⟩]] := by
    rw [published_eq_samples]
    rfl
  refine ⟨?_, hcloud, ?_, ?_⟩
  · rw [hpub, transformPoint_zero]
  · rw [hmatrix]
    exact not_isRotationZ_zero
  · unfold receive
    rw [hmatrix, rigid_zero_iff, hcloud]
    simp [PointXYZ.origin]

end Sonar3D.Img3D
