/-
A scan in lock step, from `g` to the file.

Nothing in the network keeps the nodes in step, so what a scan leaves in the file
depends on the rates; but there is a pace at which it is what the system is for.
In a `round` a cloud and a report reach `img3D` before it turns twice, so that the
second turn publishes the one under the other, and the image reaches `testfinal`
before the report does. A scan of such rounds, with angles that `testfinal` records
and that do not end the scan, saves every cloud once, in order, each turned by its own
report, and nothing else: whatever the clouds are, and however many.

This is the body of the loop of `testfinal`, turn after turn. The program as it stands
leaves the loop behind the turn of `g`: the exit is left aside here, as it is in the
network.
-/
import Sonar3D.Graph
import Sonar3D.TestfinalCloud

set_option autoImplicit false

namespace Sonar3D.Graph

open Sonar3D.CallbackQueue

/-- Nothing in flight and nothing waiting. -/
structure Idle (n : Network) : Prop where
  cloud_test : n.cloud_test = []
  reportsToImg3D : n.reportsToImg3D = []
  Img_transformada : n.Img_transformada = []
  reportsToTestfinal : n.reportsToTestfinal = []
  queue : n.img3D.queue.items = []
  waiting : n.waiting.items = []

/-- One cloud and one report, through both nodes: `img3D` has both when it turns twice,
and what it publishes reaches `testfinal` before the report. -/
def round (msg : JointState ℚ) (cloud : PointCloud) : List Event :=
  [.publishCloud cloud, .deliver .cloud_test, .report msg, .deliver .reportsToImg3D,
    .turnImg3D, .turnImg3D, .deliver .Img_transformada, .deliver .Img_transformada,
    .deliver .reportsToTestfinal, .turnTestfinal]

/-- The image of a round. -/
noncomputable def turned (msg : JointState ℚ) (cloud : PointCloud) : PointCloud :=
  transformPointCloud cloud (rotationMatrix (msg.current_pos : ℝ))

/-- What `testfinal` gets in a round: the image `img3D` published before, the one of
the round, and the report. -/
theorem round_testfinal (n : Network) (h : Idle n) (msg : JointState ℚ) (cloud : PointCloud) :
    ((round msg cloud).foldl Network.step n).testfinal
        = Testfinal.body n.testfinal
            [.sonar (Img3D.receive n.img3D.globals), .sonar (turned msg cloud), .servo msg]
      ∧ Idle ((round msg cloud).foldl Network.step n) := by
  obtain ⟨⟨globals, ⟨items, within⟩, iterations⟩, testfinal, ⟨waiting, within'⟩, ct, ri, it, rt⟩ := n
  obtain ⟨h1, h2, h3, h4, h5, h6⟩ := h
  dsimp only at h1 h2 h3 h4 h5 h6
  subst h1 h2 h3 h4 h5 h6
  exact ⟨rfl, rfl, rfl, rfl, rfl, rfl, rfl⟩

/-! ## The scan -/

/-- The angles of a scan: in the window, and not past its end. -/
def InScan (msg : JointState ℚ) : Prop :=
  Testfinal.InWindow (Testfinal.degrees msg) ∧ Testfinal.degrees msg ≤ 358

instance (msg : JointState ℚ) : Decidable (InScan msg) := inferInstanceAs (Decidable (_ ∧ _))

/-- In a scan that goes on, with `cloud` recorded, `stdin` not read and `output`
sent out so far. -/
structure Recording (cloud : PointCloud) (stdin : List Char)
    (output : List (Testfinal.Output PointXYZ)) (n : Network) : Prop where
  idle : Idle n
  scan : n.testfinal.scan = 1
  angle : ¬ n.testfinal.ang_servo > 358
  cloud : n.testfinal.cloud = cloud
  stdin : n.testfinal.stdin = stdin
  output : n.testfinal.output = output

variable {cloud : PointCloud} {stdin : List Char} {output : List (Testfinal.Output PointXYZ)}
  {n : Network}

/-- A turn in a scan only spins. -/
theorem Recording.body (h : Recording cloud stdin output n)
    (queued : List (Testfinal.Callback PointXYZ)) :
    Testfinal.body n.testfinal queued = Testfinal.spinOnce n.testfinal queued := by
  rw [Testfinal.body_of_scan_eq _ _ h.scan, Testfinal.scanBranch_of_le _ _ h.angle]

/-- A round records its image, once. -/
theorem Recording.round (h : Recording cloud stdin output n) (msg : JointState ℚ)
    (c : PointCloud) (hmsg : InScan msg) :
    Recording (cloud ++ turned msg c) stdin output ((round msg c).foldl Network.step n) := by
  obtain ⟨htestfinal, hidle⟩ := round_testfinal n h.idle msg c
  rw [h.body] at htestfinal
  obtain ⟨hscan, -, hstdin, houtput⟩ := Testfinal.spinOnce_frame n.testfinal
    [.sonar (Img3D.receive n.img3D.globals), .sonar (turned msg c), .servo msg]
  refine ⟨hidle, ?_, ?_, ?_, ?_, ?_⟩
  · rw [htestfinal, hscan, h.scan]
  · rw [htestfinal, Testfinal.spinOnce_ang_servo]
    -- the report is the only one of the round
    exact not_lt.mpr hmsg.2
  · rw [htestfinal, Testfinal.spinOnce_cloud, h.cloud]
    simp [Testfinal.recorded, Hold.triggered, Testfinal.Callback.cloud?,
      Testfinal.Callback.records, hmsg.1]
  · rw [htestfinal, hstdin, h.stdin]
  · rw [htestfinal, houtput, h.output]

/-- Rounds one after the other, by induction on them. -/
theorem Recording.rounds (h : Recording cloud stdin output n)
    (rounds : List (JointState ℚ × PointCloud)) (hmsgs : ∀ r ∈ rounds, InScan r.1) :
    Recording (cloud ++ rounds.flatMap (fun r => turned r.1 r.2)) stdin output
      ((rounds.flatMap (fun r => Graph.round r.1 r.2)).foldl Network.step n) := by
  induction rounds generalizing cloud n with
  | nil => simpa using h
  | cons r rounds ih =>
      have hround := h.round r.1 r.2 (hmsgs r List.mem_cons_self)
      have hrest := ih hround (fun r' hr' => hmsgs r' (List.mem_cons_of_mem r hr'))
      rw [List.flatMap_cons, List.flatMap_cons, List.foldl_append, ← List.append_assoc]
      exact hrest

/-- The servo at the end of the turn that `g` commands. -/
def atGoal : JointState ℚ := ⟨2 * Testfinal.pi, 2 * Testfinal.pi, 0, false⟩

/-- The report at the goal ends the scan, and the next turn is at the menu. -/
theorem Recording.finish (h : Recording cloud ('s' :: stdin) output n) :
    ([.report atGoal, .deliver .reportsToTestfinal, .turnTestfinal, .turnTestfinal,
        .turnTestfinal].foldl Network.step n).testfinal.output
      = output ++ [.selected (some 's'), .savePCDFileBinary cloud] := by
  have hqueue : ([.report atGoal, .deliver .reportsToTestfinal, .turnTestfinal, .turnTestfinal,
        .turnTestfinal].foldl Network.step n).testfinal
      = Testfinal.body (Testfinal.body (Testfinal.body n.testfinal [.servo atGoal]) []) [] := by
    obtain ⟨⟨globals, ⟨items, within⟩, its⟩, testfinal, ⟨waiting, within'⟩, ct, ri, it, rt⟩ := n
    obtain ⟨h1, h2, h3, h4, h5, h6⟩ := h.idle
    dsimp only at h1 h2 h3 h4 h5 h6
    subst h1 h2 h3 h4 h5 h6
    rfl
  -- past 358 degrees, and outside the window
  have hgoal : Testfinal.degrees atGoal > 358
      ∧ ¬ Testfinal.InWindow (Testfinal.degrees atGoal) := by decide +kernel
  obtain ⟨hscan, -, hstdin, houtput⟩ := Testfinal.spinOnce_frame n.testfinal [.servo atGoal]
  have hcloud : (Testfinal.spinOnce n.testfinal [.servo atGoal]).cloud = cloud := by
    rw [Testfinal.spinOnce_cloud, h.cloud]
    simp [Testfinal.recorded, Hold.triggered, Testfinal.Callback.records, hgoal.2]
  have hang : (Testfinal.spinOnce n.testfinal [.servo atGoal]).ang_servo > 358 := by
    rw [Testfinal.spinOnce_ang_servo]
    exact hgoal.1
  rw [hqueue, h.body]
  -- the turn after the report finds it, and the one after that serves `s`
  have hend : Testfinal.body (Testfinal.spinOnce n.testfinal [.servo atGoal]) []
      = { Testfinal.spinOnce n.testfinal [.servo atGoal] with scan := 0 } := by
    rw [Testfinal.body_of_scan_eq _ _ (hscan.trans h.scan)]
    unfold Testfinal.scanBranch Testfinal.endOfScan
    rw [if_pos hang]
    rfl
  have hkey : ({ Testfinal.spinOnce n.testfinal [.servo atGoal] with scan := 0 } :
      Testfinal.State PointXYZ).nextKey = some 's' := by
    show (Testfinal.spinOnce n.testfinal [.servo atGoal]).stdin.head? = some 's'
    rw [hstdin, h.stdin]
    rfl
  rw [hend, Testfinal.body_output_of_saves _ _ ⟨by simp, by rw [hkey]; rfl⟩, hkey]
  show (Testfinal.spinOnce n.testfinal [.servo atGoal]).output
      ++ [.selected (some 's'),
          .savePCDFileBinary (Testfinal.spinOnce n.testfinal [.servo atGoal]).cloud] = _
  rw [houtput, h.output, hcloud]

/-! ## From `g` to the file -/

/-- `g`, the rounds, the servo at its goal, and `s`. The turns of `testfinal` are turns
of the body of its loop. -/
def lockStep (rounds : List (JointState ℚ × PointCloud)) : List Event :=
  [.turnTestfinal] ++ rounds.flatMap (fun r => round r.1 r.2)
    ++ [.report atGoal, .deliver .reportsToTestfinal, .turnTestfinal, .turnTestfinal, .turnTestfinal]

/-- A scan in lock step saves exactly the clouds of its rounds, each once, in
order, and each turned about the axis by the report of its round, when the body of the
loop is repeated with the exit behind it left aside. -/
theorem lockStep_saves (c : Option Char) (rounds : List (JointState ℚ × PointCloud))
    (hmsgs : ∀ r ∈ rounds, InScan r.1) :
    (run c ['g', '\n', 's', '\n'] (lockStep rounds)).testfinal.output
      = [.selected (some 'g'), .moveMotor (some (2 * Testfinal.pi)), .selected (some 's'),
          .savePCDFileBinary (rounds.flatMap (fun r =>
            transformPointCloud r.2 (rotationMatrix (r.1.current_pos : ℝ))))] := by
  have hstart : Recording [] ['s', '\n']
      [.selected (some 'g'), .moveMotor (some (2 * Testfinal.pi))]
      (run c ['g', '\n', 's', '\n'] [.turnTestfinal]) := by
    refine ⟨⟨rfl, rfl, rfl, rfl, rfl, rfl⟩, rfl, ?_, rfl, rfl, rfl⟩
    -- no report yet: the angle is zero
    show ¬ (0 : ℚ) > 358
    norm_num
  have hfinish := (hstart.rounds rounds hmsgs).finish
  rw [List.nil_append] at hfinish
  unfold run at hfinish ⊢
  unfold lockStep
  rw [List.foldl_append, List.foldl_append, hfinish]
  rfl

/-- A scan of two rounds, of 90 and of 180 degrees. -/
theorem lockStep_saves_two :
    (run none ['g', '\n', 's', '\n']
        (lockStep [(⟨Testfinal.pi / 2, 0, 0, true⟩, [⟨1, 0, 0⟩]),
          (⟨Testfinal.pi, 0, 0, true⟩, [⟨0, 1, 0⟩])])).testfinal.output.getLast?
      = some (.savePCDFileBinary
          [transformPoint (rotationMatrix ((Testfinal.pi / 2 : ℚ) : ℝ)) ⟨1, 0, 0⟩,
            transformPoint (rotationMatrix ((Testfinal.pi : ℚ) : ℝ)) ⟨0, 1, 0⟩]) := by
  have h90 : InScan ⟨Testfinal.pi / 2, 0, 0, true⟩ := by decide +kernel
  have h180 : InScan ⟨Testfinal.pi, 0, 0, true⟩ := by decide +kernel
  rw [lockStep_saves none _ (by simp [h90, h180])]
  rfl

end Sonar3D.Graph
