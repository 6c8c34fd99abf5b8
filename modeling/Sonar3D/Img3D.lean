/-
The node `img3D`: the sonar cloud, rotated about Z by the servo angle.

`img3D.cpp` keeps the last sonar cloud and the matrix of the last servo report
in globals. Its loop publishes `receive()` -- the transform of the one by the
other -- and then lets `ros::spinOnce` dispatch whatever has arrived, ten times
a second. The model is that program with the arrivals explicit: an `Event` is
a message arriving at the node or one turn of the loop, and a turn leaves an
`Iteration`, the cloud it published together with the callbacks its `spinOnce`
dispatched.

Of ROS the model takes what the node asks for in its `subscribe` calls: one
queue in order of arrival, a thousand sonar clouds at most, one servo report
at most. Globals have static storage, so the matrix starts as zero and the
message pointer as null.
-/
import Sonar3D.CallbackQueue
import Sonar3D.Geometry
import Sonar3D.Hold

set_option autoImplicit false

namespace Sonar3D.Img3D

open Sonar3D.CallbackQueue Sonar3D.Hold

/-! ## The globals and the callbacks -/

/-- `#define pi 3.14159265`. -/
noncomputable def pi : ℝ := 3.14159265

structure State where
  msg_servo : Option (JointState ℝ)
  transformationMatrix : Matrix4f
  cloud_points : PointCloud
  ang_servo : ℝ

/-- Static storage: null, zero, empty. -/
def State.initial : State where
  msg_servo := none
  transformationMatrix := 0
  cloud_points := []
  ang_servo := 0

/-- `receive()`: the current cloud under the current matrix. -/
def receive (s : State) : PointCloud :=
  transformPointCloud s.cloud_points s.transformationMatrix

def sonarCallback (s : State) (msg : PointCloud) : State :=
  { s with cloud_points := msg }

noncomputable def servoCallback (s : State) (msg : JointState ℝ) : State :=
  { s with
    msg_servo := some msg
    -- degrees, which nothing reads: the matrix is built from the radians
    ang_servo := msg.current_pos * (180 / pi)
    transformationMatrix := rotationMatrix msg.current_pos }

inductive Callback where
  | sonar (msg : PointCloud)
  | servo (msg : JointState ℝ)

noncomputable def dispatch (s : State) : Callback → State
  | .sonar msg => sonarCallback s msg
  | .servo msg => servoCallback s msg

/-- `ros::spinOnce()` with `queued` waiting. -/
noncomputable def spinOnce (s : State) (queued : List Callback) : State :=
  queued.foldl dispatch s

/-! ## The loop and its arrivals -/

/-- The two topics the node subscribes to. -/
inductive Topic where
  | cloud_test
  | tilt_controller_state
deriving DecidableEq

def Callback.topic : Callback → Topic
  | .sonar _ => .cloud_test
  | .servo _ => .tilt_controller_state

/-- `nh.subscribe("cloud_test", 1000, ..)`,
`nh.subscribe("/tilt_controller/state", 1, ..)`. -/
def depths : Depths Topic where
  depth
    | .cloud_test => 1000
    | .tilt_controller_state => 1
  depth_pos := by rintro (_ | _) <;> decide

/-- One turn of the `while` loop: what it published and what its `spinOnce`
dispatched. -/
structure Iteration where
  published : PointCloud
  handled : List Callback

/-- The node: its globals, what waits, and the turns taken so far. -/
structure Node where
  globals : State
  queue : Queue Callback.topic depths
  iterations : List Iteration

def Node.start : Node where
  globals := State.initial
  queue := Queue.empty
  iterations := []

inductive Event where
  | arrive (m : Callback)
  | iterate

/-- One turn of the loop: publish, then spin. -/
noncomputable def Node.iterate (n : Node) : Node where
  globals := spinOnce n.globals n.queue.items
  queue := Queue.empty
  -- `receive()` reads the globals as the previous spin left them
  iterations := n.iterations ++ [⟨receive n.globals, n.queue.items⟩]

noncomputable def Node.step (n : Node) : Event → Node
  | .arrive m => { n with queue := n.queue.enqueue m }
  | .iterate => n.iterate

noncomputable def run (es : List Event) : Node := es.foldl Node.step Node.start

noncomputable def iterations (es : List Event) : List Iteration := (run es).iterations

/-- Every callback dispatched during `es`, in the order of dispatch. -/
noncomputable def handled (es : List Event) : List Callback :=
  (iterations es).flatMap Iteration.handled

/-! ## The globals as registers

Each callback overwrites one of two registers, the cloud and the position the
matrix is built from. -/

def Callback.cloud? : Callback → Option PointCloud
  | .sonar msg => some msg
  | .servo _ => none

def Callback.position? : Callback → Option (Option ℝ)
  | .sonar _ => none
  | .servo msg => some (some msg.current_pos)

/-- The matrix of a position; zero before the first report. -/
noncomputable def matrixOf : Option ℝ → Matrix4f
  | none => 0
  | some a => rotationMatrix a

/-- The cloud handled last among `cbs`, empty before the first. -/
def lastCloud (cbs : List Callback) : PointCloud := held Callback.cloud? [] cbs

def lastPosition (cbs : List Callback) : Option ℝ := held Callback.position? none cbs

/-- What `receive()` publishes once `cbs` have been dispatched. -/
noncomputable def image (cbs : List Callback) : PointCloud :=
  transformPointCloud (lastCloud cbs) (matrixOf (lastPosition cbs))

theorem spinOnce_cloud_points (s : State) (cbs : List Callback) :
    (spinOnce s cbs).cloud_points = held Callback.cloud? s.cloud_points cbs := by
  apply foldl_component dispatch State.cloud_points Callback.cloud?
  intro s cb
  cases cb <;> rfl

/-- The matrix follows the position register: whatever the globals held before,
if their matrix was that of `p` it is now that of the last position. -/
theorem spinOnce_transformationMatrix (s : State) (p : Option ℝ) (cbs : List Callback)
    (h : s.transformationMatrix = matrixOf p) :
    (spinOnce s cbs).transformationMatrix = matrixOf (held Callback.position? p cbs) := by
  induction cbs generalizing s p with
  | nil => exact h
  | cons cb cbs ih =>
      rw [held_cons]
      apply ih
      cases cb with
      | sonar msg => exact h
      | servo msg => rfl

/-! ## The run, turn by turn -/

theorem run_snoc (es : List Event) (e : Event) : run (es ++ [e]) = (run es).step e := by
  unfold run
  rw [List.foldl_append]
  rfl

theorem iterations_arrive (es : List Event) (m : Callback) :
    iterations (es ++ [.arrive m]) = iterations es := by
  unfold iterations
  rw [run_snoc]
  rfl

theorem iterations_iterate (es : List Event) :
    iterations (es ++ [.iterate])
      = iterations es ++ [⟨receive (run es).globals, (run es).queue.items⟩] := by
  unfold iterations
  rw [run_snoc]
  rfl

theorem handled_arrive (es : List Event) (m : Callback) :
    handled (es ++ [.arrive m]) = handled es := by
  unfold handled
  rw [iterations_arrive]

theorem handled_iterate (es : List Event) :
    handled (es ++ [.iterate]) = handled es ++ (run es).queue.items := by
  unfold handled
  rw [iterations_iterate, List.flatMap_append, List.flatMap_singleton]

/-- The invariant of a run: the globals are the two registers, read over
everything dispatched so far. -/
theorem run_globals (es : List Event) :
    (run es).globals.cloud_points = lastCloud (handled es)
      ∧ (run es).globals.transformationMatrix = matrixOf (lastPosition (handled es)) := by
  induction es using List.reverseRecOn with
  | nil => exact ⟨rfl, rfl⟩
  | append_singleton es e ih =>
      obtain ⟨hcloud, hmatrix⟩ := ih
      cases e with
      | arrive m =>
          rw [run_snoc, handled_arrive]
          exact ⟨hcloud, hmatrix⟩
      | iterate =>
          rw [run_snoc, handled_iterate]
          constructor
          · show (spinOnce (run es).globals (run es).queue.items).cloud_points = _
            rw [spinOnce_cloud_points, hcloud, lastCloud, lastCloud, held_append]
          · show (spinOnce (run es).globals (run es).queue.items).transformationMatrix = _
            rw [spinOnce_transformationMatrix _ _ _ hmatrix, lastPosition, lastPosition,
              held_append]

theorem receive_run (es : List Event) : receive (run es).globals = image (handled es) := by
  obtain ⟨hcloud, hmatrix⟩ := run_globals es
  unfold receive image
  rw [hcloud, hmatrix]

/-! ## The dispatched callbacks and the arrivals -/

/-- What arrived during `es`, in order. -/
def arrivals (es : List Event) : List Callback :=
  es.filterMap (fun e => match e with
    | .arrive m => some m
    | .iterate => none)

/-- What has been dispatched and what waits are arrivals, in order of arrival
and each once: the queue may displace a message but never repeats or reorders
one. -/
theorem handled_append_waiting_sublist (es : List Event) :
    (handled es ++ (run es).queue.items).Sublist (arrivals es) := by
  induction es using List.reverseRecOn with
  | nil => exact List.Sublist.refl _
  | append_singleton es e ih =>
      unfold arrivals at ih ⊢
      rw [List.filterMap_append]
      cases e with
      | arrive m =>
          -- the new message goes to the end of what waits
          have hqueue := (run es).queue.items_enqueue_sublist m
          rw [handled_arrive, run_snoc]
          apply List.Sublist.trans (List.Sublist.append (List.Sublist.refl _) hqueue)
          rw [← List.append_assoc]
          exact List.Sublist.append ih (List.Sublist.refl _)
      | iterate =>
          -- what waited is dispatched, and nothing waits
          have hempty : (run (es ++ [.iterate])).queue.items = [] := by
            rw [run_snoc]
            rfl
          rw [handled_iterate, hempty, List.append_nil]
          exact List.Sublist.trans ih (List.sublist_append_left _ _)

/-- Every spin found its queues within their depths: a thousand clouds and one
report at most. -/
theorem handled_within_depths (es : List Event) :
    ∀ it ∈ iterations es, ∀ t, waiting Callback.topic t it.handled ≤ depths.depth t := by
  induction es using List.reverseRecOn with
  | nil =>
      intro it hit
      simp [iterations, run, Node.start] at hit
  | append_singleton es e ih =>
      cases e with
      | arrive m =>
          rw [iterations_arrive]
          exact ih
      | iterate =>
          intro it hit t
          rw [iterations_iterate] at hit
          rcases List.mem_append.mp hit with hold | hnew
          · exact ih it hold t
          · rw [List.mem_singleton.mp hnew]
            exact (run es).queue.within t

end Sonar3D.Img3D
