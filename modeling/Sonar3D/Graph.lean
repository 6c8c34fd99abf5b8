/-
The nodes connected: from `cloud_test` to the file.

`tester` (or whatever else publishes there) puts clouds on `cloud_test`; the
controller of the servo puts its reports on `/tilt_controller/state`; `img3D`
listens to both and publishes on `Img_transformada`; `testfinal` listens to that
topic and, on a connection of its own, to the reports, and writes the file. Each
subscription is a link: messages in flight, in the order they were sent. Every
message of a link is delivered or lost when its turn comes, each node turns its
loop when it likes, and a report may reach one node long before the other.

A run is any list of such events, so what holds of every run holds for every rate
of the nodes, every delay and every loss. The loop of `testfinal` is its body,
repeated; the exit behind the body is left aside.
-/
import Sonar3D.Img3DPairing
import Sonar3D.Sampling
import Sonar3D.Testfinal

set_option autoImplicit false

namespace Sonar3D.Testfinal

open Sonar3D.CallbackQueue

variable {α : Type*}

/-- The two topics the node subscribes to. -/
inductive Topic where
  | Img_transformada
  | tilt_controller_state
deriving DecidableEq

def Callback.topic : Callback α → Topic
  | .sonar _ => .Img_transformada
  | .servo _ => .tilt_controller_state

/-- `nh.subscribe("Img_transformada", 1000, ..)`,
`nh.subscribe("/tilt_controller/state", 1, ..)`. -/
def depths : Depths Topic where
  depth
    | .Img_transformada => 1000
    | .tilt_controller_state => 1
  depth_pos := by rintro (_ | _) <;> decide

end Sonar3D.Testfinal

namespace Sonar3D.Graph

open Sonar3D.CallbackQueue Sonar3D.Sampling

/-! ## The network -/

/-- A report as `img3D` reads it: the doubles are exact rationals. -/
noncomputable def readReport (msg : JointState ℚ) : JointState ℝ :=
  ⟨msg.current_pos, msg.goal_pos, msg.velocity, msg.is_moving⟩

structure Network where
  img3D : Img3D.Node
  testfinal : Testfinal.State PointXYZ
  /-- What waits for the next `spinOnce` of `testfinal`. -/
  waiting : Queue (Testfinal.Callback.topic (α := PointXYZ)) Testfinal.depths
  -- the links, oldest message first
  cloud_test : List PointCloud
  reportsToImg3D : List (JointState ℚ)
  Img_transformada : List PointCloud
  reportsToTestfinal : List (JointState ℚ)

def Network.start (c : Option Char) (stdin : List Char) : Network where
  img3D := Img3D.Node.start
  testfinal := Testfinal.State.initial c stdin
  waiting := Queue.empty
  cloud_test := []
  reportsToImg3D := []
  Img_transformada := []
  reportsToTestfinal := []

inductive Link where
  | cloud_test
  | reportsToImg3D
  | Img_transformada
  | reportsToTestfinal

inductive Event where
  | publishCloud (cloud : PointCloud)
  | report (msg : JointState ℚ)
  | deliver (l : Link)
  | lose (l : Link)
  | turnImg3D
  | turnTestfinal

/-- The oldest message of a link reaches the queue of its subscriber. -/
noncomputable def Network.deliver (n : Network) : Link → Network
  | .cloud_test =>
      match n.cloud_test with
      | [] => n
      | cloud :: rest =>
          { n with cloud_test := rest, img3D := n.img3D.step (.arrive (.sonar cloud)) }
  | .reportsToImg3D =>
      match n.reportsToImg3D with
      | [] => n
      | msg :: rest =>
          { n with reportsToImg3D := rest,
                   img3D := n.img3D.step (.arrive (.servo (readReport msg))) }
  | .Img_transformada =>
      match n.Img_transformada with
      | [] => n
      | cloud :: rest =>
          { n with Img_transformada := rest, waiting := n.waiting.enqueue (.sonar cloud) }
  | .reportsToTestfinal =>
      match n.reportsToTestfinal with
      | [] => n
      | msg :: rest =>
          { n with reportsToTestfinal := rest, waiting := n.waiting.enqueue (.servo msg) }

/-- The oldest message of a link is dropped: the queue of the publisher was full. -/
def Network.lose (n : Network) : Link → Network
  | .cloud_test => { n with cloud_test := n.cloud_test.tail }
  | .reportsToImg3D => { n with reportsToImg3D := n.reportsToImg3D.tail }
  | .Img_transformada => { n with Img_transformada := n.Img_transformada.tail }
  | .reportsToTestfinal => { n with reportsToTestfinal := n.reportsToTestfinal.tail }

/-- A turn of `testfinal` is the body of its loop, without the exit behind it. -/
noncomputable def Network.step (n : Network) : Event → Network
  | .publishCloud cloud => { n with cloud_test := n.cloud_test ++ [cloud] }
  | .report msg =>
      { n with reportsToImg3D := n.reportsToImg3D ++ [msg],
               reportsToTestfinal := n.reportsToTestfinal ++ [msg] }
  | .deliver l => n.deliver l
  | .lose l => n.lose l
  -- `Img_transformada_pub.publish(msg)`, then `spinOnce`
  | .turnImg3D =>
      { n with img3D := n.img3D.iterate,
               Img_transformada := n.Img_transformada ++ [Img3D.receive n.img3D.globals] }
  | .turnTestfinal =>
      { n with testfinal := Testfinal.body n.testfinal n.waiting.items, waiting := Queue.empty }

noncomputable def run (c : Option Char) (stdin : List Char) (es : List Event) : Network :=
  es.foldl Network.step (Network.start c stdin)

/-- Every callback `img3D` has dispatched, in order. -/
def Network.handled (n : Network) : List Img3D.Callback :=
  n.img3D.iterations.flatMap Img3D.Iteration.handled

/-! ## What was sent -/

def Event.cloud? : Event → Option PointCloud
  | .publishCloud cloud => some cloud
  | _ => none

def Event.report? : Event → Option (JointState ℚ)
  | .report msg => some msg
  | _ => none

/-- The clouds published on `cloud_test`. -/
def publishedClouds (es : List Event) : List PointCloud := es.filterMap Event.cloud?

def reports (es : List Event) : List (JointState ℚ) := es.filterMap Event.report?

/-- The positions `img3D` would read from them. -/
noncomputable def positions (msgs : List (JointState ℚ)) : List (Option ℝ) :=
  msgs.map (fun msg => some (msg.current_pos : ℝ))

theorem run_snoc (c : Option Char) (stdin : List Char) (es : List Event) (e : Event) :
    run c stdin (es ++ [e]) = (run c stdin es).step e := by
  unfold run
  rw [List.foldl_append]
  rfl

/-! ## `img3D`, whose publications sample its registers -/

/-- Each publication shows the registers as they were at some moment, in order:
the publications sample the history of the registers. -/
theorem samples_published (es : List Img3D.Event) :
    Samples ((Img3D.handled es).inits.map Img3D.image) (Img3D.published es) := by
  induction es using List.reverseRecOn with
  | nil => exact Samples.nil _
  | append_singleton es e ih =>
      cases e with
      | arrive m =>
          unfold Img3D.published at ih ⊢
          rw [Img3D.iterations_arrive, Img3D.handled_arrive]
          exact ih
      | iterate =>
          -- the turn reads the registers once more, and then they move on
          have hpub : Img3D.published (es ++ [.iterate])
              = Img3D.published es ++ [Img3D.image (Img3D.handled es)] := by
            unfold Img3D.published
            rw [Img3D.iterations_iterate, List.map_append, ← Img3D.receive_run]
            rfl
          have hlast : ((Img3D.handled es).inits.map Img3D.image).getLast?
              = some (Img3D.image (Img3D.handled es)) := by
            rw [List.getLast?_map, getLast?_inits, Option.map_some]
          rw [hpub, Img3D.handled_iterate, List.inits_append, List.map_append]
          exact Samples.append_right _ (ih.read_last _ hlast)

end Sonar3D.Graph
