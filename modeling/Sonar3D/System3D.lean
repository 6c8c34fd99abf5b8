/-
The node `system3D`: the clouds of a scan, rotated by the servo angle.

`system3D.cpp` subscribes to the two topics of `img3D` and keeps the same three
globals: the last report, the last cloud and the matrix. Its callbacks differ.
`sonarCallback` takes a cloud only while the servo is not at its goal, and
`servoCallback` builds the matrix from `ang_servo`, which here is a local in
degrees: `float ang_servo = ..` hides the global of that name, which nothing
writes.

`main` prompts for a key, commands the servo home and round, and publishes until
the servo reports its goal. The model takes the keys as a list and the arrivals as
one list of callbacks per `ros::spinOnce`; a turn of `main` leaves a record of the
key, the commands to the servo and the clouds it published.
-/
import Sonar3D.Img3D

set_option autoImplicit false

namespace Sonar3D.System3D

open Sonar3D.Hold

/-- `#define pi 3.14159265`. -/
noncomputable def pi : ℝ := 3.14159265

/-- The `6.283185307` of the code, 360 degrees. -/
noncomputable def goal : ℝ := 6.283185307

/-! ## The globals and the callbacks -/

structure State where
  msg_servo : JointState ℝ
  cloud_sonar : PointCloud
  transformationMatrix : Matrix4f
  ang_servo : ℝ

/-- Static storage, and messages as their constructors leave them. -/
def State.initial : State where
  msg_servo := ⟨0, 0, 0, false⟩
  cloud_sonar := []
  transformationMatrix := 0
  ang_servo := 0

/-- `receive()`: the current cloud under the current matrix. -/
def receive (s : State) : PointCloud :=
  transformPointCloud s.cloud_sonar s.transformationMatrix

/-- `msg_servo.current_pos != 6.283185307`. -/
def Scanning (s : State) : Prop := s.msg_servo.current_pos ≠ goal

noncomputable instance (s : State) : Decidable (Scanning s) :=
  inferInstanceAs (Decidable (_ ≠ _))

noncomputable def sonarCallback (s : State) (msg : PointCloud) : State :=
  -- "Scan is ON", or "Scan is OFF"
  if Scanning s then { s with cloud_sonar := msg } else s

noncomputable def servoCallback (s : State) (msg : JointState ℝ) : State :=
  -- the local, not the field; `180` is an `int`
  let ang_servo := msg.current_pos * ((180 : ℤ) / pi)
  { s with
    msg_servo := msg
    transformationMatrix := rotationMatrix ang_servo }

/-- The topics and their messages are those of `img3D`. -/
abbrev Callback := Img3D.Callback

noncomputable def dispatch (s : State) : Callback → State
  | .sonar msg => sonarCallback s msg
  | .servo msg => servoCallback s msg

/-- `ros::spinOnce()` with `queued` waiting. -/
noncomputable def spinOnce (s : State) (queued : List Callback) : State :=
  queued.foldl dispatch s

/-! ## One scan -/

/-- A scan under way: the globals, the commands sent and the clouds published. -/
structure Scan where
  globals : State
  moves : List ℝ
  published : List PointCloud

def Scan.moveMotor (n : Scan) (position : ℝ) : Scan :=
  { n with moves := n.moves ++ [position] }

/-- What the key starts: home first, if the servo is not there, and then round. -/
noncomputable def beginScan (s : State) : Scan :=
  let n : Scan := ⟨s, [], []⟩
  -- " Turning sonar to 0 angle.."
  let n := if s.msg_servo.current_pos ≠ 0 then n.moveMotor 0 else n
  n.moveMotor goal

/-- One turn of the scanning loop: `publishCloud3D()`, then spin. -/
noncomputable def Scan.iterate (n : Scan) (queued : List Callback) : Scan :=
  { n with
    globals := spinOnce n.globals queued
    published := n.published ++ [receive n.globals] }

/-- `while(msg_servo.current_pos != 6.283185307)`, and the spins left when it
ends; `none` while it goes on. -/
noncomputable def scanLoop (n : Scan) :
    List (List Callback) → Scan × Option (List (List Callback))
  | [] => (n, if Scanning n.globals then none else some [])
  | queued :: spins =>
      if Scanning n.globals then scanLoop (n.iterate queued) spins
      else (n, some (queued :: spins))

/-! ## `main` -/

/-- One turn of the outer loop, for the record. -/
structure Turn where
  key : Char
  moves : List ℝ
  published : List PointCloud

/-- Where `main` is: waiting for a key, in a scan, or behind its loop. -/
inductive Phase where
  | prompt
  | scanning
  | left
deriving DecidableEq

structure Outcome where
  turns : List Turn
  phase : Phase
  globals : State

/-- `c = 's'` as an expression: what `c` then holds, and its value as a
condition. -/
def assignS : Char × Bool := ('s', decide ('s'.toNat ≠ 0))

/-- `while(c != 'c')`, with `c` whatever the stack held. -/
noncomputable def mainLoop (c : Char) (s : State) :
    List Char → List (List Callback) → Outcome
  | [], _ => ⟨[], if c ≠ 'c' then .prompt else .left, s⟩
  | key :: keys, spins =>
      if c ≠ 'c' then
        -- `c=getchar();`, and at once `if (c = 's')`, which overwrites it
        let (c, taken) := assignS
        if taken then
          let (n, left) := scanLoop (beginScan s) spins
          match left with
          | none => ⟨[⟨key, n.moves, n.published⟩], .scanning, n.globals⟩
          | some spins =>
              let rest := mainLoop c n.globals keys spins
              { rest with turns := ⟨key, n.moves, n.published⟩ :: rest.turns }
        else
          let rest := mainLoop c s keys spins
          { rest with turns := ⟨key, [], []⟩ :: rest.turns }
      else ⟨[], .left, s⟩

/-! ## A spin, register by register -/

/-- A spin leaves the last position reported. -/
theorem spinOnce_current_pos (s : State) (cbs : List Callback) :
    some (spinOnce s cbs).msg_servo.current_pos
      = held Img3D.Callback.position? (some s.msg_servo.current_pos) cbs := by
  apply foldl_component dispatch (fun s => some s.msg_servo.current_pos) Img3D.Callback.position?
  intro s cb
  cases cb with
  | sonar msg =>
      show some (sonarCallback s msg).msg_servo.current_pos = some s.msg_servo.current_pos
      unfold sonarCallback
      split <;> rfl
  | servo msg => rfl

end Sonar3D.System3D
