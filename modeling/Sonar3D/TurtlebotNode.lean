/-
The node `turtlebot`: velocity commands in, driving commands out.

`turtlebot_node.py` turns a velocity message into a request, and `spin` serves the
requests: in each turn of its loop it reads the sensors, leaves on a flat battery,
and sends one driving command, made from the request if there is a new one and from
the last command if there is none. It stops the motors if no message has come for
`cmd_vel_timeout`, and does not let the robot drive forward on a bumper.

The callbacks and services are called by other threads, while `spin` is at any point of
its turn; they share the request and the message of the sensors with it. The loop is a
step on a state, with what the other threads do at each point, and what the sensors say,
as its input. Floats are exact rationals, times are nanoseconds, and the parameters stay
what they are during a run. The odometry and the gyro have modules of their own; what
the node publishes and logs, and its requests for sensor data, are left out.
-/
import Sonar3D.Hold
import Sonar3D.Runs
import Sonar3D.TurtlebotDriver
import Sonar3D.TurtlebotSensors

set_option autoImplicit false

namespace Sonar3D.Turtlebot

open Sonar3D.Hold Sonar3D.Runs

/-! ## Velocity messages -/

inductive DriveMode where
  | twist
  | turtle
  | drive
deriving DecidableEq

/-- The parameters that the loop reads. -/
structure Params where
  drive_mode : DriveMode
  /-- Of the `RobotType`. -/
  wheel_separation : ℚ
  min_abs_yaw_vel : Option ℚ
  max_abs_yaw_vel : Option ℚ
  stop_motors_on_bump : Bool
  cmd_vel_timeout : ℤ

/-- `geometry_msgs/Twist`, `turtlebot_node/Turtle`, `turtlebot_node/Drive`. -/
inductive VelMsg where
  | twist (linear_x angular_z : ℚ)
  | turtle (linear angular : ℚ)
  | drive (velocity radius : ℚ)
deriving DecidableEq

def MAX_WHEEL_SPEED : ℚ := 500

/-- "Clamp to min abs yaw velocity". -/
def clampMin (min_abs_yaw_vel : Option ℚ) (z : ℚ) : ℚ :=
  match min_abs_yaw_vel with
  | some low => if z ≠ 0 ∧ |z| < low then (if z > 0 then low else -low) else z
  | none => z

/-- "Limit maximum yaw to avoid saturating the gyro". -/
def clampMax (max_abs_yaw_vel : Option ℚ) (z : ℚ) : ℚ :=
  match max_abs_yaw_vel with
  | some high => if high > 0 ∧ z ≠ 0 ∧ |z| > high then (if z > 0 then high else -high) else z
  | none => z

/-- One of the two tests above reads `msg.angular.z`. -/
def Params.readsYaw (p : Params) : Bool :=
  p.min_abs_yaw_vel.isSome || p.max_abs_yaw_vel.any (fun high => high > 0)

/-- The speed that the turn gives the right wheel, and takes from the left one. -/
def Params.turnSpeed (p : Params) (z : ℚ) : ℚ :=
  clampMax p.max_abs_yaw_vel (clampMin p.min_abs_yaw_vel z) * (p.wheel_separation / 2) * 1000

/-- A request: two speeds, or a speed and a radius. -/
abbrev Cmd := ℚ × ℚ

/-- `cmd_vel`: the request, or `none` if the callback raises an error. -/
def cmd_vel (p : Params) (msg : VelMsg) : Option Cmd :=
  match p.drive_mode, msg with
  | .twist, .twist linear_x angular_z =>
      let ts := linear_x * 1000
      let tw := p.turnSpeed angular_z
      -- "Prevent saturation at max wheel speed"
      let ts := if ts > 0 then min ts (MAX_WHEEL_SPEED - |tw|) else max ts (-(MAX_WHEEL_SPEED - |tw|))
      some (int (ts - tw), int (ts + tw))
  | .turtle, .turtle linear angular =>
      -- `msg.angular` is a number here, and has no `z`
      if p.readsYaw then none
      else
        let ts := linear * 1000
        let tw := angular * (p.wheel_separation / 2) * 1000
        some (int (ts - tw), int (ts + tw))
  | .drive, .drive velocity radius =>
      -- a `Drive` has no `angular`
      if p.readsYaw then none else some (velocity * 1000, radius * 1000)
  -- the topic has messages of the mode's own type only
  | _, _ => none

/-! ## The loop -/

/-- What goes out to the driver. -/
inductive Sent where
  | drive_cmd (cmd : Cmd)
  | passive
  | control (safe : Bool)
  | digital_outputs (byte : ℤ)
  | soft_reset
deriving DecidableEq

/-- The bytes of it. -/
def Sent.commands (p : Params) : Sent → List (Option (List UInt8))
  | .drive_cmd cmd =>
      match p.drive_mode with
      | .twist | .turtle => [Turtlebot.direct_drive cmd.1 cmd.2]
      | .drive => [Turtlebot.drive cmd.1 cmd.2]
  | .passive => Turtlebot.passive
  | .control safe => Turtlebot.control safe
  | .digital_outputs byte => [set_digital_outputs byte]
  | .soft_reset => Turtlebot.soft_reset

inductive Status where
  | running
  | raised
  | exited
deriving DecidableEq

/-- The fields of the node and the locals of `spin` that the loop works on. -/
structure Spin where
  s : SensorState
  req_cmd_vel : Option Cmd
  last_cmd_vel : Cmd
  last_cmd_vel_time : ℤ
  sensor_read_retry_count : ℕ
  operate_mode : ℤ
  status : Status
  sent : List Sent

/-- Where `spin` enters its loop. -/
def Spin.start (s : SensorState) (req_cmd_vel : Option Cmd) (operate_mode now : ℤ) : Spin where
  s := s
  req_cmd_vel := req_cmd_vel
  last_cmd_vel := (0, 0)
  last_cmd_vel_time := now
  sensor_read_retry_count := 0
  operate_mode := operate_mode
  status := .running
  sent := []

def SENSOR_READ_RETRY_COUNT : ℕ := 5

def Spin.send (st : Spin) (out : Sent) : Spin := { st with sent := st.sent ++ [out] }

/-- `_set_digital_outputs`, of a byte; `struct` refuses one that is none. -/
def Spin.set_digital_outputs (st : Spin) (outputs : List ℤ) : Spin :=
  let byte := outputByte outputs
  if (Turtlebot.set_digital_outputs byte).isSome then
    { st.send (.digital_outputs byte) with s := { st.s with user_digital_outputs := byte } }
  else st

/-- `_robot_run_safe`, `_robot_run_full`. -/
def Spin.robot_run (st : Spin) (safe : Bool) : Spin :=
  let st := st.send (.control safe)
  -- the inputs are bits, and keep their places
  let b1 := st.s.user_digital_inputs / 2 % 2
  let b2 := st.s.user_digital_inputs / 4 % 2
  st.set_digital_outputs [1, b1, b2]

def Spin.robot_run_passive (st : Spin) : Spin := (st.set_digital_outputs [0, 0, 0]).send .passive

def Spin.robot_reboot (st : Spin) : Spin := (st.set_digital_outputs [0, 0, 0]).send .soft_reset

/-- What the other threads call: the subscriber, or one of the services. -/
inductive Call where
  | cmd_vel (msg : VelMsg)
  | set_operation_mode (mode : ℤ)
  | set_digital_outputs (out0 out1 out2 : ℤ)

def Spin.call (p : Params) (st : Spin) : Call → Spin
  | .cmd_vel msg => { st with req_cmd_vel := cmd_vel p msg <|> st.req_cmd_vel }
  | .set_operation_mode mode =>
      let st := { st with operate_mode := mode }
      if mode = 1 then st.robot_run_passive
      else if mode = 2 then st.robot_run true
      else if mode = 3 then st.robot_run false
      else st
  | .set_digital_outputs out0 out1 out2 => st.set_digital_outputs [out0, out1, out2]

/-- What `sense` comes to: interrupted (`select.error`), a `DriverError`, or a report. -/
inductive Sensed where
  | interrupted
  | failed
  | report (s : SensorState)

/-- Where a turn is when another thread gets its chance. -/
inductive Point where
  /-- Before the sensors are read. -/
  | start
  /-- After it, and before `self.req_cmd_vel is not None`. -/
  | sensed
  /-- Once that is true. -/
  | tested
  /-- Once the robot is in the mode asked for. -/
  | switched
  /-- Once the request has been read, and before it is reset. -/
  | read
deriving DecidableEq

/-- What happens in a turn. What is called after `read`, or in a turn that comes to no
such point, is called at the next `start`. -/
structure Turn where
  calls : Point → List Call
  sensed : Sensed

/-- A turn in which nothing is called but at its start. -/
def Turn.plain (calls : List Call) (sensed : Sensed) : Turn where
  calls := fun point => if point = .start then calls else []
  sensed := sensed

def Spin.others (p : Params) (st : Spin) (turn : Turn) (point : Point) : Spin :=
  (turn.calls point).foldl (Spin.call p) st

/-- `compute_odom` raises: a displacement that cannot be, or a division by zero. -/
def Invalid (s : SensorState) (last_time : ℤ) : Prop :=
  |s.distance| > 1 ∨ |s.angle| > 1 ∨ s.stamp = last_time

instance (s : SensorState) (last_time : ℤ) : Decidable (Invalid s last_time) :=
  inferInstanceAs (Decidable (_ ∨ _))

/-- "Reboot Create if we detect that charging is necessary", or the battery "at
critical level". -/
def NeedsReboot (s : SensorState) : Prop :=
  s.charging_sources_available > 0 ∧ s.charging_state ∈ [0, 5]
    ∧ ((s.oi_mode = 1 ∧ (s.charge : ℚ) < 93 / 100 * s.capacity)
      ∨ (s.oi_mode = 3 ∧ (s.charge : ℚ) < 15 / 100 * s.capacity))

instance (s : SensorState) : Decidable (NeedsReboot s) := inferInstanceAs (Decidable (_ ∧ _))

def check_bumpers (p : Params) (s : SensorState) (cmd : Cmd) : Cmd :=
  if p.stop_motors_on_bump = true ∧ s.bumps_wheeldrops > 0 ∧ cmd.1 + cmd.2 > 0 then (0, 0) else cmd

/-- `self.drive_cmd(*req_cmd_vel)`, and `last_cmd_vel = req_cmd_vel`. -/
def Spin.command (st : Spin) (cmd : Cmd) : Spin :=
  { st.send (.drive_cmd cmd) with last_cmd_vel := cmd }

/-- "set the robot into full mode if not plugged in". -/
def Spin.switch (st : Spin) : Spin :=
  if st.s.oi_mode ≠ st.operate_mode ∧ st.s.charging_sources_available ≠ 1 then
    st.robot_run (st.operate_mode == 2)
  else st

/-- `# ACT`. -/
def Spin.act (p : Params) (st : Spin) (turn : Turn) (last_time : ℤ) : Spin :=
  let st := st.others p turn .sensed
  match st.req_cmd_vel with
  | some req =>
      let st := ((st.others p turn .tested).switch).others p turn .switched
      -- it is read again, and may be another one by now
      let cmd := check_bumpers p st.s (st.req_cmd_vel.getD req)
      let st := st.others p turn .read
      { st with req_cmd_vel := none, last_cmd_vel_time := last_time }.command cmd
  | none =>
      let last := if last_time - st.last_cmd_vel_time > p.cmd_vel_timeout then (0, 0) else st.last_cmd_vel
      st.command (check_bumpers p st.s last)

/-- The report is written over the message; the outputs are no part of it. -/
def Spin.received (st : Spin) (r : SensorState) : Spin :=
  { st with s := { r with user_digital_outputs := st.s.user_digital_outputs } }

/-- A turn in which the sensors were read. -/
def Spin.report (p : Params) (st : Spin) (turn : Turn) (r : SensorState) : Spin :=
  let last_time := st.s.stamp
  let st := st.received r
  if Invalid st.s last_time then { st with status := .raised }
  else
    let st := { st with sensor_read_retry_count := SENSOR_READ_RETRY_COUNT }
    if NeedsReboot st.s then { st.robot_reboot with status := .exited }
    else st.act p turn last_time

/-- One turn of the loop. -/
def Spin.step (p : Params) (st : Spin) (turn : Turn) : Spin :=
  if st.status ≠ .running then st
  else
    let st := st.others p turn .start
    match turn.sensed with
    | .interrupted => st
    | .failed =>
        if st.sensor_read_retry_count > 0 then
          { st with sensor_read_retry_count := st.sensor_read_retry_count - 1 }
        else { st with status := .raised }
    | .report r => st.report p turn r

/-! ## One turn -/

def Sent.cmd? : Sent → Option Cmd
  | .drive_cmd cmd => some cmd
  | _ => none

/-- The driving commands so far. -/
def Spin.driven (st : Spin) : List Cmd := st.sent.filterMap Sent.cmd?

/-- The request that a call makes, if it makes one. -/
def Call.request (p : Params) : Call → Option Cmd
  | .cmd_vel msg => Turtlebot.cmd_vel p msg
  | _ => none

/-- What the loop decides with, apart from the request, is as before; the outputs of
the robot may be others. -/
structure Spin.Same (st st' : Spin) : Prop where
  s : st'.s = { st.s with user_digital_outputs := st'.s.user_digital_outputs }
  last_cmd_vel : st'.last_cmd_vel = st.last_cmd_vel
  last_cmd_vel_time : st'.last_cmd_vel_time = st.last_cmd_vel_time
  retries : st'.sensor_read_retry_count = st.sensor_read_retry_count
  status : st'.status = st.status
  driven : st'.driven = st.driven

theorem Spin.Same.refl (st : Spin) : st.Same st := ⟨rfl, rfl, rfl, rfl, rfl, rfl⟩

theorem Spin.Same.trans {st st' st'' : Spin} (h : st.Same st') (h' : st'.Same st'') :
    st.Same st'' := by
  refine ⟨?_, h'.last_cmd_vel.trans h.last_cmd_vel,
    h'.last_cmd_vel_time.trans h.last_cmd_vel_time, h'.retries.trans h.retries,
    h'.status.trans h.status, h'.driven.trans h.driven⟩
  rw [h'.s, h.s]

theorem Spin.same_send (st : Spin) (out : Sent) (hout : out.cmd? = none) : st.Same (st.send out) := by
  refine ⟨rfl, rfl, rfl, rfl, rfl, ?_⟩
  unfold Spin.driven Spin.send
  rw [List.filterMap_append, List.filterMap_cons_none hout, List.filterMap_nil, List.append_nil]

theorem Spin.same_set_digital_outputs (st : Spin) (outputs : List ℤ) :
    st.Same (st.set_digital_outputs outputs)
      ∧ (st.set_digital_outputs outputs).req_cmd_vel = st.req_cmd_vel := by
  unfold Spin.set_digital_outputs
  dsimp only
  split
  · have hsend := st.same_send (.digital_outputs (outputByte outputs)) rfl
    exact ⟨⟨rfl, rfl, rfl, rfl, rfl, hsend.driven⟩, rfl⟩
  · exact ⟨Spin.Same.refl st, rfl⟩

theorem Spin.same_robot_run (st : Spin) (safe : Bool) :
    st.Same (st.robot_run safe) ∧ (st.robot_run safe).req_cmd_vel = st.req_cmd_vel := by
  obtain ⟨hsame, hreq⟩ := (st.send (.control safe)).same_set_digital_outputs
    [1, st.s.user_digital_inputs / 2 % 2, st.s.user_digital_inputs / 4 % 2]
  exact ⟨(st.same_send (.control safe) rfl).trans hsame, hreq⟩

theorem Spin.same_robot_run_passive (st : Spin) :
    st.Same st.robot_run_passive ∧ st.robot_run_passive.req_cmd_vel = st.req_cmd_vel := by
  obtain ⟨hsame, hreq⟩ := st.same_set_digital_outputs [0, 0, 0]
  exact ⟨hsame.trans (Spin.same_send _ .passive rfl), hreq⟩

theorem Spin.same_robot_reboot (st : Spin) : st.Same st.robot_reboot :=
  (st.same_set_digital_outputs [0, 0, 0]).1.trans (Spin.same_send _ .soft_reset rfl)

/-- A call changes the request, if it makes one, and nothing else that the loop
decides with. -/
theorem Spin.same_call (p : Params) (st : Spin) (c : Call) :
    st.Same (st.call p c)
      ∧ (st.call p c).req_cmd_vel = ((c.request p).map some).getD st.req_cmd_vel := by
  cases c with
  | cmd_vel msg =>
      refine ⟨⟨rfl, rfl, rfl, rfl, rfl, rfl⟩, ?_⟩
      show (cmd_vel p msg <|> st.req_cmd_vel) = ((cmd_vel p msg).map some).getD st.req_cmd_vel
      cases cmd_vel p msg <;> rfl
  | set_operation_mode mode =>
      have hmode : st.Same { st with operate_mode := mode } := ⟨rfl, rfl, rfl, rfl, rfl, rfl⟩
      unfold Spin.call
      dsimp only
      split
      · obtain ⟨hsame, hreq⟩ := Spin.same_robot_run_passive { st with operate_mode := mode }
        exact ⟨hmode.trans hsame, hreq⟩
      · split
        · obtain ⟨hsame, hreq⟩ := Spin.same_robot_run { st with operate_mode := mode } true
          exact ⟨hmode.trans hsame, hreq⟩
        · split
          · obtain ⟨hsame, hreq⟩ := Spin.same_robot_run { st with operate_mode := mode } false
            exact ⟨hmode.trans hsame, hreq⟩
          · exact ⟨hmode, rfl⟩
  | set_digital_outputs out0 out1 out2 => exact st.same_set_digital_outputs [out0, out1, out2]

/-- The request once the calls are made: the last one that they make, or the old one. -/
def requestAfter (p : Params) (req : Option Cmd) (calls : List Call) : Option Cmd :=
  held (fun c => (c.request p).map some) req calls

theorem Spin.same_others (p : Params) (st : Spin) (turn : Turn) (point : Point) :
    st.Same (st.others p turn point)
      ∧ (st.others p turn point).req_cmd_vel
          = requestAfter p st.req_cmd_vel (turn.calls point) := by
  constructor
  · apply foldl_invariant (Spin.call p) (fun st' => st.Same st')
    · intro st' c h
      exact h.trans (st'.same_call p c).1
    · exact Spin.Same.refl st
  · exact foldl_component (Spin.call p) Spin.req_cmd_vel (fun c => (c.request p).map some)
      (fun st' c => (st'.same_call p c).2) st (turn.calls point)

theorem Spin.same_switch (st : Spin) :
    st.Same st.switch ∧ st.switch.req_cmd_vel = st.req_cmd_vel := by
  unfold Spin.switch
  split
  · exact st.same_robot_run (st.operate_mode == 2)
  · exact ⟨Spin.Same.refl st, rfl⟩

/-- The request that a turn takes, if there is one when it looks: the last one there is
when it reads it. -/
def taken (p : Params) (req : Option Cmd) (turn : Turn) : Option Cmd :=
  if (requestAfter p req (turn.calls .sensed)).isSome then
    requestAfter p req (turn.calls .sensed ++ turn.calls .tested ++ turn.calls .switched)
  else none

/-- The request at the start of the turn, after the calls there. -/
def Spin.requested (p : Params) (st : Spin) (turn : Turn) : Option Cmd :=
  requestAfter p st.req_cmd_vel (turn.calls .start)

/-- The turn sends a driving command: the sensors were read, and nothing stops it. -/
def Acts (st : Spin) (turn : Turn) (r : SensorState) : Prop :=
  turn.sensed = .report r ∧ ¬ Invalid r st.s.stamp ∧ ¬ NeedsReboot r

/-- The command it sends. -/
def Spin.chosen (p : Params) (st : Spin) (turn : Turn) (r : SensorState) : Cmd :=
  check_bumpers p r ((taken p (st.requested p turn) turn).getD
    (if st.s.stamp - st.last_cmd_vel_time > p.cmd_vel_timeout then (0, 0) else st.last_cmd_vel))

/-- What a turn that sends a command leaves behind. -/
structure Spin.Acted (p : Params) (st : Spin) (turn : Turn) (r : SensorState) (st' : Spin) :
    Prop where
  driven : st'.driven = st.driven ++ [st.chosen p turn r]
  last_cmd_vel : st'.last_cmd_vel = st.chosen p turn r
  last_cmd_vel_time : st'.last_cmd_vel_time
    = if (taken p (st.requested p turn) turn).isSome then st.s.stamp else st.last_cmd_vel_time
  req_cmd_vel : st'.req_cmd_vel = none
  s : st'.s = { r with user_digital_outputs := st'.s.user_digital_outputs }
  retries : st'.sensor_read_retry_count = SENSOR_READ_RETRY_COUNT
  status : st'.status = .running

theorem Spin.command_driven (st : Spin) (cmd : Cmd) :
    (st.command cmd).driven = st.driven ++ [cmd] := by
  unfold Spin.driven Spin.command Spin.send
  rw [List.filterMap_append]
  rfl

/-- Nobody but `spin` takes a request away. -/
theorem requestAfter_isSome (p : Params) (req : Cmd) (calls : List Call) :
    ∃ req', requestAfter p (some req) calls = some req' := by
  rcases held_eq_or_exists (fun c : Call => (c.request p).map some) (some req) calls with
    hnone | ⟨c, -, hheld⟩
  · exact ⟨req, held_of_none _ _ _ hnone⟩
  · obtain ⟨req', -, hsome⟩ := Option.map_eq_some_iff.mp hheld
    exact ⟨req', hsome.symm⟩

/-- `# ACT` with a request, up to where it is read. -/
theorem Spin.same_until_read (p : Params) (st : Spin) (turn : Turn) :
    let st' := ((st.others p turn .tested).switch).others p turn .switched
    st.Same st' ∧ st'.req_cmd_vel
      = requestAfter p st.req_cmd_vel (turn.calls .tested ++ turn.calls .switched) := by
  obtain ⟨htested, hreq⟩ := st.same_others p turn .tested
  obtain ⟨hswitch, hreq'⟩ := (st.others p turn .tested).same_switch
  obtain ⟨hswitched, hreq''⟩ := ((st.others p turn .tested).switch).same_others p turn .switched
  refine ⟨(htested.trans hswitch).trans hswitched, ?_⟩
  rw [hreq'', hreq', hreq]
  exact (held_append _ _ _ _).symm

/-- `# ACT`, from a state with the report `r` in it. -/
theorem Spin.act_spec (p : Params) (st : Spin) (turn : Turn) (r : SensorState) (last_time : ℤ)
    (hs : st.s = { r with user_digital_outputs := st.s.user_digital_outputs }) :
    let cmd := check_bumpers p r ((taken p st.req_cmd_vel turn).getD
      (if last_time - st.last_cmd_vel_time > p.cmd_vel_timeout then (0, 0) else st.last_cmd_vel))
    let st' := st.act p turn last_time
    st'.driven = st.driven ++ [cmd] ∧ st'.last_cmd_vel = cmd
      ∧ st'.last_cmd_vel_time
          = (if (taken p st.req_cmd_vel turn).isSome then last_time else st.last_cmd_vel_time)
      ∧ st'.req_cmd_vel = none
      ∧ st'.s = { r with user_digital_outputs := st'.s.user_digital_outputs }
      ∧ st'.sensor_read_retry_count = st.sensor_read_retry_count ∧ st'.status = st.status := by
  have hbumpers : ∀ (st' : Spin) (cmd : Cmd), st.Same st' →
      check_bumpers p st'.s cmd = check_bumpers p r cmd := by
    intro st' cmd hsame
    rw [hsame.s, hs]
    rfl
  have hkept : ∀ st' : Spin, st.Same st' →
      st'.s = { r with user_digital_outputs := st'.s.user_digital_outputs } := by
    intro st' hsame
    have hs' := hsame.s
    rwa [hs] at hs'
  obtain ⟨hsensed, hreq⟩ := st.same_others p turn .sensed
  dsimp only
  unfold Spin.act taken
  dsimp only
  rw [hreq]
  cases hlooked : requestAfter p st.req_cmd_vel (turn.calls .sensed) with
  | none =>
      dsimp only
      rw [Spin.command_driven, hbumpers _ _ hsensed, hsensed.driven, hsensed.last_cmd_vel,
        hsensed.last_cmd_vel_time]
      exact ⟨rfl, rfl, hsensed.last_cmd_vel_time, hreq.trans hlooked,
        hkept (st.others p turn .sensed) hsensed, hsensed.retries, hsensed.status⟩
  | some req =>
      dsimp only
      obtain ⟨huntil, hread⟩ := (st.others p turn .sensed).same_until_read p turn
      obtain ⟨st', hst'⟩ : ∃ st', st'
        = (((st.others p turn .sensed).others p turn .tested).switch).others p turn .switched :=
          ⟨_, rfl⟩
      rw [← hst'] at huntil hread ⊢
      have hsame := hsensed.trans huntil
      obtain ⟨hlate, -⟩ := st'.same_others p turn .read
      -- what is read is what has been requested by then
      have htaken : requestAfter p st.req_cmd_vel
          (turn.calls .sensed ++ turn.calls .tested ++ turn.calls .switched) = st'.req_cmd_vel := by
        rw [hread, hreq, List.append_assoc]
        exact held_append _ _ _ _
      obtain ⟨req', hreq'⟩ := requestAfter_isSome p req (turn.calls .tested ++ turn.calls .switched)
      rw [hreq, hlooked, hreq'] at hread
      simp only [Option.isSome_some, if_true]
      rw [htaken, hread, Option.getD_some, Option.getD_some, hbumpers _ _ hsame, Spin.command_driven]
      refine ⟨?_, rfl, rfl, rfl, hkept (st'.others p turn .read) (hsame.trans hlate),
        (hsame.trans hlate).retries, (hsame.trans hlate).status⟩
      show (st'.others p turn .read).driven ++ _ = _
      rw [(hsame.trans hlate).driven]

theorem Spin.step_eq (p : Params) (st : Spin) (turn : Turn) (hrun : st.status = .running) :
    st.step p turn =
      match turn.sensed with
      | .interrupted => st.others p turn .start
      | .failed =>
          if (st.others p turn .start).sensor_read_retry_count > 0 then
            { st.others p turn .start with
              sensor_read_retry_count := (st.others p turn .start).sensor_read_retry_count - 1 }
          else { st.others p turn .start with status := .raised }
      | .report r => (st.others p turn .start).report p turn r := by
  unfold Spin.step
  rw [if_neg (by simp [hrun])]

/-- The outputs have no part in what the report decides. -/
theorem Spin.report_eq (p : Params) (st : Spin) (turn : Turn) (r : SensorState) :
    st.report p turn r =
      if Invalid r st.s.stamp then { st.received r with status := .raised }
      else if NeedsReboot r then
        { ({ st.received r with sensor_read_retry_count := SENSOR_READ_RETRY_COUNT } :
            Spin).robot_reboot with status := .exited }
      else
        ({ st.received r with sensor_read_retry_count := SENSOR_READ_RETRY_COUNT } : Spin).act p
          turn st.s.stamp := rfl

/-- A turn that acts: one command, and this is the one. -/
theorem Spin.step_acts (p : Params) (st : Spin) (turn : Turn) (r : SensorState)
    (hrun : st.status = .running) (hacts : Acts st turn r) :
    st.Acted p turn r (st.step p turn) := by
  obtain ⟨hsensed, hvalid, hreboot⟩ := hacts
  obtain ⟨hsame, hreq⟩ := st.same_others p turn .start
  have hstamp : (st.others p turn .start).s.stamp = st.s.stamp := by
    rw [hsame.s]
  rw [Spin.step_eq p st turn hrun, hsensed]
  dsimp only
  rw [Spin.report_eq, hstamp, if_neg hvalid, if_neg hreboot]
  obtain ⟨st', hst'⟩ : ∃ st' : Spin, st' = { (st.others p turn .start).received r with
      sensor_read_retry_count := SENSOR_READ_RETRY_COUNT } := ⟨_, rfl⟩
  have hreq' : st'.req_cmd_vel = st.requested p turn := by rw [hst']; exact hreq
  have hlast' : st'.last_cmd_vel = st.last_cmd_vel := by rw [hst']; exact hsame.last_cmd_vel
  have htime' : st'.last_cmd_vel_time = st.last_cmd_vel_time := by
    rw [hst']
    exact hsame.last_cmd_vel_time
  have hdriven' : st'.driven = st.driven := by rw [hst']; exact hsame.driven
  have hretries' : st'.sensor_read_retry_count = SENSOR_READ_RETRY_COUNT := by rw [hst']
  have hstatus' : st'.status = .running := by rw [hst']; exact hsame.status.trans hrun
  obtain ⟨hdriven, hlast, htime, hnone, hs, hretries, hstatus⟩ :=
    Spin.act_spec p st' turn r st.s.stamp (by rw [hst']; rfl)
  rw [← hst']
  rw [hreq', hlast', htime'] at hdriven hlast
  rw [hreq', htime'] at htime
  rw [hdriven'] at hdriven
  exact ⟨hdriven, hlast, htime, hnone, hs, hretries.trans hretries', hstatus.trans hstatus'⟩

/-- Any other turn: no command, and if the loop goes on, the request and the time of the
last report are as the calls at its start have left them. -/
theorem Spin.step_rests (p : Params) (st : Spin) (turn : Turn)
    (hrests : st.status = .running → ∀ r, ¬ Acts st turn r) :
    (st.step p turn).driven = st.driven ∧ (st.step p turn).last_cmd_vel = st.last_cmd_vel
      ∧ (st.step p turn).last_cmd_vel_time = st.last_cmd_vel_time
      ∧ ((st.step p turn).status = .running →
          (st.step p turn).req_cmd_vel = st.requested p turn
            ∧ (st.step p turn).s.stamp = st.s.stamp) := by
  by_cases hrun : st.status = .running
  · obtain ⟨hsame, hreq⟩ := st.same_others p turn .start
    have hstamp : (st.others p turn .start).s.stamp = st.s.stamp := by
      rw [hsame.s]
    rw [Spin.step_eq p st turn hrun]
    cases hsensed : turn.sensed with
    | interrupted =>
        exact ⟨hsame.driven, hsame.last_cmd_vel, hsame.last_cmd_vel_time, fun _ => ⟨hreq, hstamp⟩⟩
    | failed =>
        dsimp only
        split <;>
          exact ⟨hsame.driven, hsame.last_cmd_vel, hsame.last_cmd_vel_time, fun _ => ⟨hreq, hstamp⟩⟩
    | report r =>
        dsimp only
        rw [Spin.report_eq, hstamp]
        by_cases hinvalid : Invalid r st.s.stamp
        · rw [if_pos hinvalid]
          exact ⟨hsame.driven, hsame.last_cmd_vel, hsame.last_cmd_vel_time, nofun⟩
        · rw [if_neg hinvalid]
          -- it can only be the battery
          have hreboot : NeedsReboot r := by
            by_contra hno
            exact hrests hrun r ⟨hsensed, hinvalid, hno⟩
          rw [if_pos hreboot]
          have hout := Spin.same_robot_reboot
            { (st.others p turn .start).received r with
              sensor_read_retry_count := SENSOR_READ_RETRY_COUNT }
          exact ⟨hout.driven.trans hsame.driven, hout.last_cmd_vel.trans hsame.last_cmd_vel,
            hout.last_cmd_vel_time.trans hsame.last_cmd_vel_time, nofun⟩
  · -- the loop is over
    have hsame : st.step p turn = st := if_pos hrun
    rw [hsame]
    exact ⟨rfl, rfl, rfl, fun h => absurd h hrun⟩

/-- A turn sends one command or none. -/
theorem Spin.step_driven (p : Params) (st : Spin) (turn : Turn) :
    (∃ r, st.status = .running ∧ Acts st turn r ∧ st.Acted p turn r (st.step p turn))
      ∨ (st.step p turn).driven = st.driven := by
  by_cases hacts : st.status = .running ∧ ∃ r, Acts st turn r
  · obtain ⟨hrun, r, hr⟩ := hacts
    exact Or.inl ⟨r, hrun, hr, st.step_acts p turn r hrun hr⟩
  · right
    exact (st.step_rests p turn (fun hrun r hr => hacts ⟨hrun, r, hr⟩)).1

end Sonar3D.Turtlebot
