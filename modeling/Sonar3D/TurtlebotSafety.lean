/-
What the robot is never told to do.

Every driving command that `spin` sends is a request that came, or the one sent
before, or a stop; so what holds of the requests and of a stop holds of all that is
sent. The wheels are never asked for more than their greatest speed, if the turn of
the messages is limited; a robot on a bumper is not driven forward; a robot that gets
no messages any more is stopped, and one that was stopped stays where it is until the
next message. Each holds in every run of the loop: whatever the messages and the
services called, at whatever points of its turns, and whatever the reports and the
failures of the sensors, and their times.
-/
import Sonar3D.TurtlebotNode
import Mathlib.Tactic.Linarith

set_option autoImplicit false

namespace Sonar3D.Turtlebot

open Sonar3D.Hold Sonar3D.Runs

/-- The state before turn `n`. -/
def spinAt (p : Params) (st : Spin) (turns : List Turn) (n : ℕ) : Spin :=
  stateAt (Spin.step p) st turns n

theorem spinAt_succ (p : Params) (st : Spin) (turns : List Turn) (n : ℕ) (h : n < turns.length) :
    spinAt p st turns (n + 1) = (spinAt p st turns n).step p turns[n] := stateAt_succ _ _ _ _ h

/-! ## A run -/

/-- A Create in `twist` mode, its yaw limited to three radians a second. -/
def createParams : Params where
  drive_mode := .twist
  wheel_separation := 0.26
  min_abs_yaw_vel := none
  max_abs_yaw_vel := some 3
  stop_motors_on_bump := true
  cmd_vel_timeout := 600000000

def createStart : Spin := Spin.start SensorState.initial none 3 0

/-- A report in full mode. -/
def reportAt (stamp bumps_wheeldrops : ℤ) : SensorState :=
  { SensorState.initial with stamp, bumps_wheeldrops, oi_mode := 3 }

/-- Forward at a tenth of a metre a second; a bumper; and two reports without it. -/
def bumpTurns : List Turn :=
  [.plain [.cmd_vel (.twist (1 / 10) 0)] (.report (reportAt 1000000000 0)),
    .plain [] (.report (reportAt 1100000000 2)), .plain [] (.report (reportAt 1200000000 0)),
    .plain [] (.report (reportAt 1300000000 0))]

/-! ## From requests to commands -/

theorem check_bumpers_cases (p : Params) (s : SensorState) (cmd : Cmd) :
    check_bumpers p s cmd = (0, 0) ∨ check_bumpers p s cmd = cmd := by
  unfold check_bumpers
  split
  · exact Or.inl rfl
  · exact Or.inr rfl

/-- A predicate of the state that the loop carries: true of what was sent, of what it
would send again, and of the request it has. -/
structure Carried (B : Cmd → Prop) (st : Spin) : Prop where
  driven : ∀ cmd ∈ st.driven, B cmd
  last_cmd_vel : B st.last_cmd_vel
  req_cmd_vel : st.status = .running → ∀ req, st.req_cmd_vel = some req → B req

theorem requestAfter_cases (p : Params) (req : Option Cmd) (calls : List Call) :
    requestAfter p req calls = req ∨ ∃ c ∈ calls, ∃ req', c.request p = some req'
      ∧ requestAfter p req calls = some req' := by
  rcases held_eq_or_exists (fun c : Call => (c.request p).map some) req calls with
    hnone | ⟨c, hc, hheld⟩
  · exact Or.inl (held_of_none _ _ _ hnone)
  · obtain ⟨req', hreq, hsome⟩ := Option.map_eq_some_iff.mp hheld
    exact Or.inr ⟨c, hc, req', hreq, hsome.symm⟩

theorem request_cmd_vel (p : Params) (c : Call) (req : Cmd) (h : c.request p = some req) :
    ∃ msg, cmd_vel p msg = some req := by
  cases c with
  | cmd_vel msg => exact ⟨msg, h⟩
  | set_operation_mode mode => exact absurd h (by simp [Call.request])
  | set_digital_outputs out0 out1 out2 => exact absurd h (by simp [Call.request])

variable (p : Params) (B : Cmd → Prop)

theorem requestAfter_carried {B : Cmd → Prop} {req : Option Cmd}
    (hcmd : ∀ msg cmd, cmd_vel p msg = some cmd → B cmd) (h : ∀ cmd, req = some cmd → B cmd)
    (calls : List Call) (cmd : Cmd) (hafter : requestAfter p req calls = some cmd) : B cmd := by
  rcases requestAfter_cases p req calls with hold | ⟨c, -, req', hreq', hnew⟩
  · exact h cmd (hold.symm.trans hafter)
  · obtain ⟨msg, hmsg⟩ := request_cmd_vel p c req' hreq'
    obtain rfl := Option.some.inj (hnew.symm.trans hafter)
    exact hcmd msg _ hmsg

theorem taken_carried {B : Cmd → Prop} {req : Option Cmd}
    (hcmd : ∀ msg cmd, cmd_vel p msg = some cmd → B cmd) (h : ∀ cmd, req = some cmd → B cmd)
    (turn : Turn) (cmd : Cmd) (htaken : taken p req turn = some cmd) : B cmd := by
  unfold taken at htaken
  split at htaken
  · exact requestAfter_carried p hcmd h _ cmd htaken
  · exact absurd htaken (by simp)

theorem Carried.requested {B : Cmd → Prop} {st : Spin} (h : Carried B st)
    (hcmd : ∀ msg cmd, cmd_vel p msg = some cmd → B cmd) (hrun : st.status = .running)
    (turn : Turn) (cmd : Cmd) (hreq : st.requested p turn = some cmd) : B cmd :=
  requestAfter_carried p hcmd (h.req_cmd_vel hrun) _ cmd hreq

/-- The command of a turn is a stop, a request or the last one. -/
theorem Carried.chosen {B : Cmd → Prop} {st : Spin} (h : Carried B st) (hzero : B (0, 0))
    (hcmd : ∀ msg cmd, cmd_vel p msg = some cmd → B cmd) (hrun : st.status = .running)
    (turn : Turn) (r : SensorState) : B (st.chosen p turn r) := by
  unfold Spin.chosen
  rcases check_bumpers_cases p r ((taken p (st.requested p turn) turn).getD
    (if st.s.stamp - st.last_cmd_vel_time > p.cmd_vel_timeout then (0, 0)
      else st.last_cmd_vel)) with hstop | hsame
  · rw [hstop]
    exact hzero
  · rw [hsame]
    cases htaken : taken p (st.requested p turn) turn with
    | some req => exact taken_carried p hcmd (h.requested p hcmd hrun turn) turn req htaken
    | none =>
        rw [Option.getD_none]
        split
        · exact hzero
        · exact h.last_cmd_vel

/-- One turn carries it on. -/
theorem Carried.step {B : Cmd → Prop} {st : Spin} (h : Carried B st) (hzero : B (0, 0))
    (hcmd : ∀ msg cmd, cmd_vel p msg = some cmd → B cmd) (turn : Turn) :
    Carried B (st.step p turn) := by
  by_cases hacts : st.status = .running ∧ ∃ r, Acts st turn r
  · obtain ⟨hrun, r, hr⟩ := hacts
    have hacted := st.step_acts p turn r hrun hr
    have hchosen := h.chosen p hzero hcmd hrun turn r
    refine ⟨?_, ?_, ?_⟩
    · intro cmd hmem
      rw [hacted.driven] at hmem
      rcases List.mem_append.mp hmem with hold | hnew
      · exact h.driven cmd hold
      · rw [List.mem_singleton.mp hnew]
        exact hchosen
    · rw [hacted.last_cmd_vel]
      exact hchosen
    · intro _ req hreq
      rw [hacted.req_cmd_vel] at hreq
      exact absurd hreq (by simp)
  · obtain ⟨hdriven, hlast, -, hgoesOn⟩ :=
      st.step_rests p turn (fun hrun r hr => hacts ⟨hrun, r, hr⟩)
    refine ⟨?_, ?_, ?_⟩
    · rw [hdriven]
      exact h.driven
    · rw [hlast]
      exact h.last_cmd_vel
    · intro hrun req hreq
      by_cases hrun' : st.status = .running
      · rw [(hgoesOn hrun).1] at hreq
        exact h.requested p hcmd hrun' turn req hreq
      · have hsame : st.step p turn = st := if_pos hrun'
        rw [hsame] at hrun
        exact absurd hrun hrun'

/-- What holds of a stop and of every request holds of every command of a run. -/
theorem Carried.foldl {B : Cmd → Prop} {st : Spin} (h : Carried B st) (hzero : B (0, 0))
    (hcmd : ∀ msg cmd, cmd_vel p msg = some cmd → B cmd) (turns : List Turn) :
    Carried B (turns.foldl (Spin.step p) st) :=
  foldl_invariant (Spin.step p) (Carried B) (fun _ turn hst => hst.step p hzero hcmd turn) st h turns

/-- Where `spin` starts, also for another time, with a request left over. -/
theorem carried_start (hzero : B (0, 0)) (hcmd : ∀ msg cmd, cmd_vel p msg = some cmd → B cmd)
    (s : SensorState) (req : Option Cmd) (operate_mode now : ℤ)
    (hreq : ∀ cmd, req = some cmd → ∃ msg, cmd_vel p msg = some cmd) :
    Carried B (Spin.start s req operate_mode now) := by
  refine ⟨fun _ h => absurd h List.not_mem_nil, hzero, ?_⟩
  intro _ cmd h
  obtain ⟨msg, hmsg⟩ := hreq cmd h
  exact hcmd msg cmd hmsg

/-! ## The speed of the wheels -/

theorem abs_int_le_iff (x : ℚ) : |int x| ≤ 500 ↔ |x| < 501 := by
  unfold int
  rw [abs_le, abs_lt]
  split
  case isTrue hpos =>
    have hfloor : 0 ≤ ⌊x⌋ := Int.floor_nonneg.mpr hpos
    have hlt : ⌊x⌋ < 501 ↔ x < 501 := Int.floor_lt
    constructor
    · rintro ⟨-, hle⟩
      exact ⟨by linarith, hlt.mp (by omega)⟩
    · rintro ⟨-, hx⟩
      have hlt' := hlt.mpr hx
      exact ⟨by omega, by omega⟩
  case isFalse hneg =>
    have hceil : ⌈x⌉ ≤ 0 := Int.ceil_le.mpr (by push_cast; exact (not_le.mp hneg).le)
    have hlt : -501 < ⌈x⌉ ↔ ((-501 : ℤ) : ℚ) < x := Int.lt_ceil
    push_cast at hlt
    constructor
    · rintro ⟨hge, -⟩
      exact ⟨hlt.mp (by omega), by linarith [not_le.mp hneg]⟩
    · rintro ⟨hx, -⟩
      have hlt' := hlt.mpr hx
      exact ⟨by omega, by omega⟩

/-- The two wheels of a compound command are within a bound exactly if the speed and
the turn are together. -/
theorem abs_sub_add_lt_iff (a b c : ℚ) : (|a - b| < c ∧ |a + b| < c) ↔ |a| + |b| < c := by
  constructor
  · rintro ⟨hsub, hadd⟩
    obtain ⟨hsub, hsub'⟩ := abs_lt.mp hsub
    obtain ⟨hadd, hadd'⟩ := abs_lt.mp hadd
    rcases abs_cases a with ⟨ha, -⟩ | ⟨ha, -⟩ <;> rcases abs_cases b with ⟨hb, -⟩ | ⟨hb, -⟩ <;>
      rw [ha, hb] <;> linarith
  · intro h
    exact ⟨(abs_sub a b).trans_lt h, (abs_add_le a b).trans_lt h⟩

/-- What is left of the speed, under a turn. -/
theorem saturated_lt_iff (ts tw : ℚ) :
    |if ts > 0 then min ts (MAX_WHEEL_SPEED - |tw|) else max ts (-(MAX_WHEEL_SPEED - |tw|))|
        + |tw| < 501 ↔ |tw| < 1001 / 2 := by
  have hmax : MAX_WHEEL_SPEED = 500 := rfl
  rw [hmax]
  by_cases hturn : |tw| ≤ 500
  · -- room for the turn: the speed fills it at most
    refine iff_of_true ?_ (by linarith)
    split
    case isTrue hts =>
      have hpos : 0 ≤ min ts (500 - |tw|) := le_min hts.le (by linarith)
      have hle := min_le_right ts (500 - |tw|)
      rw [abs_of_nonneg hpos]
      linarith
    case isFalse hts =>
      have hneg : max ts (-(500 - |tw|)) ≤ 0 := max_le (not_lt.mp hts) (by linarith)
      have hge := le_max_right ts (-(500 - |tw|))
      rw [abs_of_nonpos hneg]
      linarith
  · -- too much of a turn: the speed changes its direction
    have hover := not_le.mp hturn
    have habs : |if ts > 0 then min ts (500 - |tw|) else max ts (-(500 - |tw|))| = |tw| - 500 := by
      split
      case isTrue hts =>
        rw [min_eq_right (by linarith), abs_of_neg (by linarith)]
        ring
      case isFalse hts =>
        rw [max_eq_right (by linarith), abs_of_pos (by linarith)]
        ring
    rw [habs]
    constructor <;> intro h <;> linarith

/-- In `twist` mode both wheels are within their greatest speed exactly if the turn
alone is, to half a millimetre; how fast the message wants to go does not matter. -/
theorem cmd_vel_bounded_iff (hmode : p.drive_mode = .twist) (linear_x angular_z : ℚ) :
    ∃ cmd, cmd_vel p (.twist linear_x angular_z) = some cmd
      ∧ (|cmd.1| ≤ 500 ∧ |cmd.2| ≤ 500 ↔ |p.turnSpeed angular_z| < 1001 / 2) := by
  unfold cmd_vel
  rw [hmode]
  dsimp only
  refine ⟨_, rfl, ?_⟩
  dsimp only
  rw [← Int.cast_abs, ← Int.cast_abs, ← saturated_lt_iff, ← abs_sub_add_lt_iff]
  norm_cast
  rw [abs_int_le_iff, abs_int_le_iff]

theorem clampMax_le (high : ℚ) (hhigh : 0 < high) (z : ℚ) : |clampMax (some high) z| ≤ high := by
  unfold clampMax
  dsimp only
  by_cases hlimit : high > 0 ∧ z ≠ 0 ∧ |z| > high
  · rw [if_pos hlimit]
    split
    · rw [abs_of_pos hhigh]
    · rw [abs_neg, abs_of_pos hhigh]
  · rw [if_neg hlimit]
    by_contra hover
    refine hlimit ⟨hhigh, ?_, not_le.mp hover⟩
    rintro rfl
    rw [abs_zero] at hover
    exact hover hhigh.le

/-- Two whole speeds that the wheels can go. -/
def Reachable (cmd : Cmd) : Prop := ∃ l r : ℤ, cmd = ((l : ℚ), (r : ℚ)) ∧ |l| ≤ 500 ∧ |r| ≤ 500

theorem reachable_of_cmd_vel (hmode : p.drive_mode = .twist) (high : ℚ) (hhigh : 0 < high)
    (hmax : p.max_abs_yaw_vel = some high) (hsep : 0 ≤ p.wheel_separation)
    (hturn : high * (p.wheel_separation / 2) * 1000 ≤ 500) (msg : VelMsg) (cmd : Cmd)
    (h : cmd_vel p msg = some cmd) : Reachable cmd := by
  cases msg with
  | twist linear_x angular_z =>
      have hspeed : |p.turnSpeed angular_z| < 1001 / 2 := by
        have hle := clampMax_le high hhigh (clampMin p.min_abs_yaw_vel angular_z)
        unfold Params.turnSpeed
        rw [hmax, abs_mul, abs_mul, abs_of_nonneg (by linarith : 0 ≤ p.wheel_separation / 2),
          abs_of_pos (by norm_num : (0 : ℚ) < 1000)]
        calc |clampMax (some high) (clampMin p.min_abs_yaw_vel angular_z)|
              * (p.wheel_separation / 2) * 1000
            ≤ high * (p.wheel_separation / 2) * 1000 := by gcongr
          _ < 1001 / 2 := by linarith
      obtain ⟨cmd', hcmd', hbound⟩ := cmd_vel_bounded_iff p hmode linear_x angular_z
      obtain ⟨hl, hr⟩ := hbound.mpr hspeed
      have hints : ∃ l r : ℤ, cmd' = ((l : ℚ), (r : ℚ)) := by
        unfold cmd_vel at hcmd'
        rw [hmode] at hcmd'
        exact ⟨_, _, (Option.some.inj hcmd').symm⟩
      obtain ⟨l, r, rfl⟩ := hints
      obtain rfl := Option.some.inj (hcmd'.symm.trans h)
      dsimp only at hl hr
      exact ⟨l, r, rfl, by exact_mod_cast hl, by exact_mod_cast hr⟩
  | turtle linear angular =>
      unfold cmd_vel at h
      rw [hmode] at h
      exact absurd h (by simp)
  | drive velocity radius =>
      unfold cmd_vel at h
      rw [hmode] at h
      exact absurd h (by simp)

/-- In every run in `twist` mode with the turn limited, the robot reads every driving
command as two wheel speeds of 500 mm/s at most. -/
theorem twist_speeds_bounded (hmode : p.drive_mode = .twist) (high : ℚ) (hhigh : 0 < high)
    (hmax : p.max_abs_yaw_vel = some high) (hsep : 0 ≤ p.wheel_separation)
    (hturn : high * (p.wheel_separation / 2) * 1000 ≤ 500) (s : SensorState) (req : Option Cmd)
    (hreq : ∀ cmd, req = some cmd → ∃ msg, cmd_vel p msg = some cmd) (operate_mode now : ℤ)
    (turns : List Turn) (cmd : Cmd)
    (hsent : Sent.drive_cmd cmd
      ∈ (turns.foldl (Spin.step p) (Spin.start s req operate_mode now)).sent) :
    ∃ l r : ℤ, |l| ≤ 500 ∧ |r| ≤ 500
      ∧ ((Sent.drive_cmd cmd).commands p).map reads = [some [145, r, l]] := by
  have hcmd := reachable_of_cmd_vel p hmode high hhigh hmax hsep hturn
  have hzero : Reachable (0, 0) := ⟨0, 0, rfl, by decide, by decide⟩
  have hcarried := (carried_start p Reachable hzero hcmd s req operate_mode now hreq).foldl p hzero
    hcmd turns
  obtain ⟨l, r, rfl, hl, hr⟩ :=
    hcarried.driven cmd (List.mem_filterMap.mpr ⟨_, hsent, rfl⟩)
  refine ⟨l, r, hl, hr, ?_⟩
  have hl' := abs_le.mp hl
  have hr' := abs_le.mp hr
  have hcommands : (Sent.drive_cmd ((l : ℚ), (r : ℚ))).commands p = [direct_drive l r] := by
    unfold Sent.commands
    rw [hmode]
  rw [hcommands, List.map_singleton, reads_direct_drive, int_intCast, int_intCast,
    (wrap16_eq_iff l).mpr (by omega), (wrap16_eq_iff r).mpr (by omega)]

theorem twist_speeds_bounded_create :
    ∃ l r : ℤ, |l| ≤ 500 ∧ |r| ≤ 500
      ∧ ((Sent.drive_cmd (100, 100)).commands createParams).map reads = [some [145, r, l]] :=
  twist_speeds_bounded createParams rfl 3 (by norm_num) rfl (by decide +kernel)
    (by decide +kernel) SensorState.initial none (fun _ h => absurd h (by simp)) 3 0 bumpTurns
    (100, 100) (by decide +kernel)

/-- In the other modes a limit on the yaw makes every message fail, and then nothing
but stops is ever sent: with the parameters fixed for the run, and no request waiting
when it starts. -/
theorem other_modes_deaf (hmode : p.drive_mode ≠ .twist) (hyaw : p.readsYaw = true)
    (s : SensorState) (operate_mode now : ℤ) (turns : List Turn) (cmd : Cmd)
    (hsent : Sent.drive_cmd cmd
      ∈ (turns.foldl (Spin.step p) (Spin.start s none operate_mode now)).sent) :
    cmd = (0, 0) := by
  have hnone : ∀ msg, cmd_vel p msg = none := by
    intro msg
    unfold cmd_vel
    cases hm : p.drive_mode with
    | twist => exact absurd hm hmode
    | turtle => cases msg <;> simp [hyaw]
    | drive => cases msg <;> simp [hyaw]
  have hcmd : ∀ msg cmd, cmd_vel p msg = some cmd → cmd = (0, 0) := by
    intro msg cmd h
    rw [hnone msg] at h
    exact absurd h (by simp)
  have hcarried := (carried_start p (fun cmd => cmd = (0, 0)) rfl hcmd s none operate_mode now
    (fun cmd h => absurd h (by simp))).foldl p rfl hcmd turns
  exact hcarried.driven cmd (List.mem_filterMap.mpr ⟨_, hsent, rfl⟩)

/-- A Create in `turtle` mode, with the least yaw that `TurtleBot.cfg` takes. -/
def turtleParams : Params := { createParams with drive_mode := .turtle, min_abs_yaw_vel := some 0 }

/-- A message, and two reports. -/
def turtleTurns : List Turn :=
  [.plain [.cmd_vel (.turtle (1 / 10) 0)] (.report (reportAt 1000000000 0)),
    .plain [] (.report (reportAt 1100000000 0))]

theorem other_modes_deaf_turtle :
    (turtleTurns.foldl (Spin.step turtleParams) createStart).last_cmd_vel = (0, 0) :=
  other_modes_deaf turtleParams (by decide) rfl SensorState.initial 3 0 turtleTurns _
    (by decide +kernel)

/-! ## Stops that last -/

/-- No call of the turn makes a request. -/
def Quiet (turn : Turn) : Prop := ∀ point, ∀ c ∈ turn.calls point, c.request p = none

theorem quiet_plain (sensed : Sensed) : Quiet p (Turn.plain [] sensed) := by
  intro point c hc
  have hnone : (Turn.plain [] sensed).calls point = [] := ite_self []
  rw [hnone] at hc
  exact absurd hc List.not_mem_nil

theorem requestAfter_of_quiet (req : Option Cmd) (calls : List Call)
    (h : ∀ c ∈ calls, c.request p = none) : requestAfter p req calls = req := by
  apply held_of_none
  intro c hc
  rw [h c hc]
  rfl

theorem requested_of_quiet (st : Spin) (turn : Turn) (h : Quiet p turn) :
    st.requested p turn = st.req_cmd_vel := requestAfter_of_quiet p _ _ (h .start)

theorem taken_none_of_quiet (turn : Turn) (h : Quiet p turn) : taken p none turn = none := by
  unfold taken
  rw [requestAfter_of_quiet p none _ (h .sensed)]
  rfl

/-- If the loop goes on, it has no request, and it has stopped the robot or is about to:
too much time has passed since the last request. -/
def Halted (st : Spin) : Prop :=
  st.status = .running → st.req_cmd_vel = none
    ∧ (st.last_cmd_vel = (0, 0) ∨ st.s.stamp - st.last_cmd_vel_time > p.cmd_vel_timeout)

theorem check_bumpers_zero (s : SensorState) : check_bumpers p s (0, 0) = (0, 0) := by
  unfold check_bumpers
  split <;> rfl

/-- A turn without a message leaves it so, and sends a stop if anything. -/
theorem Halted.step {p : Params} {st : Spin} (h : Halted p st) (turn : Turn)
    (hquiet : Quiet p turn) :
    Halted p (st.step p turn)
      ∧ ((st.step p turn).driven = st.driven ∨ (st.step p turn).driven = st.driven ++ [(0, 0)]) := by
  by_cases hacts : st.status = .running ∧ ∃ r, Acts st turn r
  · obtain ⟨hrun, r, hr⟩ := hacts
    have hacted := st.step_acts p turn r hrun hr
    obtain ⟨hnone, hstop⟩ := h hrun
    have hchosen : st.chosen p turn r = (0, 0) := by
      unfold Spin.chosen
      rw [requested_of_quiet p st turn hquiet, hnone, taken_none_of_quiet p turn hquiet,
        Option.getD_none]
      rcases hstop with hlast | htime
      · rw [hlast, ite_self, check_bumpers_zero]
      · rw [if_pos htime, check_bumpers_zero]
    refine ⟨fun _ => ⟨hacted.req_cmd_vel, Or.inl ?_⟩, Or.inr ?_⟩
    · rw [hacted.last_cmd_vel, hchosen]
    · rw [hacted.driven, hchosen]
  · obtain ⟨hdriven, hlast, htime, hgoesOn⟩ :=
      st.step_rests p turn (fun hrun r hr => hacts ⟨hrun, r, hr⟩)
    refine ⟨fun hrun => ?_, Or.inl hdriven⟩
    obtain ⟨hreq, hstamp⟩ := hgoesOn hrun
    have hrun' : st.status = .running := by
      by_contra hover
      have hsame : st.step p turn = st := if_pos hover
      rw [hsame] at hrun
      exact hover hrun
    rw [hreq, hlast, htime, hstamp, requested_of_quiet p st turn hquiet]
    exact h hrun'

/-- From a halt on, until the next message, nothing is sent but stops. -/
theorem Halted.stops {p : Params} {st : Spin} {turns : List Turn} {m : ℕ}
    (h : Halted p (spinAt p st turns m)) (n : ℕ) (hmn : m ≤ n) (hn : n ≤ turns.length)
    (hquiet : ∀ k, m ≤ k → k < n → ∀ hk : k < turns.length, Quiet p turns[k]) :
    ∃ j, (spinAt p st turns n).driven
      = (spinAt p st turns m).driven ++ List.replicate j (0, 0) := by
  have hboth : Halted p (spinAt p st turns n) ∧ ∃ j, (spinAt p st turns n).driven
      = (spinAt p st turns m).driven ++ List.replicate j (0, 0) := by
    induction n, hmn using Nat.le_induction with
    | base => exact ⟨h, 0, by simp⟩
    | succ n hmn ih =>
        obtain ⟨hhalted, j, hj⟩ := ih (by omega) (fun k hmk hkn hk => hquiet k hmk (by omega) hk)
        have hlt : n < turns.length := hn
        obtain ⟨hnext, hdriven⟩ := hhalted.step turns[n] (hquiet n hmn (by omega) hlt)
        rw [spinAt_succ p st turns n hlt]
        refine ⟨hnext, ?_⟩
        rcases hdriven with hsame | hstop
        · exact ⟨j, hsame.trans hj⟩
        · refine ⟨j + 1, ?_⟩
          rw [hstop, hj, List.append_assoc, List.replicate_succ']
  exact hboth.2

/-- While no message comes, the time of the last request stays, and there is none. -/
theorem waiting_spinAt (st : Spin) (turns : List Turn) (m n : ℕ) (hmn : m ≤ n)
    (hn : n ≤ turns.length)
    (hreq : (spinAt p st turns m).status = .running → (spinAt p st turns m).req_cmd_vel = none)
    (hquiet : ∀ k, m ≤ k → k < n → ∀ hk : k < turns.length, Quiet p turns[k]) :
    ((spinAt p st turns n).status = .running → (spinAt p st turns n).req_cmd_vel = none)
      ∧ (spinAt p st turns n).last_cmd_vel_time = (spinAt p st turns m).last_cmd_vel_time := by
  induction n, hmn using Nat.le_induction with
  | base => exact ⟨hreq, rfl⟩
  | succ n hmn ih =>
      obtain ⟨hnone, htime⟩ := ih (by omega) (fun k hmk hkn hk => hquiet k hmk (by omega) hk)
      have hlt : n < turns.length := hn
      have hquiet' := requested_of_quiet p (spinAt p st turns n) turns[n]
        (hquiet n hmn (by omega) hlt)
      rw [spinAt_succ p st turns n hlt]
      by_cases hacts : (spinAt p st turns n).status = .running ∧ ∃ r, Acts (spinAt p st turns n)
          turns[n] r
      · obtain ⟨hrun, r, hr⟩ := hacts
        have hacted := Spin.step_acts p _ turns[n] r hrun hr
        refine ⟨fun _ => hacted.req_cmd_vel, ?_⟩
        rw [hacted.last_cmd_vel_time, hquiet', hnone hrun,
          taken_none_of_quiet p turns[n] (hquiet n hmn (by omega) hlt)]
        exact htime
      · obtain ⟨-, -, htime', hgoesOn⟩ := Spin.step_rests p (spinAt p st turns n) turns[n]
          (fun hrun r hr => hacts ⟨hrun, r, hr⟩)
        refine ⟨fun hrun => ?_, htime'.trans htime⟩
        have hrun' : (spinAt p st turns n).status = .running := by
          by_contra hover
          have hsame : (spinAt p st turns n).step p turns[n] = spinAt p st turns n := if_pos hover
          rw [hsame] at hrun
          exact hover hrun
        rw [(hgoesOn hrun).1, hquiet']
        exact hnone hrun'

/-- **The watchdog.** In every run, once no message has come since turn `m` and the
reports have gone on for more than the timeout since the last request before it, all
that is sent is stops, until the next message. -/
theorem watchdog_stops (st : Spin) (turns : List Turn) (m k n : ℕ) (hmk : m ≤ k) (hkn : k ≤ n)
    (hn : n ≤ turns.length) (hreq : (spinAt p st turns m).req_cmd_vel = none)
    (hquiet : ∀ i, m ≤ i → i < n → ∀ hi : i < turns.length, Quiet p turns[i])
    (htime : (spinAt p st turns k).s.stamp - (spinAt p st turns m).last_cmd_vel_time
      > p.cmd_vel_timeout) :
    ∃ j, (spinAt p st turns n).driven
      = (spinAt p st turns k).driven ++ List.replicate j (0, 0) := by
  obtain ⟨hnone, hlast⟩ := waiting_spinAt p st turns m k hmk (hkn.trans hn) (fun _ => hreq)
    (fun i hmi hik hi => hquiet i hmi (by omega) hi)
  have hhalted : Halted p (spinAt p st turns k) := by
    intro hrun
    rw [hlast]
    exact ⟨hnone hrun, Or.inr htime⟩
  exact hhalted.stops n hkn hn (fun i hki hin hi => hquiet i (hmk.trans hki) hin hi)

theorem watchdog_stops_create :
    ∃ j, (spinAt createParams createStart bumpTurns 4).driven
      = (spinAt createParams createStart bumpTurns 3).driven ++ List.replicate j (0, 0) := by
  apply watchdog_stops createParams createStart bumpTurns 1 3 4 (by decide) (by decide) (by decide)
    (by decide +kernel) _ (by decide +kernel)
  intro i hmi hin hi
  obtain rfl | rfl | rfl : i = 1 ∨ i = 2 ∨ i = 3 := by omega
  all_goals exact quiet_plain createParams _

theorem check_bumpers_not_forward (hstop : p.stop_motors_on_bump = true) (s : SensorState)
    (hbump : s.bumps_wheeldrops > 0) (cmd : Cmd) :
    (check_bumpers p s cmd).1 + (check_bumpers p s cmd).2 ≤ 0 := by
  unfold check_bumpers
  split
  case isTrue => norm_num
  case isFalse hno =>
    by_contra hforward
    exact hno ⟨hstop, hbump, not_le.mp hforward⟩

/-- **The bumpers.** In every run in `twist` or `turtle` mode, a command sent on a report
of a bumper or a dropped wheel goes to the two wheels with speeds that do not add up to a
way forward; and if it is a stop, then all that is sent until the next message is stops,
bumper or not. -/
theorem bumpers_stop (hmode : p.drive_mode ≠ .drive) (hstop : p.stop_motors_on_bump = true)
    (st : Spin) (turns : List Turn) (m : ℕ) (hm : m < turns.length) (cmd : Cmd)
    (hcmd : (spinAt p st turns (m + 1)).driven = (spinAt p st turns m).driven ++ [cmd])
    (hbump : (spinAt p st turns (m + 1)).s.bumps_wheeldrops > 0) :
    (Sent.drive_cmd cmd).commands p = [direct_drive cmd.1 cmd.2] ∧ cmd.1 + cmd.2 ≤ 0
      ∧ (cmd = (0, 0) → ∀ n, m < n → n ≤ turns.length →
          (∀ k, m < k → k < n → ∀ hk : k < turns.length, Quiet p turns[k]) →
          ∃ j, (spinAt p st turns n).driven
            = (spinAt p st turns m).driven ++ List.replicate (j + 1) (0, 0)) := by
  rw [spinAt_succ p st turns m hm] at hcmd hbump
  rcases Spin.step_driven p (spinAt p st turns m) turns[m] with ⟨r, hrun, hr, hacted⟩ | hsame
  · have hchosen : (spinAt p st turns m).chosen p turns[m] r = cmd := by
      have happend := hacted.driven.symm.trans hcmd
      simpa using happend
    have hbump' : r.bumps_wheeldrops > 0 := by
      rw [hacted.s] at hbump
      exact hbump
    refine ⟨?_, ?_, ?_⟩
    · -- the two numbers are the speeds of the wheels
      unfold Sent.commands
      cases hm : p.drive_mode with
      | twist => rfl
      | turtle => rfl
      | drive => exact absurd hm hmode
    · rw [← hchosen]
      exact check_bumpers_not_forward p hstop r hbump' _
    · rintro rfl n hmn hn hquiet
      have hhalted : Halted p (spinAt p st turns (m + 1)) := by
        rw [spinAt_succ p st turns m hm]
        exact fun _ => ⟨hacted.req_cmd_vel, Or.inl (hacted.last_cmd_vel.trans hchosen)⟩
      obtain ⟨j, hj⟩ := hhalted.stops n hmn hn (fun k hmk hkn hk => hquiet k hmk hkn hk)
      refine ⟨j, ?_⟩
      rw [hj, spinAt_succ p st turns m hm, hcmd, List.append_assoc, List.replicate_succ]
      rfl
  · -- no command was sent at all
    rw [hsame] at hcmd
    exact absurd (List.self_eq_append_right.mp hcmd) (by simp)

theorem bumpers_stop_create :
    ∃ j, (spinAt createParams createStart bumpTurns 4).driven
      = (spinAt createParams createStart bumpTurns 1).driven ++ List.replicate (j + 1) (0, 0) := by
  apply (bumpers_stop createParams (by decide) rfl createStart bumpTurns 1 (by decide) (0, 0)
    (by decide +kernel) (by decide +kernel)).2.2 rfl 4 (by decide) (by decide)
  intro k hmk hkn hk
  obtain rfl | rfl : k = 2 ∨ k = 3 := by omega
  all_goals exact quiet_plain createParams _

/-- In `drive` mode the speed and the radius are added up, so on a bumper the robot
drives forward through any right turn that is wider than it is fast. -/
theorem check_bumpers_drive (s : SensorState) (hstop : p.stop_motors_on_bump = true)
    (hbump : s.bumps_wheeldrops > 0) (velocity radius : ℚ) (hforward : velocity > 0) :
    (check_bumpers p s (velocity, radius)).1 > 0 ↔ radius ≤ -velocity := by
  unfold check_bumpers
  dsimp only
  split
  case isTrue h => exact iff_of_false (lt_irrefl 0) (by linarith [h.2.2])
  case isFalse h =>
    refine iff_of_true hforward ?_
    by_contra hright
    exact h ⟨hstop, hbump, by linarith⟩

/-! ## Failures of the sensors -/

/-- Whether an attempt to read the sensors succeeded; an interrupted one is none. -/
def Turn.attempt? (turn : Turn) : Option Bool :=
  match turn.sensed with
  | .interrupted => none
  | .failed => some false
  | .report _ => some true

/-- The attempts of some turns, the last one first. -/
def attempts (turns : List Turn) : List Bool :=
  (turns.filterMap Turn.attempt?).reverse

/-- How many failures the loop can take: none before the first report, and five after
one, less those since. -/
def Tolerates (retries : ℕ) (tried : List Bool) : Prop :=
  (retries = 0 ∧ tried = [])
    ∨ ∃ k ≤ SENSOR_READ_RETRY_COUNT, retries = SENSOR_READ_RETRY_COUNT - k
        ∧ ∃ earlier, tried = List.replicate k false ++ true :: earlier

/-- A turn that ends the loop or not, by what the sensors say. -/
theorem Spin.step_retries (st : Spin) (turn : Turn) (hrun : st.status = .running) :
    (turn.sensed = .interrupted → (st.step p turn).status = .running
        ∧ (st.step p turn).sensor_read_retry_count = st.sensor_read_retry_count)
      ∧ (turn.sensed = .failed →
          if st.sensor_read_retry_count = 0 then (st.step p turn).status = .raised
          else (st.step p turn).status = .running
            ∧ (st.step p turn).sensor_read_retry_count = st.sensor_read_retry_count - 1)
      ∧ ∀ r, turn.sensed = .report r → (st.step p turn).status = .running →
          (st.step p turn).sensor_read_retry_count = SENSOR_READ_RETRY_COUNT := by
  obtain ⟨hsame, -⟩ := st.same_others p turn .start
  rw [Spin.step_eq p st turn hrun]
  refine ⟨?_, ?_, ?_⟩
  · intro hsensed
    rw [hsensed]
    exact ⟨hsame.status.trans hrun, hsame.retries⟩
  · intro hsensed
    rw [hsensed]
    dsimp only
    rw [hsame.retries]
    by_cases hzero : st.sensor_read_retry_count = 0
    · rw [if_pos hzero, if_neg (by omega)]
    · rw [if_neg hzero, if_pos (by omega)]
      exact ⟨hsame.status.trans hrun, rfl⟩
  · intro r hsensed hrunning
    rw [← Spin.step_eq p st turn hrun] at hrunning ⊢
    by_cases hacts : Acts st turn r
    · exact (st.step_acts p turn r hrun hacts).retries
    · -- a report on which the loop does not go on
      rw [Spin.step_eq p st turn hrun, hsensed] at hrunning
      dsimp only at hrunning
      rw [Spin.report_eq, hsame.s] at hrunning
      dsimp only at hrunning
      by_cases hinvalid : Invalid r st.s.stamp
      · rw [if_pos hinvalid] at hrunning
        exact absurd hrunning (by simp)
      · rw [if_neg hinvalid, if_pos (by by_contra hno; exact hacts ⟨hsensed, hinvalid, hno⟩)]
          at hrunning
        exact absurd hrunning (by simp)

theorem attempts_succ (turns : List Turn) (n : ℕ) (h : n < turns.length) :
    attempts (turns.take (n + 1))
      = turns[n].attempt?.toList ++ attempts (turns.take n) := by
  unfold attempts
  rw [List.take_succ_eq_append_getElem h, List.filterMap_append, List.reverse_append]
  cases hattempt : turns[n].attempt? with
  | none => rw [List.filterMap_cons_none hattempt]; rfl
  | some tried => rw [List.filterMap_cons_some hattempt]; rfl

/-- The count of the loop is right for as long as it runs. -/
theorem tolerates_spinAt (s : SensorState) (req : Option Cmd) (operate_mode now : ℤ)
    (turns : List Turn) (n : ℕ) (hn : n ≤ turns.length)
    (hrun : (spinAt p (Spin.start s req operate_mode now) turns n).status = .running) :
    Tolerates (spinAt p (Spin.start s req operate_mode now) turns n).sensor_read_retry_count
      (attempts (turns.take n)) := by
  induction n with
  | zero => exact Or.inl ⟨rfl, rfl⟩
  | succ n ih =>
      have hlt : n < turns.length := hn
      rw [spinAt_succ p _ turns n hlt] at hrun ⊢
      have hrun' : (spinAt p (Spin.start s req operate_mode now) turns n).status = .running := by
        by_contra hover
        have hsame : Spin.step p (spinAt p (Spin.start s req operate_mode now) turns n) turns[n]
            = spinAt p (Spin.start s req operate_mode now) turns n := if_pos hover
        rw [hsame] at hrun
        exact hover hrun
      have hcount := ih (by omega) hrun'
      obtain ⟨hinterrupted, hfailed, hreport⟩ := Spin.step_retries p _ turns[n] hrun'
      rw [attempts_succ turns n hlt]
      unfold Turn.attempt?
      cases hsensed : turns[n].sensed with
      | interrupted =>
          rw [(hinterrupted hsensed).2]
          exact hcount
      | failed =>
          have hstep := hfailed hsensed
          split at hstep
          · rw [hstep] at hrun
            exact absurd hrun (by simp)
          · rename_i hpos
            rw [hstep.2]
            rcases hcount with ⟨hzero, -⟩ | ⟨k, hk, hretries, earlier, htried⟩
            · exact absurd hzero hpos
            · refine Or.inr ⟨k + 1, by omega, by omega, earlier, ?_⟩
              rw [htried]
              rfl
      | report r =>
          rw [hreport r hsensed hrun]
          exact Or.inr ⟨0, by decide, rfl, attempts (turns.take n), rfl⟩

/-- **Retries.** In every run, an attempt that fails ends the loop with a `DriverError`
exactly if none of the five attempts before it succeeded; so does one that fails
before there have been five, if no attempt has succeeded yet. -/
theorem raises_iff (s : SensorState) (req : Option Cmd) (operate_mode now : ℤ) (turns : List Turn)
    (n : ℕ) (hn : n < turns.length)
    (hrun : (spinAt p (Spin.start s req operate_mode now) turns n).status = .running)
    (hfails : turns[n].sensed = .failed) :
    (spinAt p (Spin.start s req operate_mode now) turns (n + 1)).status = .raised
      ↔ ∀ tried ∈ (attempts (turns.take n)).take 5, tried = false := by
  have hcount := tolerates_spinAt p s req operate_mode now turns n hn.le hrun
  have hstep := (Spin.step_retries p _ turns[n] hrun).2.1 hfails
  have hraised : (spinAt p (Spin.start s req operate_mode now) turns (n + 1)).status = .raised
      ↔ (spinAt p (Spin.start s req operate_mode now) turns n).sensor_read_retry_count = 0 := by
    rw [spinAt_succ p _ turns n hn]
    split at hstep
    case isTrue hzero => exact iff_of_true hstep hzero
    case isFalse hpos => exact iff_of_false (by rw [hstep.1]; simp) hpos
  rw [hraised]
  rcases hcount with ⟨hzero, hnone⟩ | ⟨k, hk, hretries, earlier, htried⟩
  · rw [hnone]
    exact iff_of_true hzero (by simp)
  · have hfive : SENSOR_READ_RETRY_COUNT = 5 := rfl
    rw [hretries, htried]
    by_cases hlast : k = 5
    · refine iff_of_true (by omega) ?_
      rw [List.take_append_of_le_length (by simp [hlast])]
      intro tried htried
      exact List.eq_of_mem_replicate (List.mem_of_mem_take htried)
    · refine iff_of_false (by omega) ?_
      intro hall
      have hmem : true ∈ (List.replicate k false ++ true :: earlier).take 5 := by
        rw [List.take_append, List.length_replicate]
        apply List.mem_append_right
        obtain ⟨j, hj⟩ : ∃ j, 5 - k = j + 1 := ⟨4 - k, by omega⟩
        rw [hj, List.take_succ_cons]
        exact List.mem_cons_self
      exact absurd (hall true hmem) (by decide)

/-- The first attempt of all fails. -/
theorem raises_iff_first :
    (spinAt createParams createStart [.plain [] .failed] 1).status = .raised :=
  (raises_iff createParams SensorState.initial none 3 0 [.plain [] .failed] 0 (by decide) rfl rfl).mpr
    (by decide)

end Sonar3D.Turtlebot
