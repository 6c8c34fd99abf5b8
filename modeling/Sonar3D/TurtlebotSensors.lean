/-
What the robot reports.

The driver asks for a group of sensor packets and reads as many bytes as the group
has; `create_sensor_handler.py` and `roomba_sensor_handler.py` take them apart with
`struct` and convert the units. The conversions are on exact rationals, `pi` is the
double of that name, and times are nanoseconds.

A Roomba counts the pulses of its wheels in two 16-bit counters that wrap; its
handler takes the distance and the angle from these and not from the packet.
-/
import Sonar3D.Struct
import Mathlib.Algebra.Order.Field.Rat
import Mathlib.Data.List.GetD
import Mathlib.Data.Rat.Floor

set_option autoImplicit false

namespace Sonar3D.Turtlebot

open Sonar3D.Struct

/-- `math.pi`. -/
def pi : ℚ := 884279719003555 / 281474976710656

def radians (degrees : ℚ) : ℚ := degrees * (pi / 180)

/-- `TurtlebotSensorState`; the header is its stamp. -/
@[ext] structure SensorState where
  stamp : ℤ
  bumps_wheeldrops : ℤ
  wall : Bool
  cliff_left : Bool
  cliff_front_left : Bool
  cliff_front_right : Bool
  cliff_right : Bool
  virtual_wall : Bool
  motor_overcurrents : ℤ
  dirt_detector_left : ℤ
  dirt_detector_right : ℤ
  remote_opcode : ℤ
  buttons : ℤ
  distance : ℚ
  angle : ℚ
  charging_state : ℤ
  voltage : ℤ
  current : ℤ
  temperature : ℤ
  charge : ℤ
  capacity : ℤ
  wall_signal : ℤ
  cliff_left_signal : ℤ
  cliff_front_left_signal : ℤ
  cliff_front_right_signal : ℤ
  cliff_right_signal : ℤ
  user_digital_outputs : ℤ
  user_digital_inputs : ℤ
  user_analog_input : ℤ
  charging_sources_available : ℤ
  oi_mode : ℤ
  song_number : ℤ
  song_playing : Bool
  number_of_stream_packets : ℤ
  requested_velocity : ℚ
  requested_radius : ℚ
  requested_right_velocity : ℚ
  requested_left_velocity : ℚ
deriving DecidableEq

/-- The message as it is constructed. -/
def SensorState.initial : SensorState :=
  ⟨0, 0, false, false, false, false, false, false, 0, 0, 0, 0, 0, 0, 0, 0, 0, 0, 0, 0, 0, 0, 0, 0,
    0, 0, 0, 0, 0, 0, 0, 0, false, 0, 0, 0, 0, 0⟩

/-- The robot neither moves nor is told to. -/
def Still (s : SensorState) : Prop :=
  s.requested_right_velocity = 0 ∧ s.requested_left_velocity = 0 ∧ s.distance = 0

instance (s : SensorState) : Decidable (Still s) := inferInstanceAs (Decidable (_ ∧ _))

/-! ## The bytes -/

/-- The entries of `SENSOR_GROUP_PACKET_LENGTHS` that are asked for. -/
inductive Group where
  | six
  | hundred

def Group.length : Group → ℕ
  | .six => 52
  | .hundred => 80

/-- `SerialCommandInterface.read`: what the line has, or a `DriverError`. -/
def read (num_bytes : ℕ) (data : List UInt8) : Option (List UInt8) :=
  if data = [] then none
  else if data.length ≠ num_bytes then none
  else some data

/-- `">12B2hBHhb7HBH5B4h"`. -/
def createFormat : List Code :=
  List.replicate 12 .B ++ [.h, .h, .B, .H, .h, .b] ++ List.replicate 7 .H ++ [.B, .H]
    ++ List.replicate 5 .B ++ List.replicate 4 .h

/-- `">12B2hBHhb7HBH5B4h2HB6H2B4hb"`. -/
def roombaFormat : List Code :=
  createFormat ++ [.H, .H, .B] ++ List.replicate 6 .H ++ [.B, .B] ++ List.replicate 4 .h ++ [.b]

/-- The formats take what is read. -/
theorem calcsize_formats :
    calcsize createFormat = Group.six.length ∧ calcsize roombaFormat = Group.hundred.length := by
  decide

/-- The fields, from the values of the packet in order, with the unit conversions;
the outputs are no part of the packet. -/
def SensorState.ofValues (msg : SensorState) (v : ℕ → ℤ) (timestamp : ℤ) : SensorState where
  stamp := timestamp
  bumps_wheeldrops := v 0
  wall := v 1 != 0
  cliff_left := v 2 != 0
  cliff_front_left := v 3 != 0
  cliff_front_right := v 4 != 0
  cliff_right := v 5 != 0
  virtual_wall := v 6 != 0
  motor_overcurrents := v 7
  dirt_detector_left := v 8
  dirt_detector_right := v 9
  remote_opcode := v 10
  buttons := v 11
  distance := v 12 / 1000
  angle := radians (v 13)
  charging_state := v 14
  voltage := v 15
  current := v 16
  temperature := v 17
  charge := v 18
  capacity := v 19
  wall_signal := v 20
  cliff_left_signal := v 21
  cliff_front_left_signal := v 22
  cliff_front_right_signal := v 23
  cliff_right_signal := v 24
  user_digital_outputs := msg.user_digital_outputs
  user_digital_inputs := v 25
  user_analog_input := v 26
  charging_sources_available := v 27
  oi_mode := v 28
  song_number := v 29
  song_playing := v 30 != 0
  number_of_stream_packets := v 31
  requested_velocity := v 32 / 1000
  requested_radius := v 33 / 1000
  requested_right_velocity := v 34 / 1000
  requested_left_velocity := v 35 / 1000

/-- `deserialize`; `none` is a `DeserializationError`. -/
def deserialize (msg : SensorState) (buff : List UInt8) (timestamp : ℤ) : Option SensorState :=
  (unpack createFormat (buff.take 52)).map (fun values =>
    msg.ofValues (fun i => values.getD i 0) timestamp)

/-! ## The packet of a Create, there and back -/

/-- The places of the values that are made `bool`. -/
def flags : List ℕ := [1, 2, 3, 4, 5, 6, 30]

def flagValue (flag : Bool) : ℤ := if flag then 1 else 0

/-- What the robot would have to report, for a message to become `s`. -/
def SensorState.values (s : SensorState) : List ℤ :=
  [s.bumps_wheeldrops, flagValue s.wall, flagValue s.cliff_left, flagValue s.cliff_front_left,
    flagValue s.cliff_front_right, flagValue s.cliff_right, flagValue s.virtual_wall,
    s.motor_overcurrents, s.dirt_detector_left, s.dirt_detector_right, s.remote_opcode, s.buttons,
    ⌊s.distance * 1000⌋, ⌊s.angle * (180 / pi)⌋, s.charging_state, s.voltage, s.current,
    s.temperature, s.charge, s.capacity, s.wall_signal, s.cliff_left_signal,
    s.cliff_front_left_signal, s.cliff_front_right_signal, s.cliff_right_signal,
    s.user_digital_inputs, s.user_analog_input, s.charging_sources_available, s.oi_mode,
    s.song_number, flagValue s.song_playing, s.number_of_stream_packets,
    ⌊s.requested_velocity * 1000⌋, ⌊s.requested_radius * 1000⌋,
    ⌊s.requested_right_velocity * 1000⌋, ⌊s.requested_left_velocity * 1000⌋]

/-- A value as a message keeps it: of a flag, whether it is zero. -/
def kept (i : ℕ) (v : ℤ) : ℤ := if i ∈ flags then flagValue (v != 0) else v

theorem floor_thousandths (v : ℤ) : ⌊(v : ℚ) / 1000 * 1000⌋ = v := by
  rw [div_mul_cancel₀ _ (by decide), Int.floor_intCast]

theorem floor_radians (v : ℤ) : ⌊radians v * (180 / pi)⌋ = v := by
  have hpi : pi / 180 * (180 / pi) = 1 := by decide +kernel
  unfold radians
  rw [mul_assoc, hpi, mul_one, Int.floor_intCast]

/-- No conversion loses anything but the value of a flag that is not zero. -/
theorem values_ofValues (msg : SensorState) (v : ℕ → ℤ) (timestamp : ℤ) :
    (msg.ofValues v timestamp).values = (List.range 36).map (fun i => kept i (v i)) := by
  unfold SensorState.values SensorState.ofValues
  dsimp only
  simp only [floor_thousandths, floor_radians]
  rfl

/-- Every packet of the right length becomes a message, and the message says what the
packet said, value by value -- of the seven flags, whether they are zero. -/
theorem deserialize_lossless (msg : SensorState) (buff : List UInt8) (timestamp : ℤ)
    (h : buff.length = Group.six.length) :
    ∃ s values, deserialize msg buff timestamp = some s
      ∧ pack createFormat values = some buff
      ∧ s.values = values.mapIdx kept
      ∧ s.stamp = timestamp ∧ s.user_digital_outputs = msg.user_digital_outputs := by
  have htake : buff.take 52 = buff := List.take_of_length_le (by rw [h]; decide)
  obtain ⟨values, hvalues⟩ := Option.isSome_iff_exists.mp
    ((unpack_isSome createFormat buff).mpr (by rw [h]; decide))
  have hlength : values.length = 36 := unpack_length createFormat buff values hvalues
  refine ⟨msg.ofValues (fun i => values.getD i 0) timestamp, values, ?_,
    pack_unpack _ _ _ hvalues, ?_, rfl, rfl⟩
  · unfold deserialize
    rw [htake, hvalues]
    rfl
  · rw [values_ofValues]
    apply List.ext_getElem
    · rw [List.length_map, List.length_range, List.length_mapIdx, hlength]
    · intro i hi hi'
      rw [List.length_mapIdx] at hi'
      rw [List.getElem_map, List.getElem_range, List.getElem_mapIdx,
        List.getD_eq_getElem _ _ hi']

/-- A packet of zeros, received at time one. -/
theorem deserialize_lossless_zeros :
    ∃ s values, deserialize SensorState.initial (List.replicate 52 0) 1 = some s
      ∧ pack createFormat values = some (List.replicate 52 0) ∧ s.stamp = 1 := by
  obtain ⟨s, values, hs, hpack, -, hstamp, -⟩ :=
    deserialize_lossless SensorState.initial (List.replicate 52 0) 1 (by decide)
  exact ⟨s, values, hs, hpack, hstamp⟩

/-! ## The counters of a Roomba -/

/-- `_normalize_encoder_count`; the division is that of Python 2 on integers. -/
def normalize_encoder_count (count_delta maximal_count : ℤ) : ℤ :=
  if count_delta ≥ maximal_count / 2 then count_delta - maximal_count + 1
  else if count_delta ≤ -maximal_count / 2 then count_delta + maximal_count + 1
  else count_delta

def ROOMBA_PULSES_TO_M : ℚ := 0.000445558279992234

/-- `ROBOT_TYPES['roomba'].wheel_separation`. -/
def roombaWheelSeparation : ℚ := 0.235

/-- What `_deserialize` takes from the packet and sets, beside the fields of a message:
the counters of the wheels, and those of the packet before. -/
structure RoombaHandler where
  last_encoder_counts : Option (ℤ × ℤ)

/-- The distance and the angle between two readings of the counters. -/
def encoderMotion (last counts : ℤ × ℤ) : ℚ × ℚ :=
  let count_delta_left := normalize_encoder_count (counts.1 - last.1) 0xffff
  let count_delta_right := normalize_encoder_count (counts.2 - last.2) 0xffff
  let distance_left := count_delta_left * ROOMBA_PULSES_TO_M
  let distance_right := count_delta_right * ROOMBA_PULSES_TO_M
  ((distance_left + distance_right) / 2, (distance_right - distance_left) / roombaWheelSeparation)

/-- `get_all`, on the bytes that were read. -/
def RoombaHandler.get_all (handler : RoombaHandler) (msg : SensorState) (buff : List UInt8)
    (timestamp : ℤ) : Option (RoombaHandler × SensorState) :=
  (unpack roombaFormat (buff.take 80)).map (fun values =>
    let v := fun i => values.getD i 0
    let s := msg.ofValues v timestamp
    let counts := (v 36, v 37)
    let s :=
      match handler.last_encoder_counts with
      | some last =>
          { s with distance := (encoderMotion last counts).1, angle := (encoderMotion last counts).2 }
      -- `self.disance = 0`: the distance stays what the packet says, in millimetres
      | none => { s with distance := v 12, angle := 0 }
    (⟨some counts⟩, s))

/-- The motions between consecutive readings. -/
def motions (last : ℤ × ℤ) : List (ℤ × ℤ) → List (ℚ × ℚ)
  | [] => []
  | counts :: rest => encoderMotion last counts :: motions counts rest

/-- The counter shows the pulses of its wheel, so many as 16 bits hold. -/
def counter (pulses : ℤ) : ℤ := pulses % 65536

/-- The counter has wrapped downwards between the two readings. -/
def WrapsBack (pulses pulses' : ℤ) : Prop := pulses' < pulses ∧ counter pulses < counter pulses'

instance (pulses pulses' : ℤ) : Decidable (WrapsBack pulses pulses') :=
  inferInstanceAs (Decidable (_ ∧ _))

/-- Between two readings less than half a turn of the counter apart, the wheel's motion
is found -- but for two pulses too many if the counter has wrapped downwards. -/
theorem normalize_encoder_count_counter (pulses pulses' : ℤ) (h : |pulses' - pulses| ≤ 32766) :
    normalize_encoder_count (counter pulses' - counter pulses) 0xffff
      = pulses' - pulses + (if WrapsBack pulses pulses' then 2 else 0) := by
  obtain ⟨hlow, hhigh⟩ := abs_le.mp h
  unfold normalize_encoder_count WrapsBack counter
  split_ifs <;> omega

/-- How often the counter wraps downwards along the way. -/
def wrapsBack : ℤ → List ℤ → ℕ
  | _, [] => 0
  | pulses, pulses' :: rest => (if WrapsBack pulses pulses' then 1 else 0) + wrapsBack pulses' rest

/-- Where the wheels are, left and right, in pulses. -/
abbrev Wheels := ℤ × ℤ

def Wheels.counts (w : Wheels) : ℤ × ℤ := (counter w.1, counter w.2)

/-- Neither wheel has gone more than 32766 pulses, which is two less than half a turn of
its counter: from 32767 on the way is taken for a wrap. -/
def Near (w w' : Wheels) : Prop := |w'.1 - w.1| ≤ 32766 ∧ |w'.2 - w.2| ≤ 32766

theorem encoderMotion_counts (w w' : Wheels) (h : Near w w') :
    encoderMotion w.counts w'.counts
      = ((((w'.1 - w.1 + (if WrapsBack w.1 w'.1 then 2 else 0) : ℤ) : ℚ) * ROOMBA_PULSES_TO_M
            + ((w'.2 - w.2 + (if WrapsBack w.2 w'.2 then 2 else 0) : ℤ) : ℚ) * ROOMBA_PULSES_TO_M) / 2,
          (((w'.2 - w.2 + (if WrapsBack w.2 w'.2 then 2 else 0) : ℤ) : ℚ) * ROOMBA_PULSES_TO_M
            - ((w'.1 - w.1 + (if WrapsBack w.1 w'.1 then 2 else 0) : ℤ) : ℚ) * ROOMBA_PULSES_TO_M)
            / roombaWheelSeparation) := by
  unfold encoderMotion Wheels.counts
  dsimp only
  rw [normalize_encoder_count_counter _ _ h.1, normalize_encoder_count_counter _ _ h.2]

/-- The motions add up to the way and the wraps. -/
theorem motions_sum (start : Wheels) (way : List Wheels) (hnear : (start :: way).IsChain Near) :
    let ms := motions start.counts (way.map Wheels.counts)
    let goal := way.getLastD start
    let left := wrapsBack start.1 (way.map Prod.fst)
    let right := wrapsBack start.2 (way.map Prod.snd)
    (ms.map Prod.fst).sum
        = ROOMBA_PULSES_TO_M
          * (((goal.1 - start.1 + (goal.2 - start.2) : ℤ) : ℚ) / 2 + (left + right))
      ∧ (ms.map Prod.snd).sum
          = ROOMBA_PULSES_TO_M
            * (((goal.2 - start.2 - (goal.1 - start.1) : ℤ) : ℚ) + 2 * (right - left))
            / roombaWheelSeparation := by
  dsimp only
  induction way generalizing start with
  | nil => simp [motions, wrapsBack]
  | cons w way ih =>
      rw [List.isChain_cons_cons] at hnear
      obtain ⟨hdistance, hangle⟩ := ih w hnear.2
      simp only [List.map_cons, motions, List.sum_cons, wrapsBack, List.getLastD_cons, hdistance,
        hangle, encoderMotion_counts start w hnear.1]
      constructor
      · push_cast
        split_ifs <;> ring
      · push_cast
        split_ifs <;> ring

/-- One report after another, from the bytes that were read and their times. -/
def RoombaHandler.reports (handler : RoombaHandler) (msg : SensorState) :
    List (List UInt8 × ℤ) → Option (List SensorState)
  | [] => some []
  | packet :: packets => do
      let (handler, s) ← handler.get_all msg packet.1 packet.2
      let rest ← handler.reports s packets
      some (s :: rest)

/-- The packet says where the wheels are. -/
def Shows (packet : List UInt8 × ℤ) (w : Wheels) : Prop :=
  ∃ values, unpack roombaFormat (packet.1.take 80) = some values
    ∧ (values.getD 36 0, values.getD 37 0) = w.counts

theorem get_all_shows (handler : RoombaHandler) (msg : SensorState) (packet : List UInt8 × ℤ)
    (last : ℤ × ℤ) (w : Wheels) (hlast : handler.last_encoder_counts = some last)
    (hshows : Shows packet w) :
    ∃ s, handler.get_all msg packet.1 packet.2 = some (⟨some w.counts⟩, s)
      ∧ (s.distance, s.angle) = encoderMotion last w.counts := by
  obtain ⟨values, hvalues, hcounts⟩ := hshows
  unfold RoombaHandler.get_all
  rw [hvalues, Option.map_some, hlast]
  dsimp only
  rw [hcounts]
  exact ⟨_, rfl, rfl⟩

theorem reports_motions (handler : RoombaHandler) (msg : SensorState)
    (packets : List (List UInt8 × ℤ)) (last : ℤ × ℤ) (way : List Wheels)
    (hlast : handler.last_encoder_counts = some last) (hshows : List.Forall₂ Shows packets way) :
    ∃ ss, handler.reports msg packets = some ss
      ∧ ss.map (fun s => (s.distance, s.angle)) = motions last (way.map Wheels.counts) := by
  induction hshows generalizing handler msg last with
  | nil => exact ⟨[], rfl, rfl⟩
  | @cons packet w packets way hpacket _ ih =>
      obtain ⟨s, hs, hmotion⟩ := get_all_shows handler msg packet last w hlast hpacket
      obtain ⟨ss, hss, hrest⟩ := ih ⟨some w.counts⟩ s w.counts rfl
      refine ⟨s :: ss, ?_, ?_⟩
      · unfold RoombaHandler.reports
        rw [hs]
        simp only [Option.bind_eq_bind, Option.bind_some, hss]
      · rw [List.map_cons, hmotion, hrest]
        rfl

/-- **The drift of a Roomba.** Once a first packet has been decoded, for which the robot's
own distance is reported, over any run of packets near enough to one another the
distances add up to the distance gone and a pulse more for every time that either
counter wraps downwards, and the angles to the angle turned and two pulses for every
such wrap of the right counter less those of the left one. -/
theorem roomba_drift (handler : RoombaHandler) (msg : SensorState)
    (packets : List (List UInt8 × ℤ)) (start : Wheels) (way : List Wheels)
    (hlast : handler.last_encoder_counts = some start.counts)
    (hshows : List.Forall₂ Shows packets way) (hnear : (start :: way).IsChain Near) :
    let goal := way.getLastD start
    let left := wrapsBack start.1 (way.map Prod.fst)
    let right := wrapsBack start.2 (way.map Prod.snd)
    ∃ ss, handler.reports msg packets = some ss
      ∧ (ss.map SensorState.distance).sum
          = ROOMBA_PULSES_TO_M
            * (((goal.1 - start.1 + (goal.2 - start.2) : ℤ) : ℚ) / 2 + (left + right))
      ∧ (ss.map SensorState.angle).sum
          = ROOMBA_PULSES_TO_M
            * (((goal.2 - start.2 - (goal.1 - start.1) : ℤ) : ℚ) + 2 * (right - left))
            / roombaWheelSeparation := by
  obtain ⟨ss, hss, hmotions⟩ :=
    reports_motions handler msg packets start.counts way hlast hshows
  obtain ⟨hdistance, hangle⟩ := motions_sum start way hnear
  rw [← hmotions, List.map_map] at hdistance hangle
  exact ⟨ss, hss, hdistance, hangle⟩

/-- A packet of zeros but for the counters. -/
def roombaPacket (left right : UInt8 × UInt8) : List UInt8 × ℤ :=
  (List.replicate 52 0 ++ [left.1, left.2, right.1, right.2] ++ List.replicate 24 0, 0)

/-- Ten pulses forward on both wheels and back again, across the wrap of the left one:
what is reported is a pulse from where the robot is. -/
theorem roomba_drift_around :
    ∃ ss, (⟨some (65530, 0)⟩ : RoombaHandler).reports SensorState.initial
        [roombaPacket (0, 4) (0, 10), roombaPacket (0xff, 0xfa) (0, 0)] = some ss
      ∧ (ss.map SensorState.distance).sum = ROOMBA_PULSES_TO_M := by
  have hshows : List.Forall₂ Shows
      [roombaPacket (0, 4) (0, 10), roombaPacket (0xff, 0xfa) (0, 0)]
      [(65540, 10), (65530, 0)] :=
    .cons ⟨_, rfl, rfl⟩ (.cons ⟨_, rfl, rfl⟩ .nil)
  have hnear : [((65530, 0) : Wheels), (65540, 10), (65530, 0)].IsChain Near := by
    unfold Near
    decide
  obtain ⟨ss, hss, hdistance, -⟩ := roomba_drift ⟨some (65530, 0)⟩ SensorState.initial _
    (65530, 0) [(65540, 10), (65530, 0)] rfl hshows hnear
  refine ⟨ss, hss, ?_⟩
  have hleft : wrapsBack 65530 [65540, 65530] = 1 := by decide
  have hright : wrapsBack 0 [10, 0] = 0 := by decide
  change _ = ROOMBA_PULSES_TO_M * (((65530 - 65530 + (0 - 0) : ℤ) : ℚ) / 2
    + (wrapsBack 65530 [65540, 65530] + wrapsBack 0 [10, 0])) at hdistance
  rw [hleft, hright] at hdistance
  refine hdistance.trans ?_
  norm_num

end Sonar3D.Turtlebot
