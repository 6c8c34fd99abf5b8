/-
The driver of the robot: what is written to the serial line.

`turtlebot_driver.py` turns a call into an opcode and its data bytes. `drive` and
`direct_drive` send two numbers, cut to 16 bits each, high byte first; the robot
takes them as two's complement. `slow_stop` sends a ramp of `drive`s and a stop. A
call writes its bytes with `struct.pack('B' * n, ..)`, which raises an error if one
of them is no byte; the model has no bytes then. The waiting is left out.
-/
import Sonar3D.Struct
import Mathlib.Algebra.Order.Floor.Ring
import Mathlib.Algebra.Order.Ring.Int
import Mathlib.Data.Rat.Floor

set_option autoImplicit false

namespace Sonar3D.Turtlebot

open Sonar3D.Struct

/-! ## Opcodes -/

/-- The entries of `ROOMBA_OPCODES` and `CREATE_OPCODES` that the driver sends. -/
inductive Opcode where
  | start
  | baud
  | safe
  | full
  | drive
  | sensors
  | soft_reset
  | direct_drive
  | digital_outputs
deriving DecidableEq

def Opcode.value : Opcode → ℤ
  | .start => 128
  | .baud => 129
  | .safe => 131
  | .full => 132
  | .drive => 137
  | .sensors => 142
  | .soft_reset => 7
  | .direct_drive => 145
  | .digital_outputs => 147

/-- `SerialCommandInterface.send`: what is written, or an error of `struct`. -/
def send (bytes : List ℤ) : Option (List UInt8) :=
  pack (List.replicate bytes.length .B) bytes

/-- A call of the method that `__getattr__` makes of an opcode. -/
def Opcode.send (op : Opcode) (bytes : List ℤ) : Option (List UInt8) :=
  Turtlebot.send (op.value :: bytes)

/-! ## Driving -/

/-- `int(..)`, towards zero. -/
def int (x : ℚ) : ℤ := if 0 ≤ x then ⌊x⌋ else ⌈x⌉

/-- `int(x) & 0xffff`. -/
def masked (x : ℚ) : ℤ := int x % 65536

/-- `struct.unpack('4B', struct.pack('>2H', a, b))`. -/
def shortBytes (a b : ℤ) : List ℤ :=
  ((pack [.H, .H] [a, b]).bind (unpack [.B, .B, .B, .B])).getD []

def drive (velocity radius : ℚ) : Option (List UInt8) :=
  Opcode.drive.send (shortBytes (masked velocity) (masked radius))

/-- The right wheel goes first. -/
def direct_drive (velocity_left velocity_right : ℚ) : Option (List UInt8) :=
  Opcode.direct_drive.send (shortBytes (masked velocity_right) (masked velocity_left))

def RADIUS_STRAIGHT : ℚ := 32768

def VELOCITY_MAX : ℤ := 500

/-- `int(VELOCITY_MAX * 0.33)`. -/
def VELOCITY_SLOW : ℤ := int (VELOCITY_MAX * (33 / 100))

def stop : Option (List UInt8) := drive 0 0

/-- `xrange(start, stop, step)`. -/
def xrange (start stop step : ℤ) : List ℤ :=
  let n := if 0 < step then (stop - start + step - 1) / step else (start - stop - step - 1) / -step
  (List.range n.toNat).map (fun k : ℕ => start + k * step)

/-- The velocities of the ramp. -/
def slow_stop_velocities (velocity : ℤ) : List ℤ :=
  if velocity < 0 then xrange velocity (-VELOCITY_SLOW) 25 else xrange velocity VELOCITY_SLOW (-25)

/-- The commands of `slow_stop`, one after the other. -/
def slow_stop (velocity : ℤ) : List (Option (List UInt8)) :=
  (slow_stop_velocities velocity).map (fun v : ℤ => drive v RADIUS_STRAIGHT) ++ [stop]

/-! ## Modes and outputs -/

def passive : List (Option (List UInt8)) := [Opcode.start.send []]

/-- `Turtlebot.control`. -/
def control (safe : Bool) : List (Option (List UInt8)) :=
  passive ++ [if safe then Opcode.safe.send [] else Opcode.full.send []]

def soft_reset : List (Option (List UInt8)) := Opcode.soft_reset.send [] :: passive

/-- `byte += (2 ** i) * int(state)`, over the list. -/
def outputByte (states : List ℤ) : ℤ :=
  (states.zipIdx.map (fun (state, i) => 2 ^ i * state)).sum

def set_digital_outputs (value : ℤ) : Option (List UInt8) := Opcode.digital_outputs.send [value]

def BAUD_RATES : List ℤ :=
  [300, 600, 1200, 2400, 4800, 9600, 14400, 19200, 28800, 38400, 57600, 115200]

/-- Up to the new `SerialCommandInterface`; a rate not in the table is a
`DriverError`. -/
def change_baud_rate (baud_rate : ℤ) : Option (List UInt8) :=
  if baud_rate ∈ BAUD_RATES then Opcode.baud.send [baud_rate] else none

/-! ## What the robot reads -/

/-- A driving command as the robot takes it: the opcode and two numbers in two's
complement. -/
def reads (command : Option (List UInt8)) : Option (List ℤ) :=
  command.bind (unpack [.B, .h, .h])

/-- A number cut to 16 bits, in two's complement. -/
def wrap16 (x : ℤ) : ℤ := signed 65536 (x % 65536).toNat

theorem wrap16_fits (x : ℤ) : Code.h.Fits (wrap16 x) := by
  unfold wrap16 signed
  constructor <;> split <;> omega

/-- Only numbers of 16 bits come through as they are. -/
theorem wrap16_eq_iff (x : ℤ) : wrap16 x = x ↔ -32768 ≤ x ∧ x < 32768 := by
  unfold wrap16 signed
  split <;> omega

/-- The residue and the signed number are the same two bytes. -/
theorem bytes_wrap16 (x : ℤ) : Code.h.bytes (wrap16 x) = Code.H.bytes (x % 65536) := by
  have hres : wrap16 x % 65536 = x % 65536 := by
    unfold wrap16 signed
    split <;> omega
  have hhi : UInt8.ofInt (wrap16 x / 256) = UInt8.ofInt (x % 65536 / 256) := by
    apply ofInt_toNat
    rw [toNat_ofInt]
    omega
  have hlo : UInt8.ofInt (wrap16 x) = UInt8.ofInt (x % 65536) := by
    apply ofInt_toNat
    rw [toNat_ofInt]
    omega
  show [_, _] = [_, _]
  rw [hhi, hlo]

theorem emod_fits (x : ℤ) : Code.H.Fits (x % 65536) :=
  ⟨Int.emod_nonneg x (by decide), Int.emod_lt_of_pos x (by decide)⟩

/-- An opcode with two numbers behind it: five bytes, and the robot reads the two
numbers, each cut to 16 bits. -/
theorem reads_send_shortBytes (op : Opcode) (a b : ℤ) :
    reads (op.send (shortBytes (a % 65536) (b % 65536)))
      = some [op.value, wrap16 a, wrap16 b] := by
  have hop : Code.B.Fits op.value := by cases op <;> decide
  have hpack : pack [.H, .H] [a % 65536, b % 65536]
      = some (Code.H.bytes (a % 65536) ++ (Code.H.bytes (b % 65536) ++ [])) := by
    rw [pack, if_pos (emod_fits a), pack, if_pos (emod_fits b)]
    rfl
  -- the four bytes as numbers, and then as bytes again
  obtain ⟨values, hvalues⟩ := Option.isSome_iff_exists.mp
    ((unpack_isSome [.B, .B, .B, .B]
      (Code.H.bytes (a % 65536) ++ (Code.H.bytes (b % 65536) ++ []))).mpr rfl)
  have hshort : shortBytes (a % 65536) (b % 65536) = values := by
    unfold shortBytes
    rw [hpack, Option.bind_some, hvalues, Option.getD_some]
  have hlength : values.length = 4 := unpack_length _ _ _ hvalues
  have hsend : op.send values
      = some (Code.B.bytes op.value
          ++ (Code.H.bytes (a % 65536) ++ (Code.H.bytes (b % 65536) ++ []))) := by
    have hcodes : List.replicate values.length Code.B = [.B, .B, .B, .B] := by
      rw [hlength]
      rfl
    unfold Opcode.send Turtlebot.send
    rw [List.length_cons, List.replicate_succ, hcodes, pack, if_pos hop,
      pack_unpack _ _ _ hvalues]
    rfl
  have hread : pack [.B, .h, .h] [op.value, wrap16 a, wrap16 b] = op.send values := by
    rw [hsend, pack, if_pos hop, pack, if_pos (wrap16_fits a), pack, if_pos (wrap16_fits b), pack,
      bytes_wrap16, bytes_wrap16]
    rfl
  unfold reads
  rw [hshort, hsend, Option.bind_some]
  exact unpack_pack _ _ _ (hread.trans hsend)

theorem reads_drive (velocity radius : ℚ) :
    reads (drive velocity radius) = some [137, wrap16 (int velocity), wrap16 (int radius)] :=
  reads_send_shortBytes .drive (int velocity) (int radius)

theorem reads_direct_drive (velocity_left velocity_right : ℚ) :
    reads (direct_drive velocity_left velocity_right)
      = some [145, wrap16 (int velocity_right), wrap16 (int velocity_left)] :=
  reads_send_shortBytes .direct_drive (int velocity_right) (int velocity_left)

/-- What the robot reads of a driving command is what was asked for, towards zero and
cut to 16 bits, and no command fails; it is the numbers themselves exactly if they are
of 16 bits. -/
theorem driving_read (a b : ℚ) :
    reads (drive a b) = some [137, wrap16 (int a), wrap16 (int b)]
      ∧ reads (direct_drive a b) = some [145, wrap16 (int b), wrap16 (int a)]
      ∧ ∀ x : ℤ, wrap16 x = x ↔ -32768 ≤ x ∧ x < 32768 :=
  ⟨reads_drive a b, reads_direct_drive a b, wrap16_eq_iff⟩

/-- Every rate of the table is more than a byte holds. -/
theorem change_baud_rate_fails (baud_rate : ℤ) : change_baud_rate baud_rate = none := by
  unfold change_baud_rate
  split
  case isTrue hrate =>
    have hlarge : ¬ Code.B.Fits baud_rate := by
      revert hrate
      unfold BAUD_RATES
      simp only [List.mem_cons, List.not_mem_nil, or_false]
      rintro (rfl | rfl | rfl | rfl | rfl | rfl | rfl | rfl | rfl | rfl | rfl | rfl) <;> decide
    have hop : Code.B.Fits Opcode.baud.value := by decide
    unfold Opcode.send send
    rw [List.length_cons, List.replicate_succ, pack, if_pos hop, List.length_cons,
      List.replicate_succ, pack, if_neg hlarge]
    rfl
  case isFalse => rfl

theorem int_intCast (x : ℤ) : int (x : ℚ) = x := by
  unfold int
  split
  · exact Int.floor_intCast x
  · exact Int.ceil_intCast x

/-! ## The ramp -/

theorem velocity_slow : VELOCITY_SLOW = 165 := by decide +kernel

/-- The ramp goes down in steps of 25 for as long as it is above `VELOCITY_SLOW`. -/
theorem slow_stop_velocities_eq (velocity : ℤ) :
    ∃ n : ℕ, (∀ k : ℕ, k < n ↔ 165 < |velocity| - 25 * k)
      ∧ slow_stop_velocities velocity
          = (List.range n).map (fun k : ℕ => velocity.sign * (|velocity| - 25 * k)) := by
  unfold slow_stop_velocities xrange
  rw [velocity_slow]
  by_cases hneg : velocity < 0
  · have habs : |velocity| = -velocity := abs_of_neg hneg
    have hsign : velocity.sign = -1 := Int.sign_eq_neg_one_of_neg hneg
    refine ⟨((-165 - velocity + 25 - 1) / 25).toNat, fun k => ?_, ?_⟩
    · rw [habs]
      omega
    · rw [if_pos hneg]
      dsimp only
      rw [if_pos (by decide : (0 : ℤ) < 25)]
      apply List.map_congr_left
      intro k _
      rw [habs, hsign]
      ring
  · have habs : |velocity| = velocity := abs_of_nonneg (not_lt.mp hneg)
    refine ⟨((velocity - 165 - -25 - 1) / 25).toNat, fun k => ?_, ?_⟩
    · rw [habs]
      omega
    · rw [if_neg hneg]
      dsimp only
      rw [if_neg (by decide : ¬ (0 : ℤ) < -25), neg_neg]
      apply List.map_congr_left
      intro k hk
      have hlt := List.mem_range.mp hk
      have hsign : velocity.sign = 1 := Int.sign_eq_one_of_pos (by omega)
      rw [habs, hsign]
      ring

/-- `slow_stop` drives straight on with the sign of the velocity, 25 mm/s slower each
time, for as long as that is more than 165 mm/s, and then stops; so the last jump is
from 190 mm/s at most, unless the robot was slower to begin with. -/
theorem slow_stop_ramp (velocity : ℤ) (h : -32768 ≤ velocity ∧ velocity < 32768) :
    ∃ n : ℕ, (∀ k : ℕ, k < n ↔ 165 < |velocity| - 25 * k)
      ∧ (slow_stop velocity).map reads
          = (List.range n).map (fun k : ℕ =>
              some [137, velocity.sign * (|velocity| - 25 * k), -32768])
            ++ [some [137, 0, 0]] := by
  obtain ⟨n, hn, hvelocities⟩ := slow_stop_velocities_eq velocity
  refine ⟨n, hn, ?_⟩
  have hstop : reads stop = some [137, 0, 0] := by decide +kernel
  have hstraight : wrap16 (int RADIUS_STRAIGHT) = -32768 := by decide +kernel
  unfold slow_stop
  rw [List.map_append, List.map_map, hvelocities, List.map_map, List.map_singleton, hstop]
  congr 1
  apply List.map_congr_left
  intro k hk
  have hk' := (hn k).mp (List.mem_range.mp hk)
  have hwrap : wrap16 (velocity.sign * (|velocity| - 25 * k))
      = velocity.sign * (|velocity| - 25 * k) := by
    rw [wrap16_eq_iff]
    rcases lt_trichotomy velocity 0 with hneg | rfl | hpos
    · rw [Int.sign_eq_neg_one_of_neg hneg, abs_of_neg hneg] at *
      omega
    · simp
    · rw [Int.sign_eq_one_of_pos hpos, abs_of_pos hpos] at *
      omega
  show reads (drive ((velocity.sign * (|velocity| - 25 * k) : ℤ) : ℚ) RADIUS_STRAIGHT) = _
  rw [reads_drive, int_intCast, hwrap, hstraight]

/-- From 200 mm/s: two steps of the ramp, and the stop. -/
theorem slow_stop_ramp_fast :
    (slow_stop 200).map reads
      = [some [137, 200, -32768], some [137, 175, -32768], some [137, 0, 0]] := by
  obtain ⟨n, hn, hreads⟩ := slow_stop_ramp 200 (by decide)
  have habs : |(200 : ℤ)| = 200 := rfl
  have hone := hn 1
  have htwo := hn 2
  rw [habs] at hone htwo
  obtain rfl : n = 2 := by omega
  rw [hreads]
  rfl

end Sonar3D.Turtlebot
