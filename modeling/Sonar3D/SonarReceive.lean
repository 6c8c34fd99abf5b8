/-
The node `Sonar`: `receive()`, from datagram to cloud.

`receive()` in `Sonar.cpp` reads one UDP datagram into a global buffer, decodes
the header from fixed offsets of it and turns the 16-bit readings from byte 256
on into points. The `if (FD_ISSET(..));` has an empty body, so the header is
decoded on every call, whether something was received or not; the buffer is
global, so a datagram shorter than an earlier one leaves the tail of that one
behind it.

The integer work is modelled on integers, with the product of a reading and the
resolution wrapped to 32 bits, and the floating-point work on exact rationals;
what a kept reading is turned into is a `Beam`, and `Beam.point` is the point
pushed for it. `main` has opened the socket before the first call, so
`ReceiveSocket` is positive throughout.
-/
import Sonar3D.Geometry
import Sonar3D.PrefixBuffer
import Sonar3D.Words
import Mathlib.Algebra.Order.Field.Rat

set_option autoImplicit false

namespace Sonar3D.Sonar

open Sonar3D.PrefixBuffer Sonar3D.Words

/-! ## What arrives -/

/-- A UDP datagram, as far as `recvfrom` reads it. -/
structure Datagram where
  bytes : List UInt8
  length_le : bytes.length ≤ 65535

/-- What one call is delivered: a datagram, or nothing (`recvfrom` returns -1). -/
abbrev Delivery := Option Datagram

/-- `unsigned char ReceiveBuf[65536]`. -/
abbrev ReceiveBuf := ℕ → UInt8

/-- Static storage. -/
def ReceiveBuf.initial : ReceiveBuf := fun _ => 0

def Delivery.bytes : Delivery → List UInt8
  | none => []
  | some d => d.bytes

/-- What `recvfrom` returns for it. -/
def Delivery.ret : Delivery → ℤ
  | none => -1
  | some d => d.bytes.length

/-! ## The header -/

/-- `get_value(&ReceiveBuf[i])`. -/
def get_value (buf : ReceiveBuf) (i : ℕ) : ℤ := bigEndian (buf i) (buf (i + 1))

/-- The locals decoded from the header. -/
structure Header where
  Sound_Velocity : ℚ
  n_beams : ℤ
  angle_increment : ℚ
  starting_angle : ℚ
  range_resolution : ℤ
deriving DecidableEq

def decodeHeader (buf : ReceiveBuf) : Header where
  Sound_Velocity :=
    -- the top bit says that the other 15 hold the velocity
    if buf 83 > 127 then ((((buf 83 &&& 0x7F).toNat <<< 8) ||| (buf 84).toNat : ℕ) : ℚ) / 10
    else 1500
  n_beams := get_value buf 70
  angle_increment := ((buf 78).toNat : ℚ) / 100
  -- both operations are on `int`: the division drops the hundredths
  starting_angle := (((get_value buf 76).tdiv 100 - 180 : ℤ) : ℚ)
  range_resolution := get_value buf 85

/-! ## The loop -/

/-- `range` and then `corrected_range` of the reading `value`. The product is
one of two `int`s. -/
def correctedRange (h : Header) (value : ℤ) : ℚ :=
  let range : ℚ := (wrap32 (value * h.range_resolution) : ℚ) / 1000
  range * h.Sound_Velocity / 1500

/-- `0.5<corrected_range && corrected_range<50`. -/
def InGate (corrected_range : ℚ) : Prop := 1 / 2 < corrected_range ∧ corrected_range < 50

instance (r : ℚ) : Decidable (InGate r) := inferInstanceAs (Decidable (_ ∧ _))

/-- `starting_angle + j*angle_increment`, in degrees. -/
def bearing (h : Header) (j : ℕ) : ℚ := h.starting_angle + j * h.angle_increment

@[ext] structure Beam where
  j : ℕ
  corrected_range : ℚ
  bearing : ℚ
deriving DecidableEq

/-- `for(i= 256, j=0, ..; i < Ret; i=i+2, j++, ..)`, from the loop head with the
cloud built so far. -/
def receiveLoop (buf : ReceiveBuf) (h : Header) (Ret : ℤ) (i j : ℕ) (cloud_pcl : List Beam) :
    List Beam :=
  if (i : ℤ) < Ret then
    -- the second byte, `i + 1`, is read whether or not it is below `Ret`
    let corrected_range := correctedRange h (get_value buf i)
    if InGate corrected_range then
      receiveLoop buf h Ret (i + 2) (j + 1) (cloud_pcl ++ [⟨j, corrected_range, bearing h j⟩])
    else
      receiveLoop buf h Ret (i + 2) (j + 1) cloud_pcl
  else cloud_pcl
termination_by (Ret - i).toNat

def pi : ℚ := 3.14159265

/-- The point pushed for a kept reading. -/
noncomputable def Beam.point (b : Beam) : PointXYZ where
  x := b.corrected_range * Real.cos ((pi / 180 * b.bearing : ℚ) : ℝ)
  y := b.corrected_range * Real.sin ((pi / 180 * b.bearing : ℚ) : ℝ)
  z := b.corrected_range * Real.sin ((pi / 180 * b.bearing : ℚ) : ℝ)

/-- The buffer once `d` has been received. -/
def afterRecv (buf : ReceiveBuf) (d : Delivery) : ReceiveBuf := overwrite buf d.bytes

/-- The readings `receive()` keeps. -/
def beams (buf : ReceiveBuf) (d : Delivery) : List Beam :=
  receiveLoop (afterRecv buf d) (decodeHeader (afterRecv buf d)) d.ret 256 0 []

/-- The cloud `receive()` returns. -/
noncomputable def receive (buf : ReceiveBuf) (d : Delivery) : PointCloud :=
  (beams buf d).map Beam.point

/-- The clouds of consecutive calls, the buffer going from each to the next. -/
noncomputable def receiveAll (buf : ReceiveBuf) : List Delivery → List PointCloud
  | [] => []
  | d :: ds => receive buf d :: receiveAll (afterRecv buf d) ds

/-! ## The loop in closed form -/

/-- How many readings the loop examines: two bytes a step, the last step with
one byte left if their number is odd. -/
def readings (Ret : ℤ) : ℕ := ((Ret - 256 + 1) / 2).toNat

theorem readings_some (d : Datagram) :
    readings (Delivery.ret (some d)) = (d.bytes.length - 255) / 2 := by
  unfold readings Delivery.ret
  dsimp only
  omega

/-- A turn of the loop takes one of the readings that are left. -/
theorem readings_sub_of_lt (Ret : ℤ) (i j : ℕ) (hi : i = 256 + 2 * j) (hlt : (i : ℤ) < Ret) :
    readings Ret - j = (readings Ret - (j + 1)) + 1 := by
  unfold readings
  omega

/-- The loop ends when none is left. -/
theorem readings_le_of_ge (Ret : ℤ) (i j : ℕ) (hi : i = 256 + 2 * j) (hge : ¬ (i : ℤ) < Ret) :
    readings Ret ≤ j := by
  unfold readings
  omega

/-- Reading `j`: kept, as a beam, or dropped. -/
def beam? (buf : ReceiveBuf) (h : Header) (j : ℕ) : Option Beam :=
  let corrected_range := correctedRange h (get_value buf (256 + 2 * j))
  if InGate corrected_range then some ⟨j, corrected_range, bearing h j⟩ else none

theorem beam?_eq_some_iff (buf : ReceiveBuf) (h : Header) (j : ℕ) (b : Beam) :
    beam? buf h j = some b
      ↔ InGate (correctedRange h (get_value buf (256 + 2 * j)))
        ∧ b = ⟨j, correctedRange h (get_value buf (256 + 2 * j)), bearing h j⟩ := by
  unfold beam?
  by_cases hgate : InGate (correctedRange h (get_value buf (256 + 2 * j)))
  · rw [if_pos hgate, Option.some.injEq, and_iff_right hgate]
    exact eq_comm
  · rw [if_neg hgate]
    exact iff_of_false (by simp) (fun h => hgate h.1)

/-- The loop at reading `j` pushes the kept ones of the readings from `j` on.
The induction is the loop's own recursion. -/
theorem receiveLoop_eq (buf : ReceiveBuf) (h : Header) (Ret : ℤ) (i j : ℕ)
    (cloud_pcl : List Beam) (hi : i = 256 + 2 * j) :
    receiveLoop buf h Ret i j cloud_pcl
      = cloud_pcl ++ (List.range' j (readings Ret - j)).filterMap (beam? buf h) := by
  fun_induction receiveLoop buf h Ret i j cloud_pcl with
  | case1 i j cloud_pcl hlt corrected_range hgate ih =>
      -- kept: reading `j` is the first of those left
      have hmore := readings_sub_of_lt Ret i j hi hlt
      have hkept : beam? buf h j = some ⟨j, corrected_range, bearing h j⟩ := by
        rw [beam?_eq_some_iff, ← hi]
        exact ⟨hgate, rfl⟩
      rw [ih (by omega), hmore, List.range'_succ, List.filterMap_cons_some hkept,
        List.append_assoc]
      rfl
  | case2 i j cloud_pcl hlt corrected_range hgate ih =>
      have hmore := readings_sub_of_lt Ret i j hi hlt
      have hdropped : beam? buf h j = none := by
        unfold beam?
        rw [← hi]
        exact if_neg hgate
      rw [ih (by omega), hmore, List.range'_succ, List.filterMap_cons_none hdropped]
  | case3 i j cloud_pcl hge =>
      have hnone := Nat.sub_eq_zero_of_le (readings_le_of_ge Ret i j hi hge)
      rw [hnone, List.range'_zero, List.filterMap_nil, List.append_nil]

theorem filterMap_range_succ {β : Type*} (f : ℕ → Option β) (n : ℕ) :
    (List.range (n + 1)).filterMap f = (List.range n).filterMap f ++ (f n).toList := by
  rw [List.range_succ, List.filterMap_append]
  rfl

/-- What `receive()` keeps: **the readings of the delivery that are in the gate,
in order.** -/
theorem beams_eq (buf : ReceiveBuf) (d : Delivery) :
    beams buf d
      = (List.range (readings d.ret)).filterMap
          (beam? (afterRecv buf d) (decodeHeader (afterRecv buf d))) := by
  unfold beams
  rw [receiveLoop_eq _ _ _ 256 0 [] rfl, List.nil_append, Nat.sub_zero, List.range_eq_range']

theorem mem_beams (buf : ReceiveBuf) (d : Delivery) (b : Beam) :
    b ∈ beams buf d ↔ b.j < readings d.ret
      ∧ beam? (afterRecv buf d) (decodeHeader (afterRecv buf d)) b.j = some b := by
  rw [beams_eq, List.mem_filterMap]
  constructor
  · rintro ⟨j, hj, hb⟩
    obtain ⟨-, rfl⟩ := (beam?_eq_some_iff _ _ _ _).mp hb
    exact ⟨List.mem_range.mp hj, hb⟩
  · rintro ⟨hj, hb⟩
    exact ⟨b.j, List.mem_range.mpr hj, hb⟩

theorem exists_mem_beams (buf : ReceiveBuf) (d : Delivery) (j : ℕ) :
    (∃ b ∈ beams buf d, b.j = j) ↔ j < readings d.ret
      ∧ InGate (correctedRange (decodeHeader (afterRecv buf d))
          (get_value (afterRecv buf d) (256 + 2 * j))) := by
  constructor
  · rintro ⟨b, hb, rfl⟩
    obtain ⟨hlt, hkept⟩ := (mem_beams buf d b).mp hb
    exact ⟨hlt, ((beam?_eq_some_iff _ _ _ _).mp hkept).1⟩
  · rintro ⟨hlt, hin⟩
    have hkept := (beam?_eq_some_iff _ _ _ _).mpr ⟨hin, rfl⟩
    rw [beams_eq]
    exact ⟨_, List.mem_filterMap.mpr ⟨j, List.mem_range.mpr hlt, hkept⟩, rfl⟩

theorem eq_of_mem_beams (buf : ReceiveBuf) (d : Delivery) (b : Beam) (hb : b ∈ beams buf d) :
    b = ⟨b.j, correctedRange (decodeHeader (afterRecv buf d))
          (get_value (afterRecv buf d) (256 + 2 * b.j)),
        bearing (decodeHeader (afterRecv buf d)) b.j⟩ := by
  obtain ⟨-, hkept⟩ := (mem_beams buf d b).mp hb
  exact ((beam?_eq_some_iff _ _ _ _).mp hkept).2

/-- The points come in the order of their readings, one for each kept one. -/
theorem beams_map_j (buf : ReceiveBuf) (d : Delivery) :
    (beams buf d).map Beam.j
      = (List.range (readings d.ret)).filter (fun j =>
          InGate (correctedRange (decodeHeader (afterRecv buf d))
            (get_value (afterRecv buf d) (256 + 2 * j)))) := by
  rw [beams_eq, List.map_filterMap, ← List.filterMap_eq_filter]
  apply List.filterMap_congr
  intro j _
  unfold beam? Option.guard
  dsimp only
  by_cases hgate : InGate (correctedRange (decodeHeader (afterRecv buf d))
      (get_value (afterRecv buf d) (256 + 2 * j)))
  · rw [if_pos hgate, if_pos (decide_eq_true hgate), Option.map_some]
  · rw [if_neg hgate, if_neg (by simpa using hgate), Option.map_none]

/-- A call that is delivered nothing, or no byte past the header, returns the
empty cloud. -/
theorem beams_of_ret_le (buf : ReceiveBuf) (d : Delivery) (h : d.ret ≤ 256) :
    beams buf d = [] := by
  have hnone : readings d.ret = 0 := by
    unfold readings
    omega
  rw [beams_eq, hnone]
  rfl

/-- Every index the loop reads, `i` and `i + 1`, is inside the buffer. -/
theorem reading_index_lt (d : Datagram) (j : ℕ) (hj : j < readings (Delivery.ret (some d))) :
    256 + 2 * j + 1 < 65536 := by
  have hlen := d.length_le
  rw [readings_some] at hj
  omega

/-- A datagram with a reading has its whole header. -/
theorem header_lt (d : Datagram) (j : ℕ) (hj : j < readings (Delivery.ret (some d))) :
    256 < d.bytes.length := by
  rw [readings_some] at hj
  omega

end Sonar3D.Sonar
