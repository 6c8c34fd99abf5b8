/-
The range gate of `receive()`, over the 32-bit product it tests.

A reading and the resolution are 16-bit words, so their product can reach
`(2^16 - 1)^2` and overflow an `int`. An overflowing product is below `2^32`, so
it shows as a negative one and the gate drops the reading; what remains is that
the true range is outside the gate too. That depends on the sound velocity,
which comes in tenths of a metre per second: it is 0, and then every range is,
or at least 0.1, and then `2^31` millimetres make more than 143 metres.
-/
import Sonar3D.SonarReceive
import Mathlib.Tactic.FieldSimp
import Mathlib.Tactic.Linarith
import Mathlib.Tactic.Positivity

set_option autoImplicit false

namespace Sonar3D.Sonar

open Sonar3D.PrefixBuffer Sonar3D.Words

/-! ## What a datagram says -/

/-- Byte `i` of a datagram, zero past its end. -/
def Datagram.byte (d : Datagram) (i : ℕ) : ℕ := ((d.bytes[i]?).getD 0).toNat

/-- The big-endian word at bytes `i` and `i + 1`. -/
def Datagram.word (d : Datagram) (i : ℕ) : ℕ := 256 * d.byte i + d.byte (i + 1)

/-- The sound velocity of a datagram: 15 bits in tenths of a metre per second
if the top bit of byte 83 is set. -/
def Datagram.soundVelocity (d : Datagram) : ℚ :=
  if 128 ≤ d.byte 83 then ((256 * (d.byte 83 - 128) + d.byte 84 : ℕ) : ℚ) / 10 else 1500

/-- The mathematical range of a reading `v`, in metres. -/
def Datagram.rangeOf (d : Datagram) (v : ℕ) : ℚ :=
  (v : ℚ) * d.word 85 / 1000 * d.soundVelocity / 1500

def Datagram.range (d : Datagram) (j : ℕ) : ℚ := d.rangeOf (d.word (256 + 2 * j))

theorem Datagram.byte_lt (d : Datagram) (i : ℕ) : d.byte i < 256 := UInt8.toNat_lt _

theorem Datagram.word_lt (d : Datagram) (i : ℕ) : d.word i < 65536 := by
  have hhi := d.byte_lt i
  have hlo := d.byte_lt (i + 1)
  unfold Datagram.word
  omega

/-- There is no sound velocity between 0 and 0.1. -/
theorem Datagram.soundVelocity_cases (d : Datagram) :
    d.soundVelocity = 0 ∨ 1 / 10 ≤ d.soundVelocity := by
  unfold Datagram.soundVelocity
  split
  · -- a whole number of tenths
    rcases Nat.eq_zero_or_pos (256 * (d.byte 83 - 128) + d.byte 84) with hzero | hpos
    · left
      rw [hzero, Nat.cast_zero, zero_div]
    · right
      have hone : (1 : ℚ) ≤ ((256 * (d.byte 83 - 128) + d.byte 84 : ℕ) : ℚ) := by
        exact_mod_cast hpos
      linarith
  · right
    norm_num

/-! ## What the buffer holds after it -/

/-- Inside a datagram the buffer holds its bytes. -/
theorem afterRecv_byte (buf : ReceiveBuf) (d : Datagram) (i : ℕ) (h : i < d.bytes.length) :
    (afterRecv buf (some d) i).toNat = d.byte i := by
  have hbyte : afterRecv buf (some d) i = d.bytes[i] := overwrite_of_lt buf d.bytes i h
  rw [hbyte, Datagram.byte, List.getElem?_eq_getElem h, Option.getD_some]

theorem get_value_afterRecv (buf : ReceiveBuf) (d : Datagram) (i : ℕ)
    (h : i + 1 < d.bytes.length) : get_value (afterRecv buf (some d)) i = d.word i := by
  unfold get_value Datagram.word
  rw [bigEndian_eq, afterRecv_byte buf d i (by omega), afterRecv_byte buf d (i + 1) h]

/-- The two bytes of the sound velocity, as `receive()` decodes them. -/
theorem decodeHeader_Sound_Velocity (buf : ReceiveBuf) (d : Datagram)
    (h : 84 < d.bytes.length) :
    (decodeHeader (afterRecv buf (some d))).Sound_Velocity = d.soundVelocity := by
  have hhi := afterRecv_byte buf d 83 (by omega)
  have hlo := afterRecv_byte buf d 84 h
  have hlt := d.byte_lt 83
  have hlolt := d.byte_lt 84
  unfold decodeHeader Datagram.soundVelocity
  dsimp only
  by_cases htop : 128 ≤ d.byte 83
  · have hset : afterRecv buf (some d) 83 > 127 := by
      rw [gt_iff_lt, UInt8.lt_iff_toNat_lt, hhi]
      exact htop
    have hmod : d.byte 83 % 128 = d.byte 83 - 128 := by omega
    rw [if_pos htop, if_pos hset, and_low_seven, hhi, hlo, hmod, shiftLeft_or_eq _ _ hlolt]
  · have hunset : ¬ afterRecv buf (some d) 83 > 127 := by
      rw [gt_iff_lt, UInt8.lt_iff_toNat_lt, hhi]
      exact htop
    rw [if_neg htop, if_neg hunset]

/-! ## The gate -/

/-- A product of two words is in the gate after the wrap exactly if it is
before, and then the wrap has not changed it. -/
theorem correctedRange_exact (h : Header) (value : ℤ)
    (hnonneg : 0 ≤ value * h.range_resolution) (hlt : value * h.range_resolution < 2 ^ 32)
    (hvel : h.Sound_Velocity = 0 ∨ 1 / 10 ≤ h.Sound_Velocity) :
    (InGate (correctedRange h value)
      ↔ InGate ((value : ℚ) * h.range_resolution / 1000 * h.Sound_Velocity / 1500))
    ∧ (InGate (correctedRange h value) → correctedRange h value
        = (value : ℚ) * h.range_resolution / 1000 * h.Sound_Velocity / 1500) := by
  rcases lt_or_ge (value * h.range_resolution) (2 ^ 31) with hfits | hover
  · -- the product fits: the range is computed exactly
    have hexact : correctedRange h value
        = (value : ℚ) * h.range_resolution / 1000 * h.Sound_Velocity / 1500 := by
      unfold correctedRange
      rw [wrap32_of_lt _ hnonneg hfits]
      push_cast
      rfl
    rw [hexact]
    exact ⟨Iff.rfl, fun _ => rfl⟩
  · -- it does not: both ranges are outside the gate
    have hvel0 : 0 ≤ h.Sound_Velocity := by
      rcases hvel with hvel | hvel
      · exact hvel.ge
      · linarith
    have hneg : (wrap32 (value * h.range_resolution) : ℚ) < 0 := by
      exact_mod_cast wrap32_neg _ hover hlt
    have hdropped : ¬ InGate (correctedRange h value) := by
      rintro ⟨hmin, -⟩
      have hmul := mul_nonneg (neg_nonneg.mpr hneg.le) hvel0
      unfold correctedRange at hmin
      dsimp only at hmin
      linarith
    have hfar : ¬ InGate ((value : ℚ) * h.range_resolution / 1000 * h.Sound_Velocity / 1500) := by
      rintro ⟨hmin, hmax⟩
      have hbig : (2 ^ 31 : ℚ) ≤ value * h.range_resolution := by exact_mod_cast hover
      rcases hvel with hzero | htenth
      · -- no velocity, no range
        rw [hzero] at hmin
        linarith
      · -- at a tenth of a metre per second it is beyond 143 metres
        have hmul : (2 ^ 31 : ℚ) * (1 / 10) ≤ value * h.range_resolution * h.Sound_Velocity :=
          mul_le_mul hbig htenth (by norm_num) (by linarith)
        linarith
    exact ⟨iff_of_false hdropped hfar, fun hin => absurd hin hdropped⟩

/-- What `receive()` computes for a reading `v` behind the header of a datagram,
against the mathematical range of it. -/
theorem correctedRange_datagram (buf : ReceiveBuf) (d : Datagram) (v : ℕ) (hv : v < 65536)
    (hlen : 86 < d.bytes.length) :
    (InGate (correctedRange (decodeHeader (afterRecv buf (some d))) v) ↔ InGate (d.rangeOf v))
    ∧ (InGate (d.rangeOf v)
        → correctedRange (decodeHeader (afterRecv buf (some d))) v = d.rangeOf v) := by
  have hres : (decodeHeader (afterRecv buf (some d))).range_resolution = d.word 85 :=
    get_value_afterRecv buf d 85 hlen
  have hvel := decodeHeader_Sound_Velocity buf d (by omega)
  have hprod : v * d.word 85 ≤ 65535 * 65535 :=
    Nat.mul_le_mul (Nat.le_of_lt_succ hv) (Nat.le_of_lt_succ (d.word_lt _))
  obtain ⟨hiff, heq⟩ := correctedRange_exact (decodeHeader (afterRecv buf (some d))) v
    (by rw [hres]; exact_mod_cast Nat.zero_le _)
    (by rw [hres]; exact_mod_cast Nat.lt_of_le_of_lt hprod (by norm_num))
    (by rw [hvel]; exact d.soundVelocity_cases)
  rw [hres, hvel] at hiff heq
  exact ⟨hiff, fun hin => heq (hiff.mpr hin)⟩

/-- Reading `j` as the loop sees it: a byte past the end of the datagram is the
one the buffer held before. -/
def Datagram.readingOver (d : Datagram) (buf : ReceiveBuf) (j : ℕ) : ℕ :=
  256 * ((d.bytes[256 + 2 * j]?).getD (buf (256 + 2 * j))).toNat
    + ((d.bytes[256 + 2 * j + 1]?).getD (buf (256 + 2 * j + 1))).toNat

/-- Reading `j` has a range in the gate. -/
def Datagram.Kept (d : Datagram) (buf : ReceiveBuf) (j : ℕ) : Prop :=
  InGate (d.rangeOf (d.readingOver buf j))

instance (d : Datagram) (buf : ReceiveBuf) (j : ℕ) : Decidable (d.Kept buf j) :=
  inferInstanceAs (Decidable (InGate _))

theorem get_value_readingOver (buf : ReceiveBuf) (d : Datagram) (j : ℕ) :
    get_value (afterRecv buf (some d)) (256 + 2 * j) = d.readingOver buf j := by
  unfold get_value
  rw [bigEndian_eq]
  rfl

/-- Every reading the loop examines, complete or not, is kept exactly if it has
a range in the gate, and then that is the range used. -/
theorem kept_exact (buf : ReceiveBuf) (d : Datagram) (j : ℕ)
    (hj : j < readings (Delivery.ret (some d))) :
    (InGate (correctedRange (decodeHeader (afterRecv buf (some d)))
        (get_value (afterRecv buf (some d)) (256 + 2 * j))) ↔ d.Kept buf j)
    ∧ (d.Kept buf j → correctedRange (decodeHeader (afterRecv buf (some d)))
        (get_value (afterRecv buf (some d)) (256 + 2 * j)) = d.rangeOf (d.readingOver buf j)) := by
  have hlt : d.readingOver buf j < 65536 := by
    have hhi := ((d.bytes[256 + 2 * j]?).getD (buf (256 + 2 * j))).toNat_lt
    have hlo := ((d.bytes[256 + 2 * j + 1]?).getD (buf (256 + 2 * j + 1))).toNat_lt
    unfold Datagram.readingOver
    omega
  have hheader := header_lt d j hj
  rw [get_value_readingOver]
  exact correctedRange_datagram buf d _ hlt (by omega)

/-- The gate is exact: whatever the buffer held before, `receive()` keeps a
complete reading of a datagram if and only if its mathematical range is between
0.5 and 50 metres, and the range it then uses is that one. -/
theorem rangeGate_exact (buf : ReceiveBuf) (d : Datagram) (j : ℕ)
    (hj : 256 + 2 * j + 1 < d.bytes.length) :
    ((∃ b ∈ beams buf (some d), b.j = j) ↔ 1 / 2 < d.range j ∧ d.range j < 50)
    ∧ ∀ b ∈ beams buf (some d), b.j = j → b.corrected_range = d.range j := by
  obtain ⟨hiff, heq⟩ := correctedRange_datagram buf d _ (d.word_lt (256 + 2 * j)) (by omega)
  rw [← get_value_afterRecv buf d _ hj] at hiff heq
  have hexamined : j < readings (Delivery.ret (some d)) := by
    rw [readings_some]
    omega
  constructor
  · rw [exists_mem_beams, and_iff_right hexamined, hiff]
    exact Iff.rfl
  · intro b hb hbj
    have hin := ((exists_mem_beams buf (some d) j).mp ⟨b, hb, hbj⟩).2
    rw [eq_of_mem_beams buf (some d) b hb, hbj]
    exact heq (hiff.mp hin)

/-- One reading of 1000 at a resolution of 10 mm. -/
def tenMetres : Datagram where
  bytes := (List.replicate 256 0).set 86 10 ++ [3, 232]
  length_le := by decide +kernel

theorem rangeGate_exact_tenMetres :
    tenMetres.range 0 = 10
    ∧ ((∃ b ∈ beams ReceiveBuf.initial (some tenMetres), b.j = 0)
        ↔ 1 / 2 < tenMetres.range 0 ∧ tenMetres.range 0 < 50)
    ∧ ∀ b ∈ beams ReceiveBuf.initial (some tenMetres),
        b.j = 0 → b.corrected_range = tenMetres.range 0 :=
  ⟨by decide +kernel, rangeGate_exact _ tenMetres 0 (by decide +kernel)⟩

end Sonar3D.Sonar
