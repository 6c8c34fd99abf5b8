/-
Profile frames, and the bearings `receive()` gives their readings.

`ProfileFrame.encode` is a reference encoder, the inverse of the decoder as the
header format has it: the start angle is stored as `(angle + 180) * 100` in 16
bits at bytes 76 and 77, the increment in hundredths at byte 78, and the
readings as 16-bit words from byte 256 on.

The decoder divides the increment as a `double`, but the start angle as an
`int`: the hundredths of the start angle are lost, and with them every bearing
of a frame that starts at a broken degree is off by the same amount. The order
of the points and the beam index they carry are right for every frame, whatever
the gate has dropped before.
-/
import Sonar3D.SonarGate

set_option autoImplicit false

namespace Sonar3D.Sonar

open Sonar3D.PrefixBuffer Sonar3D.Words

/-! ## The encoder -/

/-- A profile frame, with angles in hundredths of a degree and any other header
content. -/
structure ProfileFrame where
  header : List UInt8
  header_length : header.length = 256
  start : ℤ
  start_ge : -18000 ≤ start
  start_lt : start + 18000 < 65536
  increment : UInt8
  readings : List UInt16
  readings_length : readings.length ≤ 32639

/-- The start angle as it is stored. -/
def ProfileFrame.stored (f : ProfileFrame) : ℕ := (f.start + 18000).toNat

def ProfileFrame.encodeHeader (f : ProfileFrame) : List UInt8 :=
  ((f.header.set 76 (UInt8.ofNat (f.stored / 256))).set 77 (UInt8.ofNat f.stored)).set 78
    f.increment

theorem ProfileFrame.encodeHeader_length (f : ProfileFrame) : f.encodeHeader.length = 256 := by
  unfold ProfileFrame.encodeHeader
  rw [List.length_set, List.length_set, List.length_set, f.header_length]

theorem ProfileFrame.encode_bytes_length (f : ProfileFrame) :
    (f.encodeHeader ++ f.readings.flatMap putWord).length = 256 + 2 * f.readings.length := by
  rw [List.length_append, f.encodeHeader_length, putWords_length]

def ProfileFrame.encode (f : ProfileFrame) : Datagram where
  bytes := f.encodeHeader ++ f.readings.flatMap putWord
  length_le := by
    have hlen := f.readings_length
    rw [f.encode_bytes_length]
    omega

/-- The bearing of reading `j` of a frame, in degrees. -/
def ProfileFrame.bearing (f : ProfileFrame) (j : ℕ) : ℚ :=
  (f.start : ℚ) / 100 + j * (((f.increment.toNat : ℕ) : ℚ) / 100)

/-- The range of reading `j` of a frame, in metres. -/
def ProfileFrame.range (f : ProfileFrame) (j : ℕ) : ℚ :=
  f.encode.rangeOf ((f.readings[j]?).getD 0).toNat

/-! ## What the decoder makes of it -/

theorem ProfileFrame.encode_byte (f : ProfileFrame) (i : ℕ) (hi : i < 256) :
    f.encode.byte i = ((f.encodeHeader[i]?).getD 0).toNat := by
  unfold Datagram.byte ProfileFrame.encode
  rw [List.getElem?_append_left (by rw [f.encodeHeader_length]; exact hi)]

/-- The start angle is read back as it is stored; so are the increment and every
reading. -/
theorem ProfileFrame.encode_word_76 (f : ProfileFrame) : f.encode.word 76 = f.stored := by
  have hlen := f.header_length
  have hhi : f.encode.byte 76 = (UInt8.ofNat (f.stored / 256)).toNat := by
    rw [f.encode_byte 76 (by norm_num), ProfileFrame.encodeHeader,
      List.getElem?_set_ne (by norm_num), List.getElem?_set_ne (by norm_num),
      List.getElem?_set_self (by omega)]
    rfl
  have hlo : f.encode.byte 77 = (UInt8.ofNat f.stored).toNat := by
    rw [f.encode_byte 77 (by norm_num), ProfileFrame.encodeHeader,
      List.getElem?_set_ne (by norm_num),
      List.getElem?_set_self (by rw [List.length_set]; omega)]
    rfl
  have hfits : f.stored < 65536 := by
    have hlt := f.start_lt
    unfold ProfileFrame.stored
    omega
  unfold Datagram.word
  rw [hhi, hlo, ← bigEndian_eq, bigEndian_putWord f.stored hfits]

theorem ProfileFrame.encode_byte_78 (f : ProfileFrame) :
    f.encode.byte 78 = f.increment.toNat := by
  have hlen := f.header_length
  rw [f.encode_byte 78 (by norm_num), ProfileFrame.encodeHeader,
    List.getElem?_set_self (by rw [List.length_set, List.length_set]; omega)]
  rfl

theorem ProfileFrame.encode_word_reading (f : ProfileFrame) (j : ℕ)
    (hj : j < f.readings.length) : f.encode.word (256 + 2 * j) = f.readings[j].toNat := by
  have hbytes : ∀ i, (f.encode.bytes)[256 + i]? = (f.readings.flatMap putWord)[i]? := by
    intro i
    show (f.encodeHeader ++ f.readings.flatMap putWord)[256 + i]? = _
    rw [List.getElem?_append_right (by rw [f.encodeHeader_length]; omega),
      f.encodeHeader_length, Nat.add_sub_cancel_left]
  obtain ⟨hhi, hlo⟩ := putWords_getElem? f.readings j hj
  unfold Datagram.word Datagram.byte
  rw [Nat.add_assoc, hbytes, hbytes, hhi, hlo, Option.getD_some, Option.getD_some,
    ← bigEndian_eq, bigEndian_putWord _ f.readings[j].toNat_lt]

theorem ProfileFrame.encode_range (f : ProfileFrame) (j : ℕ) (hj : j < f.readings.length) :
    f.encode.range j = f.range j := by
  unfold Datagram.range ProfileFrame.range
  rw [f.encode_word_reading j hj, List.getElem?_eq_getElem hj, Option.getD_some]

/-- The bearing the decoder computes for reading `j`: that of a frame whose
start angle is rounded down to a degree. -/
theorem ProfileFrame.bearing_decoded (f : ProfileFrame) (buf : ReceiveBuf) (j : ℕ) :
    Sonar.bearing (decodeHeader (afterRecv buf (some f.encode))) j
      = ((f.start / 100 : ℤ) : ℚ) + j * (((f.increment.toNat : ℕ) : ℚ) / 100) := by
  have hlen : f.encode.bytes.length = 256 + 2 * f.readings.length := f.encode_bytes_length
  have hstart : get_value (afterRecv buf (some f.encode)) 76 = f.start + 18000 := by
    have hge := f.start_ge
    rw [get_value_afterRecv buf f.encode 76 (by omega), f.encode_word_76]
    unfold ProfileFrame.stored
    omega
  have hinc : (afterRecv buf (some f.encode) 78).toNat = f.increment.toNat := by
    rw [afterRecv_byte buf f.encode 78 (by omega), f.encode_byte_78]
  -- 180 degrees are a whole number of hundreds, so only `start` is rounded
  have hdiv : (f.start + 18000).tdiv 100 - 180 = f.start / 100 := by
    have hge := f.start_ge
    rw [Int.tdiv_eq_ediv_of_nonneg (by omega)]
    omega
  unfold Sonar.bearing decodeHeader
  dsimp only
  rw [hstart, hinc, hdiv]

/-- It is the bearing of the reading exactly if the frame starts at a whole
degree. -/
theorem ProfileFrame.bearing_decoded_eq_iff (f : ProfileFrame) (buf : ReceiveBuf) (j : ℕ) :
    Sonar.bearing (decodeHeader (afterRecv buf (some f.encode))) j = f.bearing j
      ↔ 100 ∣ f.start := by
  rw [f.bearing_decoded, ProfileFrame.bearing, add_left_inj]
  constructor
  · intro heq
    have hmul : ((f.start / 100 : ℤ) : ℚ) * 100 = f.start := by
      rw [heq]
      exact div_mul_cancel₀ _ (by norm_num)
    have hmul' : f.start / 100 * 100 = f.start := by exact_mod_cast hmul
    exact ⟨f.start / 100, by omega⟩
  · rintro ⟨degrees, hdegrees⟩
    have hquot : f.start / 100 = degrees := by omega
    rw [hquot, hdegrees]
    push_cast
    exact (mul_div_cancel_left₀ _ (by norm_num)).symm

/-! ## The law -/

/-- Decoding undoes encoding: every point of a frame has the bearing of its
reading, and there is one, in order, for each reading in the gate. -/
structure BearingsDecoded (f : ProfileFrame) (buf : ReceiveBuf) : Prop where
  bearing_eq : ∀ b ∈ beams buf (some f.encode), b.bearing = f.bearing b.j
  in_order : (beams buf (some f.encode)).map Beam.j
    = (List.range f.readings.length).filter (fun j => InGate (f.range j))

/-- The order is right for every frame. -/
theorem ProfileFrame.beams_in_order (f : ProfileFrame) (buf : ReceiveBuf) :
    (beams buf (some f.encode)).map Beam.j
      = (List.range f.readings.length).filter (fun j => InGate (f.range j)) := by
  have hlen : f.encode.bytes.length = 256 + 2 * f.readings.length := f.encode_bytes_length
  have hall : Sonar.readings (Delivery.ret (some f.encode)) = f.readings.length := by
    rw [readings_some]
    omega
  rw [beams_map_j, hall]
  apply List.filter_congr
  intro j hj
  have hcomplete : 256 + 2 * j + 1 < f.encode.bytes.length := by
    have hlt := List.mem_range.mp hj
    omega
  rw [← f.encode_range j (List.mem_range.mp hj), get_value_afterRecv buf _ _ hcomplete]
  exact decide_eq_decide.mpr
    (correctedRange_datagram buf f.encode _ (f.encode.word_lt _) (by omega)).1

theorem ProfileFrame.mem_range_beams (f : ProfileFrame) (buf : ReceiveBuf) (j : ℕ) :
    (∃ b ∈ beams buf (some f.encode), b.j = j)
      ↔ j < f.readings.length ∧ InGate (f.range j) := by
  rw [← List.mem_map, f.beams_in_order, List.mem_filter, List.mem_range, decide_eq_true_iff]

/-- The bearings of a frame are decoded if and only if it starts at a whole
degree or has no reading in the gate. -/
theorem bearingsDecoded_iff (f : ProfileFrame) (buf : ReceiveBuf) :
    BearingsDecoded f buf
      ↔ 100 ∣ f.start ∨ ∀ j < f.readings.length, ¬ InGate (f.range j) := by
  constructor
  · intro h
    by_cases hany : ∃ j < f.readings.length, InGate (f.range j)
    · -- a point shows the start angle its bearing was computed from
      left
      obtain ⟨j, hj, hin⟩ := hany
      obtain ⟨b, hb, rfl⟩ := (f.mem_range_beams buf j).mpr ⟨hj, hin⟩
      rw [← f.bearing_decoded_eq_iff buf b.j, ← h.bearing_eq b hb, eq_of_mem_beams buf _ b hb]
    · right
      intro j hj hin
      exact hany ⟨j, hj, hin⟩
  · intro h
    refine ⟨?_, f.beams_in_order buf⟩
    intro b hb
    rcases h with hwhole | hnone
    · rw [eq_of_mem_beams buf _ b hb]
      exact (f.bearing_decoded_eq_iff buf b.j).mpr hwhole
    · obtain ⟨hj, hin⟩ := (f.mem_range_beams buf b.j).mp ⟨b, hb, rfl⟩
      exact absurd hin (hnone b.j hj)

/-- A frame that starts at -60.5 degrees, with one reading of 10 m. -/
def brokenDegree : ProfileFrame where
  header := (List.replicate 256 0).set 86 10
  header_length := by rw [List.length_set, List.length_replicate]
  start := -6050
  start_ge := by norm_num
  start_lt := by norm_num
  increment := 90
  readings := [1000]
  readings_length := by norm_num

/-- Its one point is put at -61 degrees. -/
theorem bearingsDecoded_fails : ¬ ∀ f buf, BearingsDecoded f buf := by
  intro h
  have hin : InGate (brokenDegree.range 0) := by decide +kernel
  obtain ⟨b, hb, hbj⟩ :=
    (brokenDegree.mem_range_beams ReceiveBuf.initial 0).mpr ⟨by decide, hin⟩
  have hbearing := (h brokenDegree ReceiveBuf.initial).bearing_eq b hb
  rw [eq_of_mem_beams _ _ b hb] at hbearing
  dsimp only at hbearing
  -- -61 against -60.5
  rw [brokenDegree.bearing_decoded, hbj] at hbearing
  revert hbearing
  decide +kernel

end Sonar3D.Sonar
