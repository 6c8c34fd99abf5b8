/-
How far a cloud of `receive()` depends on the calls before it.

The header bytes and the complete readings of a datagram lie inside it, so the
buffer holds the datagram's own bytes there and nothing older shows. A call that
is delivered nothing decodes a stale header, but examines no reading. What is
left is a datagram of odd length with readings: the loop compares only the first
byte of a reading with `Ret`, so the last one is completed with the byte behind
the datagram, which an earlier and longer datagram has left there.

It always shows if it can: any value of that byte that puts the reading in the
gate gives another point than every other value does. The one byte no datagram
reaches is the last of the buffer, since `recvfrom` is given 65535 bytes of the
65536.
-/
import Sonar3D.SonarGate

set_option autoImplicit false

namespace Sonar3D.Sonar

open Sonar3D.PlanarRotation Sonar3D.PrefixBuffer Sonar3D.Words

/-! ## Histories -/

def bufferAfter (past : List Delivery) : ReceiveBuf := past.foldl afterRecv ReceiveBuf.initial

/-- Call `k` of a sequence is made on the buffer the calls before it leave. -/
theorem receiveAll_getElem? (buf : ReceiveBuf) (ds : List Delivery) (k : ℕ) :
    (receiveAll buf ds)[k]? = (ds[k]?).map (receive ((ds.take k).foldl afterRecv buf)) := by
  induction ds generalizing buf k with
  | nil => rfl
  | cons d ds ih =>
      cases k with
      | zero => rfl
      | succ k => exact ih (afterRecv buf d) k

/-- No datagram reaches the last byte of the buffer. -/
theorem bufferAfter_last (past : List Delivery) : bufferAfter past 65535 = 0 := by
  have hfold : bufferAfter past = (past.map Delivery.bytes).foldl overwrite ReceiveBuf.initial := by
    rw [List.foldl_map]
    rfl
  rw [hfold, foldl_overwrite_of_le]
  · rfl
  · intro bytes hbytes
    obtain ⟨d, -, rfl⟩ := List.mem_map.mp hbytes
    cases d with
    | none => exact Nat.zero_le _
    | some d => exact d.length_le

/-- The cloud of a delivery does not depend on the history: any two sequences of
calls that agree on delivery `k` return the same cloud `k`. -/
def StaleFree (d : Delivery) : Prop :=
  ∀ (ds ds' : List Delivery) (k : ℕ), ds[k]? = some d → ds'[k]? = some d →
    (receiveAll ReceiveBuf.initial ds)[k]? = (receiveAll ReceiveBuf.initial ds')[k]?

/-- It is enough to compare histories. -/
theorem staleFree_of_receive (d : Delivery)
    (h : ∀ past past', receive (bufferAfter past) d = receive (bufferAfter past') d) :
    StaleFree d := by
  intro ds ds' k hk hk'
  rw [receiveAll_getElem?, receiveAll_getElem?, hk, hk', Option.map_some, Option.map_some]
  exact congrArg some (h (ds.take k) (ds'.take k))

theorem StaleFree.receive_eq {d : Delivery} (h : StaleFree d) (p p' : Delivery) :
    receive (bufferAfter [p]) d = receive (bufferAfter [p']) d := by
  have hsecond := h [p, d] [p', d] 1 rfl rfl
  exact Option.some.inj hsecond

theorem receive_none (buf : ReceiveBuf) : receive buf none = [] := by
  unfold receive
  rw [beams_of_ret_le buf none (by unfold Delivery.ret; norm_num)]
  rfl

/-! ## What lies inside the datagram -/

theorem decodeHeader_congr (buf buf' : ReceiveBuf) (d : Datagram) (hlen : 86 < d.bytes.length) :
    decodeHeader (afterRecv buf (some d)) = decodeHeader (afterRecv buf' (some d)) := by
  have hbyte : ∀ i, i ≤ 86 → afterRecv buf (some d) i = afterRecv buf' (some d) i :=
    fun i hi => overwrite_congr buf buf' d.bytes i (Nat.lt_of_le_of_lt hi hlen)
  unfold decodeHeader get_value
  rw [hbyte 70 (by norm_num), hbyte (70 + 1) (by norm_num), hbyte 76 (by norm_num),
    hbyte (76 + 1) (by norm_num), hbyte 78 (by norm_num), hbyte 83 (by norm_num),
    hbyte 84 (by norm_num), hbyte 85 (by norm_num), hbyte (85 + 1) (by norm_num)]

theorem complete_congr (buf buf' : ReceiveBuf) (d : Datagram) (n : ℕ)
    (hlen : 86 < d.bytes.length) (hn : 256 + 2 * n ≤ d.bytes.length) :
    (List.range n).filterMap
        (beam? (afterRecv buf (some d)) (decodeHeader (afterRecv buf (some d))))
      = (List.range n).filterMap
        (beam? (afterRecv buf' (some d)) (decodeHeader (afterRecv buf' (some d)))) := by
  apply List.filterMap_congr
  intro j hj
  have hcomplete : 256 + 2 * j + 1 < d.bytes.length := by
    have hlt := List.mem_range.mp hj
    omega
  unfold beam?
  rw [decodeHeader_congr buf buf' d hlen, get_value_afterRecv buf d _ hcomplete,
    get_value_afterRecv buf' d _ hcomplete]

/-! ## The half reading -/

/-- The last reading of a datagram of odd length, completed by `b`. -/
def Datagram.halfReading (d : Datagram) (b : UInt8) : ℕ :=
  256 * d.byte (d.bytes.length - 1) + b.toNat

/-- What it is turned into, as reading `n` with bearing `angle`. -/
def Datagram.halfBeam? (d : Datagram) (n : ℕ) (angle : ℚ) (b : UInt8) : Option Beam :=
  if InGate (d.rangeOf (d.halfReading b)) then some ⟨n, d.rangeOf (d.halfReading b), angle⟩
  else none

theorem Datagram.halfReading_lt (d : Datagram) (b : UInt8) : d.halfReading b < 65536 := by
  have hhi := d.byte_lt (d.bytes.length - 1)
  have hlo : b.toNat < 256 := b.toNat_lt
  unfold Datagram.halfReading
  omega

theorem get_value_half (buf : ReceiveBuf) (d : Datagram) (n : ℕ)
    (hn : d.bytes.length = 257 + 2 * n) :
    get_value (afterRecv buf (some d)) (256 + 2 * n) = d.halfReading (buf d.bytes.length) := by
  -- the first byte is the datagram's last one, the second is behind it
  have hbehind : afterRecv buf (some d) (256 + 2 * n + 1) = buf d.bytes.length := by
    rw [hn, show 257 + 2 * n = 256 + 2 * n + 1 by omega]
    exact overwrite_of_le buf d.bytes _ (by omega)
  unfold get_value Datagram.halfReading
  rw [bigEndian_eq, afterRecv_byte buf d _ (by omega), hbehind, hn,
    show 257 + 2 * n - 1 = 256 + 2 * n by omega]

/-- The readings of a datagram of odd length: the complete ones, and one that
the byte behind the datagram takes part in. -/
theorem beams_odd (buf : ReceiveBuf) (d : Datagram) (n : ℕ)
    (hn : d.bytes.length = 257 + 2 * n) :
    beams buf (some d)
      = (List.range n).filterMap
          (beam? (afterRecv buf (some d)) (decodeHeader (afterRecv buf (some d))))
        ++ (d.halfBeam? n (bearing (decodeHeader (afterRecv buf (some d))) n)
            (buf d.bytes.length)).toList := by
  have hall : readings (Delivery.ret (some d)) = n + 1 := by
    rw [readings_some]
    omega
  obtain ⟨hiff, heq⟩ := correctedRange_datagram buf d _ (d.halfReading_lt (buf d.bytes.length))
    (by omega)
  have hlast : beam? (afterRecv buf (some d)) (decodeHeader (afterRecv buf (some d))) n
      = d.halfBeam? n (bearing (decodeHeader (afterRecv buf (some d))) n)
          (buf d.bytes.length) := by
    unfold beam? Datagram.halfBeam?
    rw [get_value_half buf d n hn]
    by_cases hin : InGate (d.rangeOf (d.halfReading (buf d.bytes.length)))
    · rw [if_pos hin, if_pos (hiff.mpr hin), heq hin]
    · rw [if_neg hin, if_neg (fun h => hin (hiff.mp h))]
  rw [beams_eq, hall, filterMap_range_succ, hlast]

/-! ## When nothing older shows -/

/-- A delivery that carries everything its cloud is made of: nothing, a datagram
that ends with the header, one of even length, one that fills the buffer to its
last byte, or one whose half reading no byte puts in the gate. -/
def SelfContained : Delivery → Prop
  | none => True
  | some d => d.bytes.length ≤ 256 ∨ Even d.bytes.length ∨ d.bytes.length = 65535
      ∨ ∀ b, ¬ InGate (d.rangeOf (d.halfReading b))

/-- Such a delivery gives one cloud, whatever the history left. -/
theorem beams_of_selfContained (buf buf' : ReceiveBuf) (d : Delivery) (h : SelfContained d)
    (hlast : buf 65535 = buf' 65535) : beams buf d = beams buf' d := by
  cases d with
  | none =>
      have hret : Delivery.ret none ≤ 256 := by unfold Delivery.ret; norm_num
      rw [beams_of_ret_le buf none hret, beams_of_ret_le buf' none hret]
  | some d =>
      rcases Nat.lt_or_ge 256 d.bytes.length with hlen | hshort
      · rcases Nat.even_or_odd' d.bytes.length with ⟨m, hm | hm⟩
        · -- even: every reading is complete
          have hall : readings (Delivery.ret (some d)) = m - 128 := by
            rw [readings_some]
            omega
          rw [beams_eq, beams_eq, hall]
          exact complete_congr buf buf' d _ (by omega) (by omega)
        · -- odd: the complete ones agree, and the half one is settled by `h`
          have hn : d.bytes.length = 257 + 2 * (m - 128) := by omega
          rw [beams_odd buf d _ hn, beams_odd buf' d _ hn,
            complete_congr buf buf' d _ (by omega) (by omega),
            decodeHeader_congr buf buf' d (by omega)]
          rcases h with hle | heven | hfull | hout
          · omega
          · obtain ⟨r, hr⟩ := heven
            omega
          · rw [hfull, hlast]
          · unfold Datagram.halfBeam?
            rw [if_neg (hout _), if_neg (hout _)]
      · have hret : Delivery.ret (some d) ≤ 256 := by
          show ((d.bytes.length : ℕ) : ℤ) ≤ 256
          exact_mod_cast hshort
        rw [beams_of_ret_le buf _ hret, beams_of_ret_le buf' _ hret]

/-! ## When it does -/

/-- Two points in one direction at different ranges are different. -/
theorem Beam.point_range_inj (j : ℕ) (r r' angle : ℚ)
    (h : Beam.point ⟨j, r, angle⟩ = Beam.point ⟨j, r', angle⟩) : r = r' := by
  have hreal : (r : ℝ) = r' :=
    radius_eq _ _ _ _ (Real.cos_sq_add_sin_sq ((pi / 180 * angle : ℚ) : ℝ))
      (congrArg PointXYZ.x h) (congrArg PointXYZ.y h)
  exact_mod_cast hreal

/-- A reading in the gate has a range of its own. -/
theorem Datagram.rangeOf_inj (d : Datagram) (v w : ℕ) (hin : InGate (d.rangeOf v))
    (h : d.rangeOf v = d.rangeOf w) : v = w := by
  have hscale : ∀ u : ℕ, d.rangeOf u = (u : ℚ) * (d.word 85 / 1000 * d.soundVelocity / 1500) := by
    intro u
    unfold Datagram.rangeOf
    ring
  -- a reading in the gate has a range, so neither factor is zero
  have hne : (d.word 85 : ℚ) / 1000 * d.soundVelocity / 1500 ≠ 0 := by
    intro hzero
    have hmin := hin.1
    rw [hscale, hzero, mul_zero] at hmin
    norm_num at hmin
  rw [hscale, hscale] at h
  exact_mod_cast mul_right_cancel₀ hne h

/-- A byte that completes the half reading into the gate gives another beam than
any other byte. -/
theorem Datagram.halfBeam?_points_ne (d : Datagram) (n : ℕ) (angle : ℚ) (b b' : UInt8)
    (hb : b ≠ b') (hin : InGate (d.rangeOf (d.halfReading b))) :
    (d.halfBeam? n angle b).toList.map Beam.point
      ≠ (d.halfBeam? n angle b').toList.map Beam.point := by
  intro heq
  unfold Datagram.halfBeam? at heq
  rw [if_pos hin] at heq
  by_cases hin' : InGate (d.rangeOf (d.halfReading b'))
  · -- both are kept, at different ranges in one direction
    rw [if_pos hin'] at heq
    have hpoint := (List.cons.inj heq).1
    have hreading := d.rangeOf_inj _ _ hin (Beam.point_range_inj n _ _ angle hpoint)
    unfold Datagram.halfReading at hreading
    exact hb (UInt8.toNat_inj.mp (by omega))
  · -- one is kept and the other is not
    rw [if_neg hin'] at heq
    exact absurd heq (by simp)

def Datagram.longer (d : Datagram) (b : UInt8) (h : d.bytes.length < 65535) : Datagram where
  bytes := List.replicate d.bytes.length 0 ++ [b]
  length_le := by
    rw [List.length_append, List.length_replicate]
    exact h

theorem Datagram.longer_leaves (d : Datagram) (b : UInt8) (h : d.bytes.length < 65535) :
    bufferAfter [some (d.longer b h)] d.bytes.length = b := by
  have hleft := overwrite_leftover ReceiveBuf.initial d.bytes (List.replicate d.bytes.length 0) b
    (List.length_replicate ..)
  rw [overwrite_of_le _ _ _ (Nat.le_refl _)] at hleft
  exact hleft

/-- A datagram whose half reading some byte puts in the gate is not stale-free:
the datagram before it decides whether, and where, a point is published. -/
theorem not_staleFree_of_half (d : Datagram) (b : UInt8) (hlen : 256 < d.bytes.length)
    (hodd : ¬ Even d.bytes.length) (hlt : d.bytes.length < 65535)
    (hin : InGate (d.rangeOf (d.halfReading b))) : ¬ StaleFree (some d) := by
  intro h
  obtain ⟨m, hm⟩ := Nat.not_even_iff_odd.mp hodd
  have hn : d.bytes.length = 257 + 2 * (m - 128) := by omega
  have hne : b ≠ b + 1 := by
    intro hsucc
    have hnat := congrArg UInt8.toNat hsucc
    rw [UInt8.toNat_add] at hnat
    have hb : b.toNat < 256 := b.toNat_lt
    have hone : (1 : UInt8).toNat = 1 := rfl
    omega
  -- the same datagram after `longer` ones that differ in their last byte
  have hclouds := h.receive_eq (some (d.longer b hlt)) (some (d.longer (b + 1) hlt))
  unfold receive at hclouds
  rw [beams_odd _ d _ hn, beams_odd _ d _ hn, d.longer_leaves, d.longer_leaves,
    complete_congr (bufferAfter [some (d.longer b hlt)])
      (bufferAfter [some (d.longer (b + 1) hlt)]) d _ (by omega) (by omega),
    decodeHeader_congr (bufferAfter [some (d.longer b hlt)])
      (bufferAfter [some (d.longer (b + 1) hlt)]) d (by omega),
    List.map_append, List.map_append] at hclouds
  exact d.halfBeam?_points_ne _ _ _ _ hne hin (List.append_cancel_left hclouds)

/-- No earlier byte influences the cloud of a delivery if and only if the
delivery carries everything its cloud is made of; and nothing delivered gives
nothing. -/
theorem staleFree_iff (d : Delivery) (buf : ReceiveBuf) :
    receive buf none = [] ∧ (StaleFree d ↔ SelfContained d) := by
  refine ⟨receive_none buf, ?_⟩
  constructor
  · intro h
    cases d with
    | none => trivial
    | some d =>
        by_contra hself
        simp only [SelfContained, not_or, not_le, not_forall, not_not] at hself
        obtain ⟨hlen, hodd, hfull, b, hin⟩ := hself
        have hlt : d.bytes.length < 65535 := Nat.lt_of_le_of_ne d.length_le hfull
        exact not_staleFree_of_half d b hlen hodd hlt hin h
  · intro h
    apply staleFree_of_receive
    intro past past'
    unfold receive
    rw [beams_of_selfContained (bufferAfter past) (bufferAfter past') d h
      (by rw [bufferAfter_last, bufferAfter_last])]

/-- A header with a resolution of 10 mm, and the first half of a reading. -/
def halfDatagram : Datagram where
  bytes := (List.replicate 256 0).set 86 10 ++ [3]
  length_le := by decide +kernel

theorem staleFree_fails : ¬ ∀ d, StaleFree d := by
  intro h
  exact not_staleFree_of_half halfDatagram 0 (by decide +kernel) (by decide +kernel)
    (by decide +kernel) (by decide +kernel) (h (some halfDatagram))

end Sonar3D.Sonar
