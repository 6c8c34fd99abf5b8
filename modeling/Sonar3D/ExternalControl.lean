/-
The switches sent to `DeltaT.exe`, and the programs that send them.

`DeltaT.exe` takes its settings from a packet of 256 bytes, sent to the socket its
own data came from. `SetExternalControlSwitches` fills the packet: it zeroes it and
then writes byte after byte from the front, with the meaning and the range of each
in a comment beside it. Four programs have a copy, with settings of their own;
here it is one definition over the settings, and each program's settings follow.
`Sonar` and `talker(v2)` fill the packet but never send it.

`ExternalControl.cpp` asks for data in a loop that does not wait, and sends the
packet whether any came or not; `DeltaT_External_Control_UDP.cpp` waits for data,
prints a line about it and answers. The lines about byte counts are left out.
-/
import Sonar3D.Hold
import Sonar3D.KeyLoop
import Sonar3D.SonarKeys

set_option autoImplicit false

namespace Sonar3D.ExternalControl

open Sonar3D.Hold Sonar3D.KeyLoop Sonar3D.KeyStream Sonar3D.PrefixBuffer Sonar3D.Words
open Sonar3D.Sonar (Datagram ReceiveBuf)

/-! ## The packet -/

/-- The settings, in the order of the packet. The sound velocity is in decimetres a
second, the trigger delay in units of 100 microseconds. -/
@[ext] structure Switches where
  ID : UInt8
  controlByte1 : UInt8
  controlByte2 : UInt8
  controlByte3 : UInt8
  controlByte4 : UInt8
  range : UInt8
  gain : UInt8
  displayGain : UInt8
  gainEqualization : UInt8
  sectorSize : UInt8
  beamwidth : UInt8
  numberOfBeams : UInt8
  averaging : UInt8
  persistence : ℕ
  soundVelocity : ℕ
  mode : UInt8
  outputEnable : UInt8
  profilePointDetection : UInt8
  profileMinimumRange : UInt8
  profileMinimumLevel : UInt8
  transducerUpDown : UInt8
  profileTiltAngle : ℤ
  rollCorrection : UInt8
  measurementUnits : UInt8
  record837 : UInt8
  record83P : UInt8
  record83B : UInt8
  externalTriggerControl : UInt8
  externalTriggerTransmitDelay : ℕ
deriving DecidableEq

/-- `(temp&0xFF00)>>8`. -/
def hiByte (n : ℕ) : UInt8 := UInt8.ofNat ((n &&& 0xFF00) >>> 8)

/-- `(temp&0x00FF)`. -/
def loByte (n : ℕ) : UInt8 := UInt8.ofNat (n &&& 0x00FF)

/-- What is written to the packet, byte by byte. -/
def Switches.bytes (sw : Switches) : List UInt8 :=
  ['E'.toUInt8, 'C'.toUInt8, sw.ID,
    sw.controlByte1, sw.controlByte2, sw.controlByte3, sw.controlByte4,
    sw.range, sw.gain, sw.displayGain, sw.gainEqualization, sw.sectorSize, sw.beamwidth,
    sw.numberOfBeams, sw.averaging,
    hiByte sw.persistence, loByte sw.persistence,
    hiByte sw.soundVelocity, loByte sw.soundVelocity,
    sw.mode, sw.outputEnable, sw.profilePointDetection, sw.profileMinimumRange,
    sw.profileMinimumLevel, sw.transducerUpDown,
    -- the tilt is sent with 180 added to it
    UInt8.ofInt (sw.profileTiltAngle + 180),
    sw.rollCorrection, sw.measurementUnits, sw.record837, sw.record83P, sw.record83B,
    sw.externalTriggerControl,
    hiByte sw.externalTriggerTransmitDelay, loByte sw.externalTriggerTransmitDelay]

/-- `SetExternalControlSwitches` with the settings `sw`: 256 zeros, then the bytes. -/
def SetExternalControlSwitches (sw : Switches) (SendBuf : ℕ → UInt8) : ℕ → UInt8 :=
  overwrite (overwrite SendBuf (List.replicate 256 0)) sw.bytes

/-- The first 256 bytes, which is what is sent. -/
def packet (SendBuf : ℕ → UInt8) : List UInt8 := (List.range 256).map SendBuf

/-! ## The settings of each program -/

/-- `Sonar.cpp` and `talker(v2).cpp`. -/
def sonarSwitches : Switches where
  ID := 0
  controlByte1 := 1
  controlByte2 := 0
  controlByte3 := 0
  controlByte4 := 0
  range := 7
  gain := 0
  displayGain := 30
  gainEqualization := 0
  sectorSize := 3
  beamwidth := 2
  numberOfBeams := 2
  averaging := 5
  persistence := 0
  soundVelocity := 15000
  mode := 3
  outputEnable := 0
  profilePointDetection := 1
  profileMinimumRange := 0
  profileMinimumLevel := 25
  transducerUpDown := 0
  profileTiltAngle := 0
  rollCorrection := 0
  measurementUnits := 0
  record837 := 1
  record83P := 0
  record83B := 0
  externalTriggerControl := 0
  externalTriggerTransmitDelay := 0

/-- `ExternalControl.cpp`. -/
def externalControlSwitches : Switches :=
  { sonarSwitches with gain := 6, numberOfBeams := 0 }

/-- `DeltaT_External_Control_UDP.cpp`. -/
def deltaTSwitches : Switches :=
  { sonarSwitches with
    range := 4
    gain := 6
    displayGain := 50
    gainEqualization := 1
    beamwidth := 3
    numberOfBeams := 0
    rollCorrection := 1
    record837 := 0 }

/-- The copy in `DeltaT_External_Control_UDP.cpp`, the only one that knows byte 34,
`Profile Point Filter`: bottom following. -/
def SetExternalControlSwitches_DeltaT (SendBuf : ℕ → UInt8) : ℕ → UInt8 :=
  Function.update (SetExternalControlSwitches deltaTSwitches SendBuf) 34 2

/-! ## What the comments say about the packet -/

/-- The ranges in the comments, and what an output needs to be enabled. -/
structure Switches.Documented (sw : Switches) : Prop where
  /-- Bit 0: the settings take effect. -/
  controlByte1 : sw.controlByte1 &&& 1 = 1
  range : 2 ≤ sw.range ∧ sw.range ≤ 10
  gain : sw.gain ≤ 20
  displayGain : 1 ≤ sw.displayGain ∧ sw.displayGain ≤ 100
  gainEqualization : sw.gainEqualization ≤ 1
  sectorSize : sw.sectorSize ≤ 3
  beamwidth : sw.beamwidth ≤ 3
  numberOfBeams : sw.numberOfBeams ≤ 2
  averaging : sw.averaging ≤ 10
  persistence : sw.persistence ≤ 600
  soundVelocity : 14000 ≤ sw.soundVelocity ∧ sw.soundVelocity ≤ 16000
  mode : sw.mode ≤ 4
  outputEnable : sw.outputEnable ≤ 1
  /-- 83P needs the profile points, 83B the whole sector in 120 beams. -/
  output : (sw.outputEnable = 0 → sw.profilePointDetection = 1)
    ∧ (sw.outputEnable = 1 → sw.sectorSize = 3 ∧ sw.numberOfBeams = 2)
  profilePointDetection : sw.profilePointDetection ≤ 1
  profileMinimumRange : sw.profileMinimumRange ≤ 100
  profileMinimumLevel : 10 ≤ sw.profileMinimumLevel ∧ sw.profileMinimumLevel ≤ 90
  transducerUpDown : sw.transducerUpDown ≤ 1
  profileTiltAngle : -30 ≤ sw.profileTiltAngle ∧ sw.profileTiltAngle ≤ 30
  rollCorrection : sw.rollCorrection ≤ 1
  measurementUnits : sw.measurementUnits ≤ 2
  record837 : sw.record837 ≤ 1
  externalTriggerTransmitDelay : sw.externalTriggerTransmitDelay ≤ 10000

/-- Every program sends settings that the comments allow. -/
theorem switches_documented :
    ∀ sw ∈ [sonarSwitches, externalControlSwitches, deltaTSwitches], sw.Documented := by
  intro sw hsw
  simp only [List.mem_cons, List.not_mem_nil, or_false] at hsw
  rcases hsw with rfl | rfl | rfl <;> constructor <;> decide

/-- The settings a packet stands for, by the layout in the comments. -/
def Switches.ofPacket (buf : ℕ → UInt8) : Switches where
  ID := buf 2
  controlByte1 := buf 3
  controlByte2 := buf 4
  controlByte3 := buf 5
  controlByte4 := buf 6
  range := buf 7
  gain := buf 8
  displayGain := buf 9
  gainEqualization := buf 10
  sectorSize := buf 11
  beamwidth := buf 12
  numberOfBeams := buf 13
  averaging := buf 14
  persistence := bigEndian (buf 15) (buf 16)
  soundVelocity := bigEndian (buf 17) (buf 18)
  mode := buf 19
  outputEnable := buf 20
  profilePointDetection := buf 21
  profileMinimumRange := buf 22
  profileMinimumLevel := buf 23
  transducerUpDown := buf 24
  profileTiltAngle := (buf 25).toNat - 180
  rollCorrection := buf 26
  measurementUnits := buf 27
  record837 := buf 28
  record83P := buf 29
  record83B := buf 30
  externalTriggerControl := buf 31
  externalTriggerTransmitDelay := bigEndian (buf 32) (buf 33)

/-! ## The packet read back -/

theorem hiByte_eq (n : ℕ) : hiByte n = UInt8.ofNat (n / 256) := by
  have hmask : (n &&& 0xFF00) >>> 8 = n / 256 % 256 := by
    rw [Nat.shiftRight_and_distrib, Nat.shiftRight_eq_div_pow]
    exact Nat.and_two_pow_sub_one_eq_mod (n / 256) 8
  unfold hiByte
  rw [hmask, ← UInt8.toNat_inj, UInt8.toNat_ofNat', UInt8.toNat_ofNat', Nat.mod_mod]

theorem loByte_eq (n : ℕ) : loByte n = UInt8.ofNat n := by
  have hmask : n &&& 0x00FF = n % 256 := Nat.and_two_pow_sub_one_eq_mod n 8
  unfold loByte
  rw [hmask, ← UInt8.toNat_inj, UInt8.toNat_ofNat', UInt8.toNat_ofNat', Nat.mod_mod]

/-- A word comes back from its two bytes. -/
theorem bigEndian_hiByte_loByte (n : ℕ) (h : n < 65536) :
    bigEndian (hiByte n) (loByte n) = n := by
  rw [hiByte_eq, loByte_eq, bigEndian_putWord n h]

/-- A tilt comes back from its byte. -/
theorem tilt_byte (t : ℤ) (h : -180 ≤ t ∧ t ≤ 75) :
    ((UInt8.ofInt (t + 180)).toNat : ℤ) - 180 = t := by
  have hnat : (UInt8.ofInt (t + 180)).toNat = (t + 180).toNat := by
    unfold UInt8.ofInt
    rw [UInt8.toNat_ofNat']
    omega
  rw [hnat]
  omega

theorem bytes_length (sw : Switches) : sw.bytes.length = 34 := rfl

/-- The packet is the bytes and zeros behind them, whatever the buffer held. -/
theorem setExternalControlSwitches_eq (sw : Switches) (SendBuf : ℕ → UInt8) :
    SetExternalControlSwitches sw SendBuf
      = overwrite SendBuf (sw.bytes ++ List.replicate 222 0) := by
  unfold SetExternalControlSwitches
  rw [overwrite_overwrite, List.drop_replicate, bytes_length]

theorem sent_length (sw : Switches) : (sw.bytes ++ List.replicate 222 0).length = 256 := by
  rw [List.length_append, List.length_replicate, bytes_length]

theorem packet_setExternalControlSwitches (sw : Switches) (SendBuf : ℕ → UInt8) :
    packet (SetExternalControlSwitches sw SendBuf) = sw.bytes ++ List.replicate 222 0 := by
  have hmap := map_range_overwrite SendBuf (sw.bytes ++ List.replicate 222 0)
  rw [sent_length] at hmap
  rw [setExternalControlSwitches_eq]
  exact hmap

/-- In the layout of the comments the packet reads back as the settings, whatever the
buffer held; its other bytes are zero, and the buffer behind it stays as it was. -/
theorem ofPacket_setExternalControlSwitches (sw : Switches) (h : sw.Documented)
    (SendBuf : ℕ → UInt8) :
    Switches.ofPacket (SetExternalControlSwitches sw SendBuf) = sw
      ∧ (∀ i, 34 ≤ i → i < 256 → SetExternalControlSwitches sw SendBuf i = 0)
      ∧ ∀ i, 256 ≤ i → SetExternalControlSwitches sw SendBuf i = SendBuf i := by
  refine ⟨?_, ?_, ?_⟩
  · -- a byte is read where it was written; the words and the tilt are put together
    apply Switches.ext
    case persistence =>
      have hle := h.persistence
      exact bigEndian_hiByte_loByte sw.persistence (by omega)
    case soundVelocity =>
      have hle := h.soundVelocity.2
      exact bigEndian_hiByte_loByte sw.soundVelocity (by omega)
    case profileTiltAngle =>
      have hle := h.profileTiltAngle
      exact tilt_byte sw.profileTiltAngle (by omega)
    case externalTriggerTransmitDelay =>
      have hle := h.externalTriggerTransmitDelay
      exact bigEndian_hiByte_loByte sw.externalTriggerTransmitDelay (by omega)
    all_goals rfl
  · intro i hge hlt
    rw [setExternalControlSwitches_eq, overwrite_of_lt _ _ _ (by rw [sent_length]; exact hlt),
      List.getElem_append_right (by exact hge), List.getElem_replicate]
  · intro i hge
    rw [setExternalControlSwitches_eq, overwrite_of_le _ _ _ (by rw [sent_length]; exact hge)]

/-- The settings are read from the first 34 bytes. -/
theorem ofPacket_update (buf : ℕ → UInt8) (w : UInt8) :
    Switches.ofPacket (Function.update buf 34 w) = Switches.ofPacket buf := by
  unfold Switches.ofPacket
  simp

/-- The packet says what it was filled with, and nothing else. In the layout of the
comments it reads back as the settings; its other bytes are zero, and so is all behind
the filter in the packet of `DeltaT_External_Control_UDP`; and the buffer behind the
packet, where there is one, stays as it was. -/
theorem switches_read_back (SendBuf : ℕ → UInt8) :
    (∀ sw : Switches, sw.Documented →
        Switches.ofPacket (SetExternalControlSwitches sw SendBuf) = sw
          ∧ (∀ i, 34 ≤ i → i < 256 → SetExternalControlSwitches sw SendBuf i = 0)
          ∧ ∀ i, 256 ≤ i → SetExternalControlSwitches sw SendBuf i = SendBuf i)
      ∧ Switches.ofPacket (SetExternalControlSwitches_DeltaT SendBuf) = deltaTSwitches
      ∧ SetExternalControlSwitches_DeltaT SendBuf 34 = 2
      ∧ ∀ i, 35 ≤ i → i < 256 → SetExternalControlSwitches_DeltaT SendBuf i = 0 := by
  obtain ⟨hread, hzero, -⟩ := ofPacket_setExternalControlSwitches deltaTSwitches
    (switches_documented deltaTSwitches (by simp)) SendBuf
  refine ⟨fun sw h => ofPacket_setExternalControlSwitches sw h SendBuf, ?_, ?_, ?_⟩
  · unfold SetExternalControlSwitches_DeltaT
    rw [ofPacket_update, hread]
  · exact Function.update_self 34 2 _
  · intro i hge hlt
    unfold SetExternalControlSwitches_DeltaT
    rw [Function.update_of_ne (by omega)]
    exact hzero i (by omega) hlt

/-- What `ExternalControl.cpp` fills its buffer with. -/
theorem switches_read_back_externalControl :
    Switches.ofPacket (SetExternalControlSwitches externalControlSwitches (fun _ => 0))
      = externalControlSwitches := by
  have hdocumented := switches_documented externalControlSwitches (by simp)
  exact ((switches_read_back (fun _ => 0)).1 externalControlSwitches hdocumented).1

/-- With the filter in byte 34, one zero less. -/
theorem packet_setExternalControlSwitches_DeltaT (SendBuf : ℕ → UInt8) :
    packet (SetExternalControlSwitches_DeltaT SendBuf)
      = deltaTSwitches.bytes ++ 2 :: List.replicate 221 0 := by
  have hbytes : deltaTSwitches.bytes ++ 2 :: List.replicate 221 0
      = (deltaTSwitches.bytes ++ List.replicate 222 0).set 34 2 := by
    rw [List.set_append_right _ _ (by rw [bytes_length]), bytes_length]
    rfl
  rw [hbytes, ← packet_setExternalControlSwitches deltaTSwitches SendBuf]
  unfold packet SetExternalControlSwitches_DeltaT
  apply List.ext_getElem
  · simp
  · intro i hi hi'
    rw [List.getElem_set, List.getElem_map, List.getElem_map, List.getElem_range]
    by_cases h : 34 = i
    · subst h
      rw [if_pos rfl, Function.update_self]
    · rw [if_neg h, Function.update_of_ne (Ne.symm h)]

/-! ## `ExternalControl.cpp` -/

variable {Addr : Type*}

/-- What happens around one iteration: the keys pressed since the last poll, and the
sender of the datagram that `recvfrom` finds, if there is one. -/
structure Exchange (Addr : Type*) where
  keys : List Char
  sender : Option Addr

/-- `SenderAddr1`, zero until a datagram has come, `SendBuf`, and the calls of `sendto`:
one with the zero address fails, and nothing leaves the host. -/
structure Vars (Addr : Type*) where
  SenderAddr1 : Option Addr
  SendBuf : ℕ → UInt8
  sent : List (Option Addr × List UInt8)

def Vars.initial : Vars Addr := ⟨none, fun _ => 0, []⟩

/-- The body of `while(!kbhit())`. -/
def UdpIo (v : Vars Addr) (it : Exchange Addr) : Vars Addr :=
  -- `recvfrom` leaves the address alone if it finds nothing
  let v := { v with SenderAddr1 := it.sender <|> v.SenderAddr1 }
  let v := { v with SendBuf := SetExternalControlSwitches externalControlSwitches v.SendBuf }
  { v with sent := v.sent ++ [(v.SenderAddr1, packet v.SendBuf)] }

/-- `main`, which polls with the `kbhit` of `Sonar.cpp`. -/
def run (its : List (Exchange Addr)) : Loop Char (Vars Addr) :=
  its.foldl (Loop.step Sonar.kbhit Exchange.keys UdpIo) (Loop.start Vars.initial)

/-- The packet of this program. -/
def switchesPacket : List UInt8 := externalControlSwitches.bytes ++ List.replicate 222 0

/-- Whom the program takes for the sender after some iterations. -/
def lastSender (addr : Option Addr) (its : List (Exchange Addr)) : Option Addr :=
  held (fun it => it.sender.map some) addr its

theorem UdpIo_fields (v : Vars Addr) (it : Exchange Addr) :
    (UdpIo v it).SenderAddr1 = (it.sender.map some).getD v.SenderAddr1
      ∧ (UdpIo v it).sent = v.sent ++ [((UdpIo v it).SenderAddr1, switchesPacket)] := by
  constructor
  · unfold UdpIo
    cases it.sender <;> rfl
  · unfold UdpIo
    dsimp only
    rw [packet_setExternalControlSwitches]
    rfl

theorem foldl_UdpIo_sender (v : Vars Addr) (its : List (Exchange Addr)) :
    (its.foldl UdpIo v).SenderAddr1 = lastSender v.SenderAddr1 its :=
  foldl_component UdpIo Vars.SenderAddr1 (fun it => it.sender.map some)
    (fun v it => (UdpIo_fields v it).1) v its

/-- One packet an iteration, to the last sender known by then. -/
theorem foldl_UdpIo_sent (v : Vars Addr) (its : List (Exchange Addr)) :
    (its.foldl UdpIo v).sent
      = v.sent ++ (List.range its.length).map (fun k =>
          (lastSender v.SenderAddr1 (its.take (k + 1)), switchesPacket)) := by
  induction its using List.reverseRecOn with
  | nil => simp
  | append_singleton its it ih =>
      have hearlier : ∀ k ∈ List.range its.length,
          (lastSender v.SenderAddr1 ((its ++ [it]).take (k + 1)), switchesPacket)
            = (lastSender v.SenderAddr1 (its.take (k + 1)), switchesPacket) := by
        intro k hk
        rw [List.take_append_of_le_length (List.mem_range.mp hk)]
      have hlast : UdpIo (its.foldl UdpIo v) it = (its ++ [it]).foldl UdpIo v := by
        rw [List.foldl_append]
        rfl
      have hall : (its ++ [it]).take (its.length + 1) = its ++ [it] :=
        List.take_of_length_le (by simp)
      rw [List.length_append, List.length_singleton, List.range_succ, List.map_append,
        List.map_congr_left hearlier, ← List.append_assoc, ← ih, ← hlast,
        (UdpIo_fields _ it).2, hlast, foldl_UdpIo_sender, List.map_singleton, hall]

/-- `ExternalControl` calls `sendto` once for every poll before the first key, with the
same bytes every time: for the sender of the datagram this iteration has found, or else
of the last one found, or for no address at all while none has come. -/
theorem run_replies (its : List (Exchange Addr)) :
    ((run its).finished = true ↔ ∃ it ∈ its, it.keys ≠ [])
      ∧ (run its).vars.sent
          = (List.range (quiet Exchange.keys its).length).map (fun k =>
              (lastSender none ((quiet Exchange.keys its).take (k + 1)), switchesPacket))
      ∧ ∀ (k : ℕ) (h : k < (quiet Exchange.keys its).length) (a : Addr),
          (quiet Exchange.keys its)[k].sender = some a →
            (run its).vars.sent[k]? = some (some a, switchesPacket) := by
  obtain ⟨hfinished, hvars⟩ := run_spec Exchange.keys UdpIo Sonar.kbhit_spec
    (Vars.initial : Vars Addr) its
  have hsent : (run its).vars.sent
      = (List.range (quiet Exchange.keys its).length).map (fun k =>
          (lastSender none ((quiet Exchange.keys its).take (k + 1)), switchesPacket)) := by
    unfold run
    rw [hvars, foldl_UdpIo_sent]
    rfl
  refine ⟨hfinished, hsent, ?_⟩
  intro k h a hsender
  have htake : lastSender none ((quiet Exchange.keys its).take (k + 1)) = some a := by
    unfold lastSender
    rw [List.take_succ_eq_append_getElem h, held_append, held_cons, hsender]
    rfl
  rw [hsent, List.getElem?_map, List.getElem?_range h, Option.map_some, htake]

/-! ## `DeltaT_External_Control_UDP.cpp` -/

/-- What happens around one iteration: the keys pressed since the last poll, the
datagram `recvfrom` waits for and its sender, or its failure, and whether `sendto`
succeeds if it is called. -/
structure Round (Addr : Type*) where
  keys : List Char
  arrival : Option (Datagram × Addr)
  sendOk : Bool

/-- The line `"%c%c%c - %d"`. -/
structure Line where
  c0 : UInt8
  c1 : UInt8
  c2 : UInt8
  ctr : ℤ
deriving DecidableEq

/-- `ctr`, the four bytes from 93 on, as an `int`. -/
def ctr (buf : ReceiveBuf) : ℤ :=
  wrap32 ((((buf 93).toNat <<< 24) ||| ((buf 94).toNat <<< 16) ||| ((buf 95).toNat <<< 8)
    ||| (buf 96).toNat : ℕ) : ℤ)

def line (buf : ReceiveBuf) : Line := ⟨buf 0, buf 1, buf 2, ctr buf⟩

structure DeltaT (Addr : Type*) where
  stdin : Stream Char
  finished : Bool
  socketOpen : Bool
  ReceiveBuf : ReceiveBuf
  SenderAddr : Option Addr
  SendBuf : ℕ → UInt8
  lines : List Line
  sent : List (Option Addr × List UInt8)

def DeltaT.initial : DeltaT Addr where
  stdin := Stream.empty
  finished := false
  socketOpen := true
  ReceiveBuf := Sonar.ReceiveBuf.initial
  SenderAddr := none
  SendBuf := fun _ => 0
  lines := []
  sent := []

def DeltaT.SendExternalControlSwitches (s : DeltaT Addr) (sendOk : Bool) : DeltaT Addr :=
  let s := { s with SendBuf := SetExternalControlSwitches_DeltaT s.SendBuf }
  if sendOk then { s with sent := s.sent ++ [(s.SenderAddr, packet s.SendBuf)] }
  -- `closesocket`, and a `getch()` that takes the key it waits for; `main` is not told
  else { s with socketOpen := false }

/-- One iteration of `while(!kbhit())`; the `kbhit` of `conio.h` only looks. -/
def DeltaT.step (s : DeltaT Addr) (r : Round Addr) : DeltaT Addr :=
  let s := { s with stdin := s.stdin.arrive r.keys }
  if s.finished then s
  else if s.stdin.unread ≠ [] then { s with finished := true, socketOpen := false }
  else
    let s := { s with ReceiveBuf := overwrite s.ReceiveBuf (List.replicate 256 0) }
    -- on a closed socket `recvfrom` fails
    match if s.socketOpen then r.arrival else none with
    | none => { s with finished := true, socketOpen := false }
    | some (d, a) =>
        let s := { s with ReceiveBuf := overwrite s.ReceiveBuf d.bytes, SenderAddr := some a }
        let s := { s with lines := s.lines ++ [line s.ReceiveBuf] }
        s.SendExternalControlSwitches r.sendOk

def DeltaT.run (rs : List (Round Addr)) : DeltaT Addr := rs.foldl DeltaT.step DeltaT.initial

/-- The iteration answers: no key, a datagram, and `sendto` succeeds. -/
def Round.Answers (r : Round Addr) : Bool := r.keys.isEmpty && r.arrival.isSome && r.sendOk

/-- What a datagram alone says should be printed: beyond its end the buffer is zero. -/
def lineOf (d : Datagram) : Line := line (overwrite (fun _ => 0) d.bytes)

/-- The packet of this program. -/
def deltaTPacket : List UInt8 := deltaTSwitches.bytes ++ 2 :: List.replicate 221 0

def Round.line? (r : Round Addr) : Option Line := r.arrival.map (fun (d, _) => lineOf d)

def Round.reply? (r : Round Addr) : Option (Option Addr × List UInt8) :=
  r.arrival.map (fun (_, a) => (some a, deltaTPacket))

/-- The line is read from the first 97 bytes, and all of them are the datagram's or
zero. -/
theorem line_afterRecv (buf : ReceiveBuf) (d : Datagram) :
    line (overwrite (overwrite buf (List.replicate 256 0)) d.bytes) = lineOf d := by
  have hbyte : ∀ i, i < 256 →
      overwrite (overwrite buf (List.replicate 256 0)) d.bytes i
        = overwrite (fun _ => 0) d.bytes i := by
    intro i hi
    unfold overwrite
    rw [List.getElem?_replicate_of_lt hi, Option.getD_some]
  unfold lineOf line ctr
  rw [hbyte 0 (by decide), hbyte 1 (by decide), hbyte 2 (by decide), hbyte 93 (by decide),
    hbyte 94 (by decide), hbyte 95 (by decide), hbyte 96 (by decide)]

/-- In the loop, with an open socket and no key. -/
structure DeltaT.Ready (s : DeltaT Addr) : Prop where
  finished : s.finished = false
  socketOpen : s.socketOpen = true
  unread : s.stdin.unread = []

/-- Left, or about to be: nothing can be received any more. -/
def DeltaT.Closing (s : DeltaT Addr) : Prop := s.finished = true ∨ s.socketOpen = false

/-- An iteration that finds no key, on a datagram. -/
theorem DeltaT.Ready.step_eq {s : DeltaT Addr} (h : s.Ready) (r : Round Addr) (d : Datagram)
    (a : Addr) (hkeys : r.keys = []) (harrival : r.arrival = some (d, a)) :
    s.step r = DeltaT.SendExternalControlSwitches
      { s with stdin := s.stdin.arrive []
               ReceiveBuf := overwrite (overwrite s.ReceiveBuf (List.replicate 256 0)) d.bytes
               SenderAddr := some a
               lines := s.lines ++ [lineOf d] } r.sendOk := by
  have hunread : (s.stdin.arrive r.keys).unread = [] := by
    rw [Stream.unread_arrive, h.unread, hkeys, List.append_nil]
  unfold DeltaT.step
  dsimp only
  rw [if_neg (by simp [h.finished]), if_neg (by simp [hunread]), if_pos h.socketOpen, harrival,
    hkeys]
  dsimp only
  rw [line_afterRecv]

/-- It prints its line, and if `sendto` succeeds the loop goes on with one more reply;
otherwise it ends there. -/
theorem DeltaT.Ready.step_of_arrival {s : DeltaT Addr} (h : s.Ready) (r : Round Addr)
    (d : Datagram) (a : Addr) (hkeys : r.keys = []) (harrival : r.arrival = some (d, a)) :
    (s.step r).lines = s.lines ++ [lineOf d]
      ∧ (r.sendOk = true → (s.step r).Ready
          ∧ (s.step r).sent = s.sent ++ [(some a, deltaTPacket)])
      ∧ (r.sendOk = false → (s.step r).Closing ∧ (s.step r).sent = s.sent) := by
  rw [h.step_eq r d a hkeys harrival]
  unfold DeltaT.SendExternalControlSwitches
  dsimp only
  rw [packet_setExternalControlSwitches_DeltaT]
  cases hok : r.sendOk with
  | true =>
      refine ⟨rfl, fun _ => ⟨⟨h.finished, h.socketOpen, ?_⟩, rfl⟩, nofun⟩
      show (s.stdin.arrive []).unread = []
      rw [Stream.unread_arrive, h.unread, List.append_nil]
  | false => exact ⟨rfl, nofun, fun _ => ⟨Or.inr rfl, rfl⟩⟩

/-- A key, or a failing `recvfrom`: the loop is left, and nothing more is printed. -/
theorem DeltaT.Ready.step_of_end {s : DeltaT Addr} (h : s.Ready) (r : Round Addr)
    (hend : r.keys ≠ [] ∨ r.arrival = none) :
    (s.step r).Closing ∧ (s.step r).lines = s.lines ∧ (s.step r).sent = s.sent := by
  unfold DeltaT.step
  dsimp only
  rw [if_neg (by simp [h.finished])]
  by_cases hkeys : r.keys = []
  · have harrival : r.arrival = none := hend.resolve_left (fun hne => hne hkeys)
    have hunread : (s.stdin.arrive r.keys).unread = [] := by
      rw [Stream.unread_arrive, h.unread, hkeys, List.append_nil]
    rw [if_neg (by simp [hunread]), if_pos h.socketOpen, harrival]
    exact ⟨Or.inl rfl, rfl, rfl⟩
  · have hunread : (s.stdin.arrive r.keys).unread ≠ [] := by
      rw [Stream.unread_arrive]
      simp [hkeys]
    rw [if_pos hunread]
    exact ⟨Or.inl rfl, rfl, rfl⟩

/-- From there on nothing is printed or sent. -/
theorem DeltaT.Closing.step {s : DeltaT Addr} (h : s.Closing) (r : Round Addr) :
    (s.step r).Closing ∧ (s.step r).lines = s.lines ∧ (s.step r).sent = s.sent := by
  unfold DeltaT.step
  dsimp only
  by_cases hfin : s.finished = true
  · rw [if_pos hfin]
    exact ⟨Or.inl hfin, rfl, rfl⟩
  · rw [if_neg hfin]
    have hclosed : s.socketOpen = false := h.resolve_left hfin
    split
    · exact ⟨Or.inl rfl, rfl, rfl⟩
    · rw [if_neg (by simp [hclosed])]
      exact ⟨Or.inl rfl, rfl, rfl⟩

theorem DeltaT.Closing.foldl {s : DeltaT Addr} (h : s.Closing) (rs : List (Round Addr)) :
    (rs.foldl DeltaT.step s).lines = s.lines ∧ (rs.foldl DeltaT.step s).sent = s.sent := by
  induction rs generalizing s with
  | nil => exact ⟨rfl, rfl⟩
  | cons r rs ih =>
      obtain ⟨hclosing, hlines, hsent⟩ := h.step r
      obtain ⟨hlines', hsent'⟩ := ih hclosing
      rw [List.foldl_cons]
      exact ⟨hlines'.trans hlines, hsent'.trans hsent⟩

/-- The line of the iteration that ends the run: one is printed if its datagram was
there and only the reply failed. -/
def lastLine (rs : List (Round Addr)) : Option Line :=
  match rs.dropWhile Round.Answers with
  | [] => none
  | r :: _ => if r.keys = [] then r.line? else none

theorem lastLine_of_answers (r : Round Addr) (rs : List (Round Addr)) (hanswers : r.Answers = true) :
    lastLine (r :: rs) = lastLine rs := by
  unfold lastLine
  rw [List.dropWhile_cons_of_pos hanswers]

theorem lastLine_of_stops (r : Round Addr) (rs : List (Round Addr)) (hstops : ¬ r.Answers = true) :
    lastLine (r :: rs) = if r.keys = [] then r.line? else none := by
  unfold lastLine
  rw [List.dropWhile_cons_of_neg hstops]

/-- The loop goes on exactly after an answer. -/
theorem DeltaT.Ready.step_of_answers {s : DeltaT Addr} (h : s.Ready) (r : Round Addr)
    (hanswers : r.Answers = true) :
    (s.step r).Ready ∧ (s.step r).lines = s.lines ++ r.line?.toList
      ∧ (s.step r).sent = s.sent ++ r.reply?.toList := by
  obtain ⟨⟨hkeys, hsome⟩, hok⟩ : (r.keys = [] ∧ r.arrival.isSome) ∧ r.sendOk = true := by
    simpa [Round.Answers] using hanswers
  obtain ⟨⟨d, a⟩, harrival⟩ := Option.isSome_iff_exists.mp hsome
  obtain ⟨hlines, hgoesOn, -⟩ := h.step_of_arrival r d a hkeys harrival
  obtain ⟨hready, hsent⟩ := hgoesOn hok
  unfold Round.line? Round.reply?
  rw [harrival]
  exact ⟨hready, hlines, hsent⟩

theorem DeltaT.Ready.step_of_stops {s : DeltaT Addr} (h : s.Ready) (r : Round Addr)
    (hstops : ¬ r.Answers = true) :
    (s.step r).Closing
      ∧ (s.step r).lines = s.lines ++ (if r.keys = [] then r.line? else none).toList
      ∧ (s.step r).sent = s.sent := by
  unfold Round.line?
  by_cases hkeys : r.keys = []
  · rw [if_pos hkeys]
    cases harrival : r.arrival with
    | none =>
        obtain ⟨hclosing, hlines, hsent⟩ := h.step_of_end r (Or.inr harrival)
        exact ⟨hclosing, by simpa using hlines, hsent⟩
    | some arrived =>
        -- the line is out already; the reply is not
        have hfails : r.sendOk = false := by simpa [Round.Answers, hkeys, harrival] using hstops
        obtain ⟨hlines, -, hends⟩ := h.step_of_arrival r arrived.1 arrived.2 hkeys harrival
        exact ⟨(hends hfails).1, hlines, (hends hfails).2⟩
  · rw [if_neg hkeys]
    obtain ⟨hclosing, hlines, hsent⟩ := h.step_of_end r (Or.inl hkeys)
    exact ⟨hclosing, by simpa using hlines, hsent⟩

/-- Both lists, by induction on the iterations. -/
theorem DeltaT.Ready.foldl {s : DeltaT Addr} (h : s.Ready) (rs : List (Round Addr)) :
    (rs.foldl DeltaT.step s).lines
        = s.lines ++ (rs.takeWhile Round.Answers).filterMap Round.line? ++ (lastLine rs).toList
      ∧ (rs.foldl DeltaT.step s).sent
          = s.sent ++ (rs.takeWhile Round.Answers).filterMap Round.reply? := by
  induction rs generalizing s with
  | nil => simp [lastLine]
  | cons r rs ih =>
      rw [List.foldl_cons]
      by_cases hanswers : r.Answers = true
      · obtain ⟨hready, hlines, hsent⟩ := h.step_of_answers r hanswers
        obtain ⟨hlines', hsent'⟩ := ih hready
        rw [List.takeWhile_cons_of_pos hanswers, lastLine_of_answers r rs hanswers, hlines', hsent',
          hlines, hsent]
        simp only [List.filterMap_eq_flatMap_toList, List.flatMap_cons, List.append_assoc, and_self]
      · obtain ⟨hclosing, hlines, hsent⟩ := h.step_of_stops r hanswers
        obtain ⟨hlines', hsent'⟩ := hclosing.foldl rs
        rw [List.takeWhile_cons_of_neg hanswers, lastLine_of_stops r rs hanswers, hlines', hsent',
          hlines, hsent]
        simp

/-- `DeltaT_External_Control_UDP` prints one line for each datagram and answers each at
its sender, in order, until a key, a failing `recvfrom` or a failing `sendto`; the
datagram of a failing `sendto` still gets its line, and after it nothing is printed
or sent. Every line depends on its own datagram only, and every reply is the same. -/
theorem DeltaT.run_answers (rs : List (Round Addr)) :
    (DeltaT.run rs).lines
        = (rs.takeWhile Round.Answers).filterMap Round.line? ++ (lastLine rs).toList
      ∧ (DeltaT.run rs).sent = (rs.takeWhile Round.Answers).filterMap Round.reply? := by
  have hready : (DeltaT.initial : DeltaT Addr).Ready := ⟨rfl, rfl, rfl⟩
  exact hready.foldl rs

end Sonar3D.ExternalControl
