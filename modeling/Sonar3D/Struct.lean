/-
Records of big-endian numbers, as `struct` packs them.

A format is a list of codes, `B` and `b` for a byte, `H` and `h` for two, the small
letters for two's complement. To pack is to write the values one after the other; it
fails on a value that its code has no room for, and on too few or too many values. To
unpack is to read them back; it fails on too few or too many bytes, and on nothing
else. The two are inverse to each other.
-/
import Sonar3D.Words

set_option autoImplicit false

namespace Sonar3D.Struct

open Sonar3D.Words

inductive Code where
  | B
  | b
  | H
  | h
deriving DecidableEq

def Code.size : Code → ℕ
  | .B | .b => 1
  | .H | .h => 2

/-- `struct.calcsize`. -/
def calcsize (cs : List Code) : ℕ := (cs.map Code.size).sum

/-- The code has room for the value. -/
def Code.Fits : Code → ℤ → Prop
  | .B, v => 0 ≤ v ∧ v < 256
  | .b, v => -128 ≤ v ∧ v < 128
  | .H, v => 0 ≤ v ∧ v < 65536
  | .h, v => -32768 ≤ v ∧ v < 32768

instance (c : Code) (v : ℤ) : Decidable (c.Fits v) := by
  cases c <;> exact inferInstanceAs (Decidable (_ ∧ _))

/-- The two's complement number that the low bits of `v` are. -/
def signed (size : ℕ) (v : ℕ) : ℤ := if v < size / 2 then v else (v : ℤ) - size

/-! ## One value -/

def Code.bytes : Code → ℤ → List UInt8
  | .B, v | .b, v => [UInt8.ofInt v]
  | .H, v | .h, v => [UInt8.ofInt (v / 256), UInt8.ofInt v]

/-- The value at the start, and what is left. -/
def Code.read : Code → List UInt8 → Option (ℤ × List UInt8)
  | .B, w :: rest => some (w.toNat, rest)
  | .b, w :: rest => some (signed 256 w.toNat, rest)
  | .H, hi :: lo :: rest => some (bigEndian hi lo, rest)
  | .h, hi :: lo :: rest => some (signed 65536 (bigEndian hi lo), rest)
  | _, _ => none

theorem toNat_ofInt (v : ℤ) : ((UInt8.ofInt v).toNat : ℤ) = v % 256 := by
  unfold UInt8.ofInt
  rw [UInt8.toNat_ofNat']
  omega

/-- The two bytes of a word are its residue. -/
theorem bigEndian_ofInt (v : ℤ) :
    (bigEndian (UInt8.ofInt (v / 256)) (UInt8.ofInt v) : ℤ) = v % 65536 := by
  have hhi := toNat_ofInt (v / 256)
  have hlo := toNat_ofInt v
  rw [bigEndian_eq]
  push_cast
  rw [hhi, hlo]
  omega

/-- The residue of a value, read with its sign, is the value. -/
theorem signed_emod (size : ℕ) (v : ℤ) (n : ℕ) (hn : (n : ℤ) = v % size)
    (hlow : -(size : ℤ) ≤ 2 * v) (hhigh : 2 * v < size) (heven : size % 2 = 0) :
    signed size n = v := by
  unfold signed
  have hmod : v % size = if 0 ≤ v then v else v + size := by
    split
    · exact Int.emod_eq_of_lt ‹_› (by omega)
    · rw [← Int.add_emod_right, Int.emod_eq_of_lt (by omega) (by omega)]
  split at hmod <;> split <;> omega

theorem Code.read_bytes (c : Code) (v : ℤ) (hfits : c.Fits v) (rest : List UInt8) :
    c.read (c.bytes v ++ rest) = some (v, rest) := by
  cases c with
  | B =>
      have hmod := toNat_ofInt v
      have hv : v % 256 = v := Int.emod_eq_of_lt hfits.1 hfits.2
      show some (((UInt8.ofInt v).toNat : ℤ), rest) = _
      rw [hmod, hv]
  | b =>
      show some (signed 256 (UInt8.ofInt v).toNat, rest) = _
      have hlow : -((256 : ℕ) : ℤ) ≤ 2 * v := by have := hfits.1; omega
      have hhigh : 2 * v < ((256 : ℕ) : ℤ) := by have := hfits.2; omega
      rw [signed_emod 256 v _ (toNat_ofInt v) hlow hhigh rfl]
  | H =>
      have hmod := bigEndian_ofInt v
      have hv : v % 65536 = v := Int.emod_eq_of_lt hfits.1 hfits.2
      show some ((bigEndian (UInt8.ofInt (v / 256)) (UInt8.ofInt v) : ℤ), rest) = _
      rw [hmod, hv]
  | h =>
      show some (signed 65536 (bigEndian (UInt8.ofInt (v / 256)) (UInt8.ofInt v)), rest) = _
      have hlow : -((65536 : ℕ) : ℤ) ≤ 2 * v := by have := hfits.1; omega
      have hhigh : 2 * v < ((65536 : ℕ) : ℤ) := by have := hfits.2; omega
      rw [signed_emod 65536 v _ (bigEndian_ofInt v) hlow hhigh rfl]

theorem ofInt_toNat (w : UInt8) (v : ℤ) (h : v % 256 = w.toNat) : UInt8.ofInt v = w := by
  rw [← UInt8.toNat_inj]
  have hmod := toNat_ofInt v
  omega

/-- What is read fits, and was written so. -/
theorem Code.bytes_of_read (c : Code) (bs : List UInt8) (v : ℤ) (rest : List UInt8)
    (hread : c.read bs = some (v, rest)) : c.Fits v ∧ bs = c.bytes v ++ rest := by
  cases c with
  | B =>
      cases bs with
      | nil => exact absurd hread (by simp [Code.read])
      | cons w bs =>
          obtain ⟨rfl, rfl⟩ := Prod.mk.inj (Option.some.inj hread)
          have hlt := w.toNat_lt
          refine ⟨⟨by omega, by omega⟩, ?_⟩
          show w :: bs = UInt8.ofInt _ :: bs
          rw [ofInt_toNat w _ (by omega)]
  | b =>
      cases bs with
      | nil => exact absurd hread (by simp [Code.read])
      | cons w bs =>
          obtain ⟨rfl, rfl⟩ := Prod.mk.inj (Option.some.inj hread)
          have hlt := w.toNat_lt
          have hsigned : signed 256 w.toNat % 256 = w.toNat
              ∧ -128 ≤ signed 256 w.toNat ∧ signed 256 w.toNat < 128 := by
            unfold signed
            split <;> omega
          refine ⟨hsigned.2, ?_⟩
          show w :: bs = UInt8.ofInt _ :: bs
          rw [ofInt_toNat w _ hsigned.1]
  | H =>
      match bs with
      | [] => exact absurd hread (by simp [Code.read])
      | [_] => exact absurd hread (by simp [Code.read])
      | hi :: lo :: bs =>
          obtain ⟨rfl, rfl⟩ := Prod.mk.inj (Option.some.inj hread)
          have hhi := hi.toNat_lt
          have hlo := lo.toNat_lt
          have hword := bigEndian_eq hi lo
          refine ⟨⟨by omega, by omega⟩, ?_⟩
          show hi :: lo :: bs = UInt8.ofInt _ :: UInt8.ofInt _ :: bs
          rw [ofInt_toNat hi _ (by omega), ofInt_toNat lo _ (by omega)]
  | h =>
      match bs with
      | [] => exact absurd hread (by simp [Code.read])
      | [_] => exact absurd hread (by simp [Code.read])
      | hi :: lo :: bs =>
          obtain ⟨rfl, rfl⟩ := Prod.mk.inj (Option.some.inj hread)
          have hhi := hi.toNat_lt
          have hlo := lo.toNat_lt
          have hword := bigEndian_eq hi lo
          have hsigned : signed 65536 (bigEndian hi lo) / 256 % 256 = hi.toNat
              ∧ signed 65536 (bigEndian hi lo) % 256 = lo.toNat
              ∧ -32768 ≤ signed 65536 (bigEndian hi lo)
              ∧ signed 65536 (bigEndian hi lo) < 32768 := by
            unfold signed
            split <;> omega
          refine ⟨hsigned.2.2, ?_⟩
          show hi :: lo :: bs = UInt8.ofInt _ :: UInt8.ofInt _ :: bs
          rw [ofInt_toNat hi _ hsigned.1, ofInt_toNat lo _ hsigned.2.1]

/-- There is a value at the start if there are bytes enough. -/
theorem Code.read_isSome (c : Code) (bs : List UInt8) :
    (c.read bs).isSome ↔ c.size ≤ bs.length := by
  cases c <;> match bs with
    | [] => simp [Code.read, Code.size]
    | [_] => simp [Code.read, Code.size]
    | _ :: _ :: _ => simp [Code.read, Code.size]

/-! ## A record -/

/-- `struct.pack`. -/
def pack : List Code → List ℤ → Option (List UInt8)
  | [], [] => some []
  | c :: cs, v :: vs => if c.Fits v then (pack cs vs).map (c.bytes v ++ ·) else none
  | _, _ => none

/-- `struct.unpack`. -/
def unpack : List Code → List UInt8 → Option (List ℤ)
  | [], [] => some []
  | [], _ :: _ => none
  | c :: cs, bs => (c.read bs).bind (fun (v, rest) => (unpack cs rest).map (v :: ·))

/-- What was packed is unpacked. -/
theorem unpack_pack (cs : List Code) (vs : List ℤ) (bs : List UInt8) (h : pack cs vs = some bs) :
    unpack cs bs = some vs := by
  induction cs generalizing vs bs with
  | nil =>
      cases vs with
      | nil =>
          obtain rfl := Option.some.inj h
          rfl
      | cons v vs => exact absurd h (by simp [pack])
  | cons c cs ih =>
      cases vs with
      | nil => exact absurd h (by simp [pack])
      | cons v vs =>
          rw [pack] at h
          by_cases hfits : c.Fits v
          · rw [if_pos hfits] at h
            obtain ⟨rest, hrest, rfl⟩ := Option.map_eq_some_iff.mp h
            rw [unpack, c.read_bytes v hfits rest, Option.bind_some]
            dsimp only
            rw [ih vs rest hrest]
            rfl
          · rw [if_neg hfits] at h
            exact absurd h (by simp)

/-- What was unpacked packs to the same bytes. -/
theorem pack_unpack (cs : List Code) (vs : List ℤ) (bs : List UInt8)
    (h : unpack cs bs = some vs) : pack cs vs = some bs := by
  induction cs generalizing vs bs with
  | nil =>
      cases bs with
      | nil =>
          obtain rfl := Option.some.inj h
          rfl
      | cons w bs => exact absurd h (by simp [unpack])
  | cons c cs ih =>
      rw [unpack] at h
      obtain ⟨⟨v, rest⟩, hread, hrest⟩ := Option.bind_eq_some_iff.mp h
      obtain ⟨vs', hvs', rfl⟩ := Option.map_eq_some_iff.mp hrest
      obtain ⟨hfits, rfl⟩ := c.bytes_of_read bs v rest hread
      rw [pack, if_pos hfits, ih vs' rest hvs']
      rfl

theorem Code.bytes_length (c : Code) (v : ℤ) : (c.bytes v).length = c.size := by
  cases c <;> rfl

/-- To unpack succeeds exactly on as many bytes as the format takes. -/
theorem unpack_isSome (cs : List Code) (bs : List UInt8) :
    (unpack cs bs).isSome ↔ bs.length = calcsize cs := by
  induction cs generalizing bs with
  | nil => cases bs <;> simp [unpack, calcsize]
  | cons c cs ih =>
      have hsize : calcsize (c :: cs) = c.size + calcsize cs := by simp [calcsize]
      rw [unpack, hsize]
      cases hread : c.read bs with
      | none =>
          have hshort : ¬ c.size ≤ bs.length := by
            rw [← c.read_isSome bs, hread]
            simp
          exact iff_of_false (by simp) (by omega)
      | some vr =>
          obtain ⟨v, rest⟩ := vr
          obtain ⟨-, rfl⟩ := c.bytes_of_read bs v rest hread
          rw [Option.bind_some, Option.isSome_map, ih rest, List.length_append, c.bytes_length]
          omega

/-- As many values as codes. -/
theorem unpack_length (cs : List Code) (bs : List UInt8) (vs : List ℤ)
    (h : unpack cs bs = some vs) : vs.length = cs.length := by
  induction cs generalizing bs vs with
  | nil =>
      cases bs with
      | nil =>
          obtain rfl := Option.some.inj h
          rfl
      | cons w bs => exact absurd h (by simp [unpack])
  | cons c cs ih =>
      rw [unpack] at h
      obtain ⟨⟨v, rest⟩, -, hrest⟩ := Option.bind_eq_some_iff.mp h
      obtain ⟨vs', hvs', rfl⟩ := Option.map_eq_some_iff.mp hrest
      rw [List.length_cons, List.length_cons, ih rest vs' hvs']

end Sonar3D.Struct
