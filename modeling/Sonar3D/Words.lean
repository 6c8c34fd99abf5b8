/-
Bytes, big-endian words and 32-bit wrap-around.

A big-endian word of two bytes is written the way C code reads it,
`hi<<8 | lo`; the lemmas turn that into `256 * hi + lo`. `wrap32` is a signed
32-bit register: the representative of an integer modulo `2^32` in
`[-2^31, 2^31)`. The two facts a range test needs of it are that it is the
identity below `2^31` and negative from there to `2^32`.
-/
import Mathlib.Data.List.Basic
import Mathlib.Tactic.NormNum

set_option autoImplicit false

namespace Sonar3D.Words

/-! ## Big-endian words -/

/-- `hi<<8 | lo`. -/
def bigEndian (hi lo : UInt8) : ℕ := (hi.toNat <<< 8) ||| lo.toNat

theorem shiftLeft_or_eq (a b : ℕ) (hb : b < 256) : (a <<< 8) ||| b = 256 * a + b := by
  have h := Nat.shiftLeft_add_eq_or_of_lt (i := 8) (b := b) (by simpa using hb) a
  rw [← h, Nat.shiftLeft_eq]
  omega

theorem bigEndian_eq (hi lo : UInt8) : bigEndian hi lo = 256 * hi.toNat + lo.toNat :=
  shiftLeft_or_eq hi.toNat lo.toNat lo.toNat_lt

theorem and_low_seven (w : UInt8) : (w &&& 0x7F).toNat = w.toNat % 128 := by
  rw [UInt8.toNat_and]
  exact Nat.and_two_pow_sub_one_eq_mod w.toNat 7

/-! ## Writing words -/

/-- The two bytes of a word, high one first. -/
def putWord (v : UInt16) : List UInt8 := [UInt8.ofNat (v.toNat / 256), UInt8.ofNat v.toNat]

theorem bigEndian_putWord (n : ℕ) (h : n < 65536) :
    bigEndian (UInt8.ofNat (n / 256)) (UInt8.ofNat n) = n := by
  rw [bigEndian_eq, UInt8.toNat_ofNat', UInt8.toNat_ofNat']
  omega

theorem putWord_length (v : UInt16) : (putWord v).length = 2 := rfl

theorem putWords_length (vs : List UInt16) :
    (vs.flatMap putWord).length = 2 * vs.length := by
  induction vs with
  | nil => rfl
  | cons v vs ih =>
      rw [List.flatMap_cons, List.length_append, ih, putWord_length, List.length_cons]
      omega

/-- The bytes of word `j` of a list are at `2j` and `2j + 1`. -/
theorem putWords_getElem? (vs : List UInt16) (j : ℕ) (hj : j < vs.length) :
    (vs.flatMap putWord)[2 * j]? = some (UInt8.ofNat (vs[j].toNat / 256))
      ∧ (vs.flatMap putWord)[2 * j + 1]? = some (UInt8.ofNat vs[j].toNat) := by
  induction vs generalizing j with
  | nil => simp at hj
  | cons v vs ih =>
      rw [List.flatMap_cons]
      cases j with
      | zero => exact ⟨rfl, rfl⟩
      | succ j =>
          obtain ⟨hhi, hlo⟩ := ih j (by simpa using hj)
          have htwo : 2 * (j + 1) = 2 * j + 2 := by omega
          rw [htwo]
          exact ⟨hhi, hlo⟩

/-! ## Wrapping at 32 bits -/

/-- A signed 32-bit register holding `x`. -/
def wrap32 (x : ℤ) : ℤ := x.bmod (2 ^ 32)

theorem wrap32_of_lt (x : ℤ) (hx : 0 ≤ x) (hlt : x < 2 ^ 31) : wrap32 x = x := by
  unfold wrap32
  rw [Int.bmod_eq_emod_of_lt] <;> omega

/-- An overflow by less than half the range shows as a negative value. -/
theorem wrap32_neg (x : ℤ) (hge : 2 ^ 31 ≤ x) (hlt : x < 2 ^ 32) : wrap32 x < 0 := by
  unfold wrap32
  rw [Int.bmod_neg] <;> omega

end Sonar3D.Words
