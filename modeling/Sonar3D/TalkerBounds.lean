/-
The indices `talker(v2).cpp` uses, over a whole scan.

Within one call of `receive()` every index follows the length of the datagram,
which fits: a reading is read below 65536 and stored in a column below that. The
row is `num_scans`, and that grows with every turn of `while(scan)`, a loop that
tests the address of a function it means to call. So a scan stays inside its
arrays as long as no datagram with readings arrives in turn 1000 or later -- the
count being an `int`, until it has come round.
-/
import Sonar3D.Talker

set_option autoImplicit false

namespace Sonar3D.Talker

open Sonar3D.Runs Sonar3D.Sonar Sonar3D.Words

/-- Inside `unsigned char ReceiveBuf[65536]`, or inside
`float pontosXX [1000][65536]` and its siblings. -/
def Access.InBounds : Access → Prop
  | .ReceiveBuf i => i < 65536
  | .pontosXX row col => 0 ≤ row ∧ row < 1000 ∧ col < 65536
  | .pontosYY row col => 0 ≤ row ∧ row < 1000 ∧ col < 65536
  | .pontosZZ row col => 0 ≤ row ∧ row < 1000 ∧ col < 65536

/-- No index of a scan leaves its array. -/
def InBounds (g : Globals) (ts : List Turn) : Prop :=
  ∀ a ∈ (scanLoop g ts).accesses, a.InBounds

/-! ## One call -/

theorem receive_accesses (g : Globals) (d : Delivery) (x y z : ℝ) :
    (receive g d x y z).accesses
      = (List.range (readings d.ret)).flatMap (accessesOf g.num_scans) :=
  (scanned_receive g d x y z).accesses_eq

/-- A delivery with readings is a datagram, and they all fit the buffer. -/
theorem reading_fits (d : Delivery) (j : ℕ) (hj : j < readings d.ret) :
    256 + 2 * j + 1 < 65536 := by
  cases d with
  | none => exact absurd hj (by unfold readings Delivery.ret; norm_num)
  | some d => exact reading_index_lt d j hj

theorem accessesOf_inBounds_iff (row : ℤ) (j : ℕ) (hj : 256 + 2 * j + 1 < 65536) :
    (∀ a ∈ accessesOf row j, a.InBounds) ↔ 0 ≤ row ∧ row < 1000 := by
  unfold accessesOf
  simp only [List.forall_mem_cons, Access.InBounds]
  constructor
  · rintro ⟨-, -, ⟨hge, hlt, -⟩, -⟩
    exact ⟨hge, hlt⟩
  · rintro ⟨hge, hlt⟩
    refine ⟨by omega, hj, ⟨hge, hlt, by omega⟩, ⟨hge, hlt, by omega⟩, ⟨hge, hlt, by omega⟩, ?_⟩
    simp

theorem readings_pos_iff (Ret : ℤ) : 0 < readings Ret ↔ 256 < Ret := by
  unfold readings
  omega

/-- One call stays inside if the row does, or if it stores nothing. -/
theorem receive_inBounds_iff (g : Globals) (d : Delivery) (x y z : ℝ) :
    (∀ a ∈ (receive g d x y z).accesses, a.InBounds)
      ↔ (256 < d.ret → 0 ≤ g.num_scans ∧ g.num_scans < 1000) := by
  rw [receive_accesses, ← readings_pos_iff]
  constructor
  · intro h hpos
    rw [← accessesOf_inBounds_iff g.num_scans 0 (by norm_num)]
    intro a ha
    exact h a (List.mem_flatMap.mpr ⟨0, List.mem_range.mpr hpos, ha⟩)
  · intro h a ha
    obtain ⟨j, hj, haj⟩ := List.mem_flatMap.mp ha
    have hlt := List.mem_range.mp hj
    exact (accessesOf_inBounds_iff g.num_scans j (reading_fits d j hlt)).mpr
      (h (Nat.zero_lt_of_lt hlt)) a haj

/-! ## The scan -/

theorem wrap32_succ (k : ℕ) : wrap32 (wrap32 k + 1) = wrap32 ((k + 1 : ℕ) : ℤ) := by
  unfold wrap32
  rw [Int.bmod_add_bmod]
  rfl

/-- A count that wraps at 32 bits is a row of the arrays for the first thousand
of every `2^32` turns. -/
theorem wrap32_row_iff (k : ℕ) : (0 ≤ wrap32 k ∧ wrap32 k < 1000) ↔ k % 2 ^ 32 < 1000 := by
  unfold wrap32
  rw [Int.bmod_def]
  split <;> omega

/-- In turn `k` the row is `k`, wrapped. -/
theorem num_scans_stateAt (g : Globals) (ts : List Turn) (k : ℕ) (hk : k ≤ ts.length) :
    (stateAt Scan.step (Scan.start g) ts k).globals.num_scans = wrap32 k := by
  induction k with
  | zero =>
      rw [stateAt_zero]
      rfl
  | succ k ih =>
      rw [stateAt_succ _ _ _ _ hk]
      show wrap32 ((stateAt Scan.step (Scan.start g) ts k).globals.num_scans + 1) = _
      rw [ih (by omega), wrap32_succ]

theorem accesses_stateAt_succ (g : Globals) (ts : List Turn) (k : ℕ) (hk : k < ts.length) :
    (stateAt Scan.step (Scan.start g) ts (k + 1)).accesses
      = (stateAt Scan.step (Scan.start g) ts k).accesses
        ++ (receive (stateAt Scan.step (Scan.start g) ts k).globals ts[k].delivery
            ts[k].x ts[k].y ts[k].z).accesses := by
  rw [stateAt_succ _ _ _ _ hk]
  rfl

/-- The first `n` turns stay inside if every one of them does. -/
theorem stateAt_inBounds_iff (g : Globals) (ts : List Turn) (n : ℕ) (hn : n ≤ ts.length) :
    (∀ a ∈ (stateAt Scan.step (Scan.start g) ts n).accesses, a.InBounds)
      ↔ ∀ k (hk : k < n), 256 < ts[k].delivery.ret → k % 2 ^ 32 < 1000 := by
  induction n with
  | zero =>
      rw [stateAt_zero]
      simp [Scan.start]
  | succ n ih =>
      rw [accesses_stateAt_succ g ts n hn, List.forall_mem_append, ih (by omega),
        receive_inBounds_iff, num_scans_stateAt g ts n (by omega), wrap32_row_iff]
      constructor
      · rintro ⟨hbefore, hturn⟩ k hk
        rcases Nat.lt_succ_iff_lt_or_eq.mp hk with hlt | rfl
        · exact hbefore k hlt
        · exact hturn
      · intro h
        exact ⟨fun k hk => h k (by omega), h n (Nat.lt_succ_self n)⟩

/-- A scan of any number of turns stays inside its arrays if and only if every
datagram with readings arrives in one of the first thousand turns, counted
modulo `2^32`. -/
theorem inBounds_iff (g : Globals) (ts : List Turn) :
    InBounds g ts
      ↔ ∀ k (hk : k < ts.length), 256 < ts[k].delivery.ret → k % 2 ^ 32 < 1000 := by
  unfold InBounds scanLoop
  rw [← stateAt_of_length_le Scan.step (Scan.start g) ts ts.length (Nat.le_refl _)]
  exact stateAt_inBounds_iff g ts ts.length (Nat.le_refl _)

/-- 1001 turns with a reading each. -/
def longScan : List Turn := List.replicate 1001 ⟨some tenMetres, 0, 0, 0⟩

/-- The last of them stores behind the arrays. -/
theorem inBounds_fails : ¬ ∀ g ts, InBounds g ts := by
  intro h
  have hlen : longScan.length = 1001 := List.length_replicate
  have hlong := h Globals.initial longScan
  unfold InBounds scanLoop at hlong
  rw [← stateAt_of_length_le Scan.step _ longScan longScan.length (Nat.le_refl _),
    stateAt_inBounds_iff _ _ _ (Nat.le_refl _)] at hlong
  have hlast := hlong 1000 (by omega)
  unfold longScan at hlast
  rw [List.getElem_replicate] at hlast
  have hreading : 256 < Delivery.ret (some tenMetres) := by decide +kernel
  exact absurd (hlast hreading) (by norm_num)

end Sonar3D.Talker
