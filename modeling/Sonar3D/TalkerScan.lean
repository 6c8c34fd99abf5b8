/-
The scan `talker(v2).cpp` stores, against the cloud it publishes.

The cloud gets a point inside the block of the gate, the arrays get one behind
it, from the same `x` and `y`. A rejected reading therefore stores what the last
kept one left there, and before the first kept one it stores what was on the
stack. So the two outputs agree only as long as nothing is rejected behind a kept
reading, and what is rejected in front finds zeros.
-/
import Sonar3D.Talker

set_option autoImplicit false

namespace Sonar3D.Talker

open Sonar3D.Hold Sonar3D.PlanarRotation Sonar3D.Sonar

/-! ## What agrees with what -/

/-- A row as the start of a scan is meant to leave it. -/
def RowZeroed (g : Globals) : Prop :=
  ∀ j < 65536, g.pontosXX g.num_scans j = 0 ∧ g.pontosYY g.num_scans j = 0
    ∧ g.pontosZZ g.num_scans j = 0

/-- Coordinates are real numbers, so this is not for running. -/
noncomputable instance : DecidableEq PointXYZ := Classical.decEq _

/-- The non-zero points of a row, in order. -/
noncomputable def Frame.nonzero (s : Frame) (row : ℤ) : PointCloud :=
  ((List.range 65536).map (s.stored row)).filter (fun p => p ≠ PointXYZ.origin)

/-- After `receive()` the row holds the `x` and `y` of the kept readings, zero
for the rejected ones, and no other non-zero points than the cloud. -/
structure StoredAgrees (g : Globals) (d : Datagram) (x y z : ℝ) : Prop where
  kept : ∀ b ∈ beams g.ReceiveBuf (some d),
    ((receive g (some d) x y z).pontosXX g.num_scans b.j,
      (receive g (some d) x y z).pontosYY g.num_scans b.j) = polar b
  rejected : ∀ j < readings (Delivery.ret (some d)), ¬ d.Kept g.ReceiveBuf j →
    (receive g (some d) x y z).stored g.num_scans j = PointXYZ.origin
  nonzero : (receive g (some d) x y z).nonzero g.num_scans
    = (receive g (some d) x y z).cloud_pcl

/-- Every reading behind a kept one is kept, and if any is rejected the three
locals start at zero. -/
structure RejectedFirst (g : Globals) (d : Datagram) (x y z : ℝ) : Prop where
  upward : ∀ i j, i < j → j < readings (Delivery.ret (some d)) →
    d.Kept g.ReceiveBuf i → d.Kept g.ReceiveBuf j
  zero : (∃ j < readings (Delivery.ret (some d)), ¬ d.Kept g.ReceiveBuf j) →
    x = 0 ∧ y = 0 ∧ z = 0

/-! ## The registers `x` and `y` -/

/-- A range in the gate is not at the origin. -/
theorem polar_ne_zero (b : Beam) (hgate : InGate b.corrected_range) : polar b ≠ (0, 0) := by
  intro hzero
  have hx := congrArg Prod.fst hzero
  have hy := congrArg Prod.snd hzero
  have hreal : (b.corrected_range : ℝ) = 0 := by
    apply radius_eq _ _ _ _ (Real.cos_sq_add_sin_sq ((Sonar.pi / 180 * b.bearing : ℚ) : ℝ))
    · rw [zero_mul]
      exact hx
    · rw [zero_mul]
      exact hy
  have hrat : b.corrected_range = 0 := by exact_mod_cast hreal
  have hmin := hgate.1
  rw [hrat] at hmin
  norm_num at hmin

theorem polar?_ne_zero (buf : ReceiveBuf) (h : Header) (j : ℕ) (p : ℝ × ℝ)
    (hp : polar? buf h j = some p) : p ≠ (0, 0) := by
  unfold polar? at hp
  obtain ⟨b, hb, rfl⟩ := Option.map_eq_some_iff.mp hp
  obtain ⟨hgate, rfl⟩ := (beam?_eq_some_iff _ _ _ _).mp hb
  exact polar_ne_zero _ hgate

/-- Once a reading has been kept, `x` and `y` are those of a kept one. -/
theorem xyAfter_ne_zero (buf : ReceiveBuf) (h : Header) (xy : ℝ × ℝ) (n i : ℕ) (hi : i < n)
    (hkept : polar? buf h i ≠ none) : xyAfter buf h xy n ≠ (0, 0) := by
  rcases held_eq_or_exists (polar? buf h) xy (List.range n) with hnone | ⟨k, -, hk⟩
  · exact absurd (hnone i (List.mem_range.mpr hi)) hkept
  · exact polar?_ne_zero buf h k _ hk

theorem xyAfter_of_none (buf : ReceiveBuf) (h : Header) (xy : ℝ × ℝ) (n : ℕ)
    (hnone : ∀ i < n, polar? buf h i = none) : xyAfter buf h xy n = xy :=
  held_of_none _ _ _ (fun i hi => hnone i (List.mem_range.mp hi))

/-- Of a datagram, `x` and `y` are written by the readings in the gate. -/
theorem polar?_eq_none_iff (buf : ReceiveBuf) (d : Datagram) (j : ℕ)
    (hj : j < readings (Delivery.ret (some d))) :
    polar? (afterRecv buf (some d)) (decodeHeader (afterRecv buf (some d))) j = none
      ↔ ¬ d.Kept buf j := by
  rw [← (kept_exact buf d j hj).1]
  unfold polar? beam?
  rw [Option.map_eq_none_iff]
  simp

theorem polar?_of_mem_beams (buf : ReceiveBuf) (d : Datagram) (b : Beam)
    (hb : b ∈ beams buf (some d)) :
    polar? (afterRecv buf (some d)) (decodeHeader (afterRecv buf (some d))) b.j
      = some (polar b) := by
  unfold polar?
  rw [((mem_beams buf (some d) b).mp hb).2, Option.map_some]

/-! ## The row -/

/-- A map over `m` places, filtered, is what the first `n` contribute if the
others contribute nothing. -/
theorem filter_map_range {β : Type*} (p : β → Prop) [DecidablePred p] (f : ℕ → β)
    (f? : ℕ → Option β) (n m : ℕ) (hnm : n ≤ m)
    (hlt : ∀ j < n, f? j = if p (f j) then some (f j) else none)
    (hge : ∀ j, n ≤ j → j < m → ¬ p (f j)) :
    ((List.range m).map f).filter (fun b => p b) = (List.range n).filterMap f? := by
  induction m, hnm using Nat.le_induction with
  | base =>
      rw [← List.filterMap_eq_filter, List.filterMap_map]
      apply List.filterMap_congr
      intro j hj
      rw [hlt j (List.mem_range.mp hj)]
      simp [Option.guard]
  | succ m hnm ih =>
      have hlast : ¬ p (f m) := hge m hnm (Nat.lt_succ_self m)
      rw [List.range_succ, List.map_append, List.filter_append,
        ih (fun j hnj hjm => hge j hnj (by omega)), List.map_singleton,
        List.filter_cons_of_neg (by simpa using hlast), List.filter_nil, List.append_nil]

theorem readings_le (d : Datagram) : readings (Delivery.ret (some d)) ≤ 65536 := by
  have hlen := d.length_le
  rw [readings_some]
  omega

/-- Behind the readings of the datagram the row is as it was. -/
theorem stored_behind (g : Globals) (d : Datagram) (x y z : ℝ) (hzero : RowZeroed g) (j : ℕ)
    (hj : readings (Delivery.ret (some d)) ≤ j) (hlt : j < 65536) :
    (receive g (some d) x y z).stored g.num_scans j = PointXYZ.origin := by
  obtain ⟨hx, hy, hz⟩ := hzero j hlt
  rw [(scanned_receive g (some d) x y z).stored_ge j hj]
  ext
  · exact hx
  · exact hy
  · exact hz

/-- Behind a kept reading nothing that is stored is zero. -/
theorem stored_ne_origin (g : Globals) (d : Datagram) (x y z : ℝ) (i j : ℕ) (hij : i ≤ j)
    (hj : j < readings (Delivery.ret (some d))) (hkept : d.Kept g.ReceiveBuf i) :
    (receive g (some d) x y z).stored g.num_scans j ≠ PointXYZ.origin := by
  intro horigin
  rw [(scanned_receive g (some d) x y z).stored_lt j hj] at horigin
  have hsome := fun hn => ((polar?_eq_none_iff g.ReceiveBuf d i (by omega)).mp hn) hkept
  apply xyAfter_ne_zero _ _ (x, y) (j + 1) i (by omega) hsome
  exact Prod.ext (congrArg PointXYZ.x horigin) (congrArg PointXYZ.y horigin)

/-- As long as nothing has been kept the stack is stored. -/
theorem stored_of_none_kept (g : Globals) (d : Datagram) (x y z : ℝ) (j : ℕ)
    (hj : j < readings (Delivery.ret (some d))) (hnone : ∀ i ≤ j, ¬ d.Kept g.ReceiveBuf i) :
    (receive g (some d) x y z).stored g.num_scans j = ⟨x, y, z⟩ := by
  rw [(scanned_receive g (some d) x y z).stored_lt j hj, xyAfter_of_none]
  intro i hi
  exact (polar?_eq_none_iff g.ReceiveBuf d i (by omega)).mpr (hnone i (by omega))

/-- A kept reading is stored. -/
theorem stored_of_some (g : Globals) (d : Datagram) (x y z : ℝ) (j : ℕ)
    (hj : j < readings (Delivery.ret (some d))) (p : ℝ × ℝ)
    (hp : polar? (afterRecv g.ReceiveBuf (some d))
      (decodeHeader (afterRecv g.ReceiveBuf (some d))) j = some p) :
    (receive g (some d) x y z).stored g.num_scans j = ⟨p.1, p.2, z⟩ := by
  rw [(scanned_receive g (some d) x y z).stored_lt j hj, xyAfter_succ, hp]
  rfl

/-- The row holds the `x` and `y` of every kept reading, whatever is rejected. -/
theorem stored_of_mem_beams (g : Globals) (d : Datagram) (x y z : ℝ) (b : Beam)
    (hb : b ∈ beams g.ReceiveBuf (some d)) :
    ((receive g (some d) x y z).pontosXX g.num_scans b.j,
      (receive g (some d) x y z).pontosYY g.num_scans b.j) = polar b := by
  have hj := ((mem_beams g.ReceiveBuf (some d) b).mp hb).1
  have hpoint := stored_of_some g d x y z b.j hj _ (polar?_of_mem_beams g.ReceiveBuf d b hb)
  exact Prod.ext (congrArg PointXYZ.x hpoint) (congrArg PointXYZ.y hpoint)

/-- With zero stored for the rejected readings, a reading is pushed exactly if what
is stored for it is not zero. -/
theorem nonzero_of_rejected (g : Globals) (d : Datagram) (x y z : ℝ) (hzero : RowZeroed g)
    (hrejected : ∀ j < readings (Delivery.ret (some d)), ¬ d.Kept g.ReceiveBuf j →
      (receive g (some d) x y z).stored g.num_scans j = PointXYZ.origin) :
    (receive g (some d) x y z).nonzero g.num_scans = (receive g (some d) x y z).cloud_pcl := by
  rw [(scanned_receive g (some d) x y z).cloud_eq]
  unfold Frame.nonzero
  apply filter_map_range
  · exact readings_le d
  · intro j hj
    cases hp : polar? (afterRecv g.ReceiveBuf (some d))
        (decodeHeader (afterRecv g.ReceiveBuf (some d))) j with
    | none =>
        rw [hrejected j hj ((polar?_eq_none_iff g.ReceiveBuf d j hj).mp hp)]
        simp
    | some p =>
        have hne : (⟨p.1, p.2, z⟩ : PointXYZ) ≠ PointXYZ.origin := by
          intro horigin
          apply polar?_ne_zero _ _ j p hp
          exact Prod.ext (congrArg PointXYZ.x horigin) (congrArg PointXYZ.y horigin)
        rw [stored_of_some g d x y z j hj p hp, if_pos hne, Option.map_some]
  · intro j hj hlt
    rw [stored_behind g d x y z hzero j hj hlt]
    simp

/-! ## The law -/

/-- Where the readings behind a kept one are kept, nothing has been kept up to a
rejected one. -/
theorem none_kept_of_rejected (g : Globals) (d : Datagram) (j : ℕ)
    (hj : j < readings (Delivery.ret (some d))) (hrejected : ¬ d.Kept g.ReceiveBuf j)
    (hupward : ∀ i j, i < j → j < readings (Delivery.ret (some d)) →
      d.Kept g.ReceiveBuf i → d.Kept g.ReceiveBuf j) :
    ∀ i ≤ j, ¬ d.Kept g.ReceiveBuf i := by
  intro i hi hkept
  rcases Nat.lt_or_eq_of_le hi with hlt | rfl
  · exact hrejected (hupward i j hlt hj hkept)
  · exact hrejected hkept

/-- The scan `receive()` stores in a zeroed row agrees with the cloud it returns
if and only if the rejected readings come first and find zeros. -/
theorem storedAgrees_iff (g : Globals) (d : Datagram) (x y z : ℝ) (hzero : RowZeroed g) :
    StoredAgrees g d x y z ↔ RejectedFirst g d x y z := by
  constructor
  · intro h
    have hupward : ∀ i j, i < j → j < readings (Delivery.ret (some d)) →
        d.Kept g.ReceiveBuf i → d.Kept g.ReceiveBuf j := by
      intro i j hij hj hkept
      by_contra hrejected
      exact stored_ne_origin g d x y z i j (by omega) hj hkept (h.rejected j hj hrejected)
    refine ⟨hupward, ?_⟩
    rintro ⟨j, hj, hrejected⟩
    -- the stack is stored for it, and has to be zero
    have horigin := h.rejected j hj hrejected
    rw [stored_of_none_kept g d x y z j hj
      (none_kept_of_rejected g d j hj hrejected hupward)] at horigin
    exact ⟨congrArg PointXYZ.x horigin, congrArg PointXYZ.y horigin, congrArg PointXYZ.z horigin⟩
  · intro h
    have hrejected : ∀ j < readings (Delivery.ret (some d)), ¬ d.Kept g.ReceiveBuf j →
        (receive g (some d) x y z).stored g.num_scans j = PointXYZ.origin := by
      intro j hj hrej
      obtain ⟨hx, hy, hz⟩ := h.zero ⟨j, hj, hrej⟩
      rw [stored_of_none_kept g d x y z j hj (none_kept_of_rejected g d j hj hrej h.upward),
        hx, hy, hz]
      rfl
    exact ⟨stored_of_mem_beams g d x y z, hrejected,
      nonzero_of_rejected g d x y z hzero hrejected⟩

theorem rowZeroed_initial : RowZeroed Globals.initial := fun _ _ => ⟨rfl, rfl, rfl⟩

theorem storedAgrees_iff_tenMetres :
    RowZeroed Globals.initial ∧ StoredAgrees Globals.initial tenMetres 1 2 3 := by
  have hkept : ∀ j < readings (Delivery.ret (some tenMetres)),
      j = 0 ∧ tenMetres.Kept ReceiveBuf.initial 0 := by
    decide +kernel
  refine ⟨rowZeroed_initial, (storedAgrees_iff _ _ _ _ _ rowZeroed_initial).mpr ⟨?_, ?_⟩⟩
  · intro i j hij hj
    have hzero := (hkept j hj).1
    omega
  · rintro ⟨j, hj, hrejected⟩
    obtain ⟨rfl, hin⟩ := hkept j hj
    exact absurd hin hrejected

/-- A reading of 10 metres, and behind it one of no range. -/
def thenRejected : Datagram where
  bytes := (List.replicate 256 0).set 86 10 ++ [3, 232, 0, 0]
  length_le := by decide +kernel

/-- The second reading is stored as the point of the first. -/
theorem storedAgrees_fails :
    ¬ ∀ g d x y z, RowZeroed g → StoredAgrees g d x y z := by
  intro h
  have hagrees := h Globals.initial thenRejected 0 0 0 rowZeroed_initial
  apply stored_ne_origin Globals.initial thenRejected 0 0 0 0 1 (by omega) (by decide +kernel)
  · decide +kernel
  · exact hagrees.rejected 1 (by decide +kernel) (by decide +kernel)

end Sonar3D.Talker
