/-
Which readings `receive()` examines, and the number the header declares.

`n_beams` is decoded from bytes 70 and 71 and read by nothing but a `printf`
that is commented out, in `Sonar.cpp` as in `talker(v2).cpp`: the loop goes by
the number of bytes received. The trace of the loop is the list of its turns,
each with the byte index `i` and the reading index `j`; the cloud is what these
turns push, and they are the complete readings of the datagram, declared or not.
-/
import Sonar3D.SonarGate

set_option autoImplicit false

namespace Sonar3D.Sonar

/-! ## The trace of the loop -/

/-- The turns of the loop from its head, with the `i` and the `j` of each. -/
def turns (Ret : ℤ) (i j : ℕ) : List (ℕ × ℕ) :=
  if (i : ℤ) < Ret then (i, j) :: turns Ret (i + 2) (j + 1) else []
termination_by (Ret - i).toNat

/-- What a turn pushes. -/
def push? (buf : ReceiveBuf) (h : Header) (turn : ℕ × ℕ) : Option Beam :=
  let corrected_range := correctedRange h (get_value buf turn.1)
  if InGate corrected_range then some ⟨turn.2, corrected_range, bearing h turn.2⟩ else none

/-- The readings one call examines. -/
def examined (d : Delivery) : List (ℕ × ℕ) := turns d.ret 256 0

/-- The loop is its trace: the cloud is what the turns push, in order. -/
theorem receiveLoop_eq_turns (buf : ReceiveBuf) (h : Header) (Ret : ℤ) (i j : ℕ)
    (cloud_pcl : List Beam) :
    receiveLoop buf h Ret i j cloud_pcl
      = cloud_pcl ++ (turns Ret i j).filterMap (push? buf h) := by
  fun_induction receiveLoop buf h Ret i j cloud_pcl with
  | case1 i j cloud_pcl hlt corrected_range hgate ih =>
      have hpushed : push? buf h (i, j) = some ⟨j, corrected_range, bearing h j⟩ :=
        if_pos hgate
      rw [ih, turns.eq_def Ret i j, if_pos hlt, List.filterMap_cons_some hpushed, List.append_assoc]
      rfl
  | case2 i j cloud_pcl hlt corrected_range hgate ih =>
      have hdropped : push? buf h (i, j) = none := if_neg hgate
      rw [ih, turns.eq_def Ret i j, if_pos hlt, List.filterMap_cons_none hdropped]
  | case3 i j cloud_pcl hge =>
      rw [turns.eq_def, if_neg hge, List.filterMap_nil, List.append_nil]

theorem turns_eq (Ret : ℤ) (i j : ℕ) (hi : i = 256 + 2 * j) :
    turns Ret i j
      = (List.range' j (readings Ret - j)).map (fun j => (256 + 2 * j, j)) := by
  fun_induction turns Ret i j with
  | case1 i j hlt ih =>
      rw [ih (by omega), readings_sub_of_lt Ret i j hi hlt, List.range'_succ, List.map_cons, hi]
  | case2 i j hge =>
      rw [Nat.sub_eq_zero_of_le (readings_le_of_ge Ret i j hi hge)]
      rfl

theorem examined_eq (d : Delivery) :
    examined d = (List.range (readings d.ret)).map (fun j => (256 + 2 * j, j)) := by
  unfold examined
  rw [turns_eq _ 256 0 rfl, Nat.sub_zero, List.range_eq_range']

/-! ## Declared, complete, examined -/

/-- How many complete readings a datagram has. -/
def Datagram.complete (d : Datagram) : ℕ := (d.bytes.length - 256) / 2

/-- The first `n` readings, with their places. -/
def firstReadings (n : ℕ) : List (ℕ × ℕ) := (List.range n).map (fun j => (256 + 2 * j, j))

/-- The readings examined are the complete ones among the declared. -/
def ExaminesDeclared (d : Datagram) : Prop :=
  examined (some d) = firstReadings (min (d.word 70) d.complete)

theorem firstReadings_take (m n : ℕ) (h : m ≤ n) :
    (firstReadings n).take m = firstReadings m := by
  unfold firstReadings
  rw [← List.map_take, List.take_range, Nat.min_eq_left h]

/-- A reading the loop examines may be half of one, but all complete ones come
before it. -/
theorem complete_le_readings (d : Datagram) :
    d.complete ≤ readings (Delivery.ret (some d)) := by
  rw [readings_some]
  unfold Datagram.complete
  omega

/-- There is one half of a reading at most. -/
theorem readings_le_complete (d : Datagram) :
    readings (Delivery.ret (some d)) ≤ d.complete + 1 := by
  rw [readings_some]
  unfold Datagram.complete
  omega

theorem readings_eq_complete (d : Datagram) (h : d.bytes.length ≤ 256 ∨ Even d.bytes.length) :
    readings (Delivery.ret (some d)) = d.complete := by
  rw [readings_some]
  unfold Datagram.complete
  rcases h with hshort | ⟨m, hm⟩
  · omega
  · omega

/-- What `receive()` makes points of, whatever the header declares: the complete
readings of the datagram, each once and in order; of a datagram without half a
reading nothing else, and of any other one reading more at most. -/
theorem examines_complete (buf : ReceiveBuf) (d : Datagram) :
    beams buf (some d) = (examined (some d)).filterMap
        (push? (afterRecv buf (some d)) (decodeHeader (afterRecv buf (some d))))
    ∧ (examined (some d)).take d.complete = firstReadings d.complete
    ∧ (∀ j < d.complete, get_value (afterRecv buf (some d)) (256 + 2 * j) = d.word (256 + 2 * j))
    ∧ (d.bytes.length ≤ 256 ∨ Even d.bytes.length →
        examined (some d) = firstReadings d.complete)
    ∧ (examined (some d)).length ≤ d.complete + 1 := by
  have hall : examined (some d) = firstReadings (readings (Delivery.ret (some d))) :=
    examined_eq (some d)
  refine ⟨?_, ?_, ?_, ?_, ?_⟩
  · unfold beams
    rw [receiveLoop_eq_turns, List.nil_append]
    rfl
  · rw [hall, firstReadings_take _ _ (complete_le_readings d)]
  · intro j hj
    apply get_value_afterRecv
    unfold Datagram.complete at hj
    omega
  · intro h
    rw [hall, readings_eq_complete d h]
  · rw [hall]
    unfold firstReadings
    rw [List.length_map, List.length_range]
    exact readings_le_complete d

/-- One beam declared, two readings of 10 metres present. -/
def undeclared : Datagram where
  bytes := ((List.replicate 256 0).set 71 1).set 86 10 ++ [3, 232, 3, 232]
  length_le := by decide +kernel

theorem examines_complete_undeclared :
    Even undeclared.bytes.length ∧ examined (some undeclared) = [(256, 0), (258, 1)] := by
  have heven : Even undeclared.bytes.length := by decide +kernel
  have htwo : undeclared.complete = 2 := by decide +kernel
  refine ⟨heven, ?_⟩
  rw [(examines_complete ReceiveBuf.initial undeclared).2.2.2.1 (Or.inr heven), htwo]
  rfl

/-- Both become points, and the second was not declared. -/
theorem examinesDeclared_fails :
    (¬ ∀ d, ExaminesDeclared d)
      ∧ ∃ b ∈ beams ReceiveBuf.initial (some undeclared), undeclared.word 70 ≤ b.j := by
  refine ⟨?_, ?_⟩
  · intro h
    have hlen := congrArg List.length (h undeclared)
    rw [examined_eq] at hlen
    revert hlen
    decide +kernel
  · have hlt : 1 < readings (Delivery.ret (some undeclared)) := by decide +kernel
    obtain ⟨b, hb, hbj⟩ := (exists_mem_beams ReceiveBuf.initial (some undeclared) 1).mpr
      ⟨hlt, (kept_exact ReceiveBuf.initial undeclared 1 hlt).1.mpr (by decide +kernel)⟩
    refine ⟨b, hb, ?_⟩
    rw [hbj]
    decide +kernel

end Sonar3D.Sonar
