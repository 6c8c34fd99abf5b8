/-
What `system3D` makes of its keys.

`if (c = 's')` assigns, and its value is `s`, so every key starts a scan; and since
`c` then holds `s`, the test `c != 'c'` of the loop never sees a key at all. The
one value of `c` it does see is the one the stack held before the first turn. So the
keys are obeyed exactly when there is nothing to tell them apart: when `c` does not
happen to start as `c` and every key is `s`.
-/
import Sonar3D.System3D

set_option autoImplicit false

namespace Sonar3D.System3D

/-! ## Obeying the keys -/

/-- The keys that are to be read: up to the first `c`. -/
def keysServed : List Char → List Char
  | [] => []
  | key :: keys => if key = 'c' then [key] else key :: keysServed keys

/-- `main` takes a turn for each key up to the first `c`, moves the servo in turns
of `s` only, and leaves its loop at the first `c`. -/
structure ObeysKeys (keys : List Char) (o : Outcome) : Prop where
  keys_eq : o.turns.map Turn.key = keysServed keys
  moves : ∀ t ∈ o.turns, t.moves ≠ [] → t.key = 's'
  left_iff : o.phase = .left ↔ 'c' ∈ keys

theorem keysServed_of_not_mem (keys : List Char) (h : 'c' ∉ keys) : keysServed keys = keys := by
  induction keys with
  | nil => rfl
  | cons key keys ih =>
      have hne : key ≠ 'c' := fun heq => h (heq ▸ List.mem_cons_self)
      unfold keysServed
      rw [if_neg hne, ih (fun hmem => h (List.mem_cons_of_mem key hmem))]

theorem keysServed_eq_nil_iff (keys : List Char) : keysServed keys = [] ↔ keys = [] := by
  cases keys with
  | nil => exact Iff.rfl
  | cons key keys =>
      unfold keysServed
      split <;> simp

/-! ## The turns of `main` -/

/-- A scan begins with a command, and sends none later. -/
theorem beginScan_moves_ne_nil (s : State) : (beginScan s).moves ≠ [] := by
  unfold beginScan Scan.moveMotor
  simp

theorem scanLoop_moves (n : Scan) (spins : List (List Callback)) :
    (scanLoop n spins).1.moves = n.moves := by
  induction spins generalizing n with
  | nil => rfl
  | cons queued spins ih =>
      unfold scanLoop
      split
      · exact ih (n.iterate queued)
      · rfl

/-- A turn for `key`, whatever it is: a scan, and if that goes on nothing else. -/
theorem mainLoop_of_scanning (c : Char) (s : State) (key : Char) (keys : List Char)
    (spins : List (List Callback)) (hc : c ≠ 'c') (n : Scan)
    (hscan : scanLoop (beginScan s) spins = (n, none)) :
    mainLoop c s (key :: keys) spins
      = ⟨[⟨key, n.moves, n.published⟩], .scanning, n.globals⟩ := by
  rw [mainLoop, if_pos hc, hscan]
  rfl

/-- When the scan has finished the loop goes on, with `s` in `c`. -/
theorem mainLoop_of_finished (c : Char) (s : State) (key : Char) (keys : List Char)
    (spins : List (List Callback)) (hc : c ≠ 'c') (n : Scan) (left : List (List Callback))
    (hscan : scanLoop (beginScan s) spins = (n, some left)) :
    mainLoop c s (key :: keys) spins
      = { mainLoop 's' n.globals keys left with
          turns := ⟨key, n.moves, n.published⟩ :: (mainLoop 's' n.globals keys left).turns } := by
  rw [mainLoop, if_pos hc, hscan]
  rfl

theorem mainLoop_left (s : State) (keys : List Char) (spins : List (List Callback)) :
    mainLoop 'c' s keys spins = ⟨[], .left, s⟩ := by
  cases keys <;> rfl

/-- Every key gets a turn, every turn moves the servo, and `main` never leaves. The
induction is on the keys. -/
theorem mainLoop_turns (c : Char) (s : State) (keys : List Char) (spins : List (List Callback))
    (hc : c ≠ 'c') (hfinish : (mainLoop c s keys spins).phase ≠ .scanning) :
    (mainLoop c s keys spins).turns.map Turn.key = keys
      ∧ (∀ t ∈ (mainLoop c s keys spins).turns, t.moves ≠ [])
      ∧ (mainLoop c s keys spins).phase = .prompt := by
  induction keys generalizing c s spins with
  | nil =>
      refine ⟨rfl, ?_, if_pos hc⟩
      simp [mainLoop]
  | cons key keys ih =>
      have hmoves : (scanLoop (beginScan s) spins).1.moves ≠ [] := by
        rw [scanLoop_moves]
        exact beginScan_moves_ne_nil s
      rcases hscan : scanLoop (beginScan s) spins with ⟨n, _ | left⟩
      · -- the scan goes on
        rw [mainLoop_of_scanning c s key keys spins hc n hscan] at hfinish
        exact absurd rfl hfinish
      · rw [hscan] at hmoves
        rw [mainLoop_of_finished c s key keys spins hc n left hscan] at hfinish ⊢
        obtain ⟨hkeys, hall, hphase⟩ := ih 's' n.globals left (by decide) hfinish
        refine ⟨?_, ?_, hphase⟩
        · show key :: (mainLoop 's' n.globals keys left).turns.map Turn.key = key :: keys
          rw [hkeys]
        · exact List.forall_mem_cons.mpr ⟨hmoves, hall⟩

/-! ## The law -/

/-- With every scan that is started finishing, `main` obeys its keys if and only if
`c` does not start as `c` and every key is `s`. -/
theorem obeysKeys_iff (c : Char) (s : State) (keys : List Char) (spins : List (List Callback))
    (hfinish : (mainLoop c s keys spins).phase ≠ .scanning) :
    ObeysKeys keys (mainLoop c s keys spins) ↔ c ≠ 'c' ∧ ∀ key ∈ keys, key = 's' := by
  by_cases hc : c = 'c'
  · -- `main` has left before the first key
    subst hc
    rw [mainLoop_left]
    refine iff_of_false ?_ (fun h => h.1 rfl)
    intro h
    have hnil : keys = [] := (keysServed_eq_nil_iff keys).mp h.keys_eq.symm
    have hmem := h.left_iff.mp rfl
    simp [hnil] at hmem
  · obtain ⟨hkeys, hall, hphase⟩ := mainLoop_turns c s keys spins hc hfinish
    constructor
    · intro h
      refine ⟨hc, ?_⟩
      intro key hkey
      rw [← hkeys] at hkey
      obtain ⟨t, ht, rfl⟩ := List.mem_map.mp hkey
      exact h.moves t ht (hall t ht)
    · rintro ⟨-, hs⟩
      have hnone : 'c' ∉ keys := fun hmem => absurd (hs _ hmem) (by decide)
      refine ⟨?_, ?_, ?_⟩
      · rw [hkeys, keysServed_of_not_mem keys hnone]
      · intro t ht _
        apply hs
        rw [← hkeys]
        exact List.mem_map_of_mem ht
      · rw [hphase]
        exact iff_of_false (by decide) hnone

/-- A report of the goal, to the last digit. -/
noncomputable def goalReport : List Callback := [.servo ⟨goal, goal, 0, false⟩]

/-- One spin with such a report finishes a scan. -/
theorem mainLoop_goalReport (c key : Char) (hc : c ≠ 'c') :
    (mainLoop c State.initial [key] [goalReport]).phase = .prompt
      ∧ (mainLoop c State.initial [key] [goalReport]).turns.map Turn.key = [key] := by
  have hstart : Scanning (beginScan State.initial).globals := by
    unfold Scanning beginScan Scan.moveMotor State.initial goal
    norm_num
  have hend : ¬ Scanning ((beginScan State.initial).iterate goalReport).globals :=
    not_not.mpr rfl
  have hscan : scanLoop (beginScan State.initial) [goalReport]
      = ((beginScan State.initial).iterate goalReport, some []) := by
    rw [scanLoop, if_pos hstart, scanLoop, if_neg hend]
  rw [mainLoop_of_finished _ _ _ _ _ hc _ _ hscan]
  exact ⟨rfl, rfl⟩

theorem obeysKeys_iff_oneScan :
    (mainLoop 'x' State.initial ['s'] [goalReport]).phase ≠ .scanning
      ∧ ObeysKeys ['s'] (mainLoop 'x' State.initial ['s'] [goalReport]) := by
  have hfinish : (mainLoop 'x' State.initial ['s'] [goalReport]).phase ≠ .scanning := by
    rw [(mainLoop_goalReport 'x' 's' (by decide)).1]
    decide
  refine ⟨hfinish, (obeysKeys_iff _ _ _ _ hfinish).mpr ⟨by decide, ?_⟩⟩
  intro key hkey
  exact List.mem_singleton.mp hkey

/-- With `c` typed, the servo is sent round and `main` prompts again. -/
theorem obeysKeys_fails :
    ¬ ∀ c s keys spins, (mainLoop c s keys spins).phase ≠ .scanning →
      ObeysKeys keys (mainLoop c s keys spins) := by
  intro h
  obtain ⟨hphase, -⟩ := mainLoop_goalReport 'x' 'c' (by decide)
  have hobeys := h 'x' State.initial ['c'] [goalReport] (by rw [hphase]; decide)
  have hleft := hobeys.left_iff.mpr (List.mem_singleton_self _)
  rw [hphase] at hleft
  exact absurd hleft (by decide)

end Sonar3D.System3D
