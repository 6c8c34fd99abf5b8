/-
What `testfinal` keeps to in every run.

Two laws about the scan flag and one about the cloud. The flag is on at a turn
exactly when a `g` was served and no turn since has begun past 358 degrees; while
it is on nothing is sent out, so the servo is on its way round and no other command
is under way. And no recorded cloud gets lost or is kept twice: what has been
recorded is, in order, what the clearing turns took away and what `*cloud` holds.

A run is the loop body, repeated; the exit behind the body is left aside.
-/
import Sonar3D.TestfinalScan

set_option autoImplicit false

namespace Sonar3D.Testfinal

open Sonar3D.Hold Sonar3D.Runs

variable {α : Type*}

/-! ## When a scan is on -/

/-- Only `g` turns the scan on, and past 358 degrees it is turned off. -/
theorem served_of_scan_on (c : Option Char) (stdin : List Char)
    (spins : List (List (Callback α))) (n : ℕ) (hn : n ≤ spins.length)
    (hon : (stateAt body (State.initial c stdin) spins n).scan = 1) :
    ∃ m < n, StartsScan (stateAt body (State.initial c stdin) spins m)
      ∧ ∀ k, m < k → k < n →
          ¬ (stateAt body (State.initial c stdin) spins k).ang_servo > 358 := by
  induction n with
  | zero => exact absurd hon (by simp [State.initial])
  | succ n ih =>
      have hlt : n < spins.length := hn
      rw [stateAt_succ _ _ _ n hlt] at hon
      by_cases hstart : StartsScan (stateAt body (State.initial c stdin) spins n)
      · exact ⟨n, Nat.lt_succ_self n, hstart, fun k hnk hkn => by omega⟩
      · -- it was on before, and turn `n` did not end it
        have hscan : (stateAt body (State.initial c stdin) spins n).scan = 1 := by
          by_contra hoff
          exact body_scan_ne _ _ hoff hstart hon
        have hang : ¬ (stateAt body (State.initial c stdin) spins n).ang_servo > 358 := by
          intro hpast
          rw [body_scan_end _ _ hscan hpast] at hon
          exact absurd hon (by decide)
        obtain ⟨m, hmn, hserved, hbelow⟩ := ih (Nat.le_of_lt hlt) hscan
        refine ⟨m, Nat.lt_succ_of_lt hmn, hserved, fun k hmk hkn => ?_⟩
        rcases Nat.lt_succ_iff_lt_or_eq.mp hkn with hk | rfl
        · exact hbelow k hmk hk
        · exact hang

/-- The scan is on at a turn exactly when `g` was served at an earlier one and none
of the turns in between began past 358 degrees. -/
theorem scan_on_iff (c : Option Char) (stdin : List Char) (spins : List (List (Callback α)))
    (n : ℕ) (hn : n ≤ spins.length) :
    (stateAt body (State.initial c stdin) spins n).scan = 1
      ↔ ∃ m < n, StartsScan (stateAt body (State.initial c stdin) spins m)
          ∧ ∀ k, m < k → k < n →
              ¬ (stateAt body (State.initial c stdin) spins k).ang_servo > 358 := by
  constructor
  · exact served_of_scan_on c stdin spins n hn
  · rintro ⟨m, hmn, hserved, hbelow⟩
    exact scan_on_of_le _ spins m n hmn hn hserved hbelow

/-- One `g` and two turns. -/
theorem scan_on_iff_twoTurns :
    (stateAt body (State.initial none ['g', '\n']) ([[], []] : List (List (Callback ℕ))) 2).scan
      = 1 :=
  (scan_on_iff none ['g', '\n'] [[], []] 2 (by decide)).mpr
    ⟨0, by decide, by decide +kernel, fun k hk hk2 => by
      obtain rfl : k = 1 := by omega
      decide +kernel⟩

/-! ## What is sent out during a scan -/

/-- `g` sends the servo round last. -/
theorem body_output_of_starts (s : State α) (queued : List (Callback α)) (h : StartsScan s) :
    (body s queued).output.getLast? = some (.moveMotor (some (2 * pi))) := by
  rw [body_of_scan_ne s queued h.1, menuBranch_eq]
  show (spinOnce (served s) queued).output.getLast? = _
  unfold served
  rw [spinOnce_output, readKey_c, h.2]
  show (goScan _).output.getLast? = _
  rw [goScan_eq]
  exact List.getLast?_concat

theorem body_output_of_scan (s : State α) (queued : List (Callback α)) (h : s.scan = 1) :
    (body s queued).output = s.output := by
  rw [body_of_scan_eq s queued h]
  unfold scanBranch endOfScan
  rw [spinOnce_output]
  split <;> rfl

/-- In every run, whenever the scan is on, some turn served `g` and sent the servo round
by 360 degrees last; from the end of that turn on nothing at all has been sent out, no
file, no key that was served and no other command, and the turn that comes sends
nothing either. -/
theorem scan_silent (c : Option Char) (stdin : List Char) (spins : List (List (Callback α)))
    (n : ℕ) (hn : n ≤ spins.length)
    (hon : (stateAt body (State.initial c stdin) spins n).scan = 1) :
    (∃ m < n, StartsScan (stateAt body (State.initial c stdin) spins m)
        ∧ (stateAt body (State.initial c stdin) spins (m + 1)).output.getLast?
            = some (.moveMotor (some (2 * pi)))
        ∧ ∀ k, m < k → k ≤ n → (stateAt body (State.initial c stdin) spins k).output
            = (stateAt body (State.initial c stdin) spins (m + 1)).output)
      ∧ ∀ queued, (body (stateAt body (State.initial c stdin) spins n) queued).output
          = (stateAt body (State.initial c stdin) spins n).output := by
  refine ⟨?_, fun queued => body_output_of_scan _ queued hon⟩
  obtain ⟨m, hmn, hserved, hbelow⟩ := served_of_scan_on c stdin spins n hn hon
  refine ⟨m, hmn, hserved, ?_, ?_⟩
  · rw [stateAt_succ _ _ _ m (by omega)]
    exact body_output_of_starts _ _ hserved
  · intro k hmk hkn
    induction k with
    | zero => omega
    | succ k ih =>
        by_cases hfirst : k = m
        · rw [hfirst]
        · -- the scan was on all the way from `g`
          have hscan : (stateAt body (State.initial c stdin) spins k).scan = 1 :=
            scan_on_of_le _ spins m k (by omega) (by omega) hserved
              (fun i hmi hik => hbelow i hmi (by omega))
          rw [stateAt_succ _ _ _ k (by omega), body_output_of_scan _ _ hscan]
          exact ih (by omega) (by omega)

theorem scan_silent_twoTurns :
    (body (stateAt body (State.initial none ['g', '\n']) ([[], []] : List (List (Callback ℕ))) 2)
        [.servo ⟨1, 0, 0, false⟩]).output = [.selected (some 'g'), .moveMotor (some (2 * pi))] :=
  ((scan_silent none ['g', '\n'] [[], []] 2 (by decide) (by decide +kernel)).2 _).trans
    (by decide +kernel)

/-! ## Where the recorded clouds go -/

/-- What a turn may take out of `*cloud`: `s` saves all of it, `g` throws it away. -/
inductive Taken (α : Type*) where
  | saved (cloud : List α)
  | thrownAway (cloud : List α)

def Taken.cloud : Taken α → List α
  | .saved cloud => cloud
  | .thrownAway cloud => cloud

def Taken.file? : Taken α → Option (List α)
  | .saved cloud => some cloud
  | .thrownAway _ => none

def Output.file? : Output α → Option (List α)
  | .savePCDFileBinary cloud => some cloud
  | _ => none

def taken (s : State α) : Option (Taken α) :=
  if Saves s then some (.saved s.cloud)
  else if StartsScan s then some (.thrownAway s.cloud)
  else none

/-- What the turns of a run take, in order. -/
def takenBy (s : State α) : List (List (Callback α)) → List (Taken α)
  | [] => []
  | b :: bs => (taken s).toList ++ takenBy (body s b) bs

theorem taken_append (s : State α) (queued : List (Callback α)) :
    (taken s).toList.flatMap Taken.cloud ++ (body s queued).cloud
      = s.cloud ++ (recorded s.cloud_points queued).flatten := by
  obtain ⟨-, -, hcloud⟩ := body_fields s queued
  rw [hcloud]
  unfold taken
  by_cases hsaves : Saves s
  · rw [if_pos hsaves, if_pos ⟨hsaves.1, Or.inr hsaves.2⟩]
    simp [Taken.cloud]
  · rw [if_neg hsaves]
    by_cases hstart : StartsScan s
    · rw [if_pos hstart, if_pos ⟨hstart.1, Or.inl hstart.2⟩]
      simp [Taken.cloud]
    · -- neither key: nothing is taken
      have hclears : ¬ Clears s := by
        rintro ⟨hscan, hgo | hsave⟩
        · exact hstart ⟨hscan, hgo⟩
        · exact hsaves ⟨hscan, hsave⟩
      rw [if_neg hstart, if_neg hclears]
      rfl

theorem serve_files (s : State α) (cmd : Command) :
    (serve s cmd).output.filterMap Output.file?
      = s.output.filterMap Output.file? ++ (if cmd = .saveCloud then [s.cloud] else []) := by
  cases cmd with
  | goScan =>
      rw [serve, goScan_eq]
      dsimp only
      split <;> simp [Output.file?]
  | checkServo => simp [serve, checkServo]
  | saveCloud => simp [serve, saveCloud, State.emit, Output.file?]
  | rotateServo => simp [serve, rotateServo, moveMotor, State.emit, Output.file?]
  | exit => simp [serve]
  | invalid => simp [serve]

/-- A turn writes the file it takes, and no other. -/
theorem body_files (s : State α) (queued : List (Callback α)) :
    (body s queued).output.filterMap Output.file?
      = s.output.filterMap Output.file? ++ (taken s).toList.filterMap Taken.file? := by
  by_cases hscan : s.scan = 1
  · have hnone : taken s = none := by
      unfold taken
      rw [if_neg (fun h => h.1 hscan), if_neg (fun h => h.1 hscan)]
    rw [body_output_of_scan s queued hscan, hnone]
    simp
  · rw [body_of_scan_ne s queued hscan, menuBranch_eq]
    show (spinOnce (served s) queued).output.filterMap Output.file? = _
    unfold served
    rw [spinOnce_output, readKey_c, serve_files]
    show (s.output ++ [Output.selected s.nextKey]).filterMap Output.file?
      ++ (if command s.nextKey = .saveCloud then [s.cloud] else []) = _
    rw [List.filterMap_append]
    unfold taken
    by_cases hsave : command s.nextKey = .saveCloud
    · rw [if_pos hsave, if_pos ⟨hscan, hsave⟩]
      simp [Output.file?, Taken.file?]
    · rw [if_neg hsave, if_neg (fun h => hsave h.2)]
      split <;> simp [List.filterMap_cons, Output.file?, Taken.file?]

/-- **Conservation.** In every run, what has been recorded is, in order, what `s`
saved, what `g` threw away and what is in `*cloud` still, each recorded cloud in
one of these places and once; and the files are exactly what `s` took. -/
theorem recorded_conserved (s : State α) (spins : List (List (Callback α))) :
    (takenBy s spins).flatMap Taken.cloud ++ (run s spins).cloud
        = s.cloud ++ (recorded s.cloud_points spins.flatten).flatten
      ∧ (run s spins).output.filterMap Output.file?
          = s.output.filterMap Output.file? ++ (takenBy s spins).filterMap Taken.file? := by
  induction spins generalizing s with
  | nil => simp [takenBy, run, recorded]
  | cons b bs ih =>
      obtain ⟨hpoints, -, -⟩ := body_fields s b
      obtain ⟨hclouds, hfiles⟩ := ih (body s b)
      rw [run_cons, takenBy]
      constructor
      · rw [List.flatMap_append, List.append_assoc, hclouds, hpoints, ← List.append_assoc,
          taken_append, List.flatten_cons, recorded_append, List.flatten_append, List.append_assoc]
      · rw [hfiles, body_files, List.filterMap_append, List.append_assoc]

end Sonar3D.Testfinal
