/-
What `testfinal` has in `*cloud`.

A report in the window appends the current cloud, whatever `scan` is; `g` and
`s` clear. So between two clearings `*cloud` is the list of clouds that were
current at the reports in the window, in order -- `recorded` -- and this holds
in a scan and outside one alike. Three consequences are spelled out: what a
scan leaves in `*cloud`, how often each delivered cloud is in it, and what `s`
saves.

The two laws one might expect instead, every cloud of the scan exactly once
(`RecordsOnce`) and no recording outside a scan, fail in the runs at the end
of each section.
-/
import Sonar3D.Testfinal

set_option autoImplicit false

namespace Sonar3D.Testfinal

open Sonar3D.Hold Sonar3D.Runs

variable {α : Type*}

/-! ## Between two clearings -/

/-- No turn of the run clears `*cloud`. -/
def NoClear (s : State α) (spins : List (List (Callback α))) : Prop :=
  ∀ k, k < spins.length → ¬ Clears (stateAt body s spins k)

theorem run_cons (s : State α) (b : List (Callback α)) (bs : List (List (Callback α))) :
    run s (b :: bs) = run (body s b) bs := rfl

theorem run_append (s : State α) (bs bs' : List (List (Callback α))) :
    run s (bs ++ bs') = run (run s bs) bs' := by
  unfold run
  rw [List.foldl_append]

theorem noClear_cons (s : State α) (b : List (Callback α)) (bs : List (List (Callback α))) :
    NoClear s (b :: bs) ↔ ¬ Clears s ∧ NoClear (body s b) bs := by
  constructor
  · intro h
    exact ⟨h 0 (by simp), fun k hk => h (k + 1) (by simpa using hk)⟩
  · rintro ⟨hfirst, hrest⟩ k hk
    cases k with
    | zero => exact hfirst
    | succ k => exact hrest k (by simpa using hk)

theorem run_ang_servo (s : State α) (spins : List (List (Callback α))) :
    (run s spins).ang_servo = held Callback.angle? s.ang_servo spins.flatten :=
  foldl_batches body State.ang_servo Callback.angle? (fun s b => (body_fields s b).2.1) s spins

theorem recorded_append (current : List α) (cbs cbs' : List (Callback α)) :
    recorded current (cbs ++ cbs')
      = recorded current cbs ++ recorded (held Callback.cloud? current cbs) cbs' :=
  triggered_append Callback.cloud? Callback.records current cbs cbs'

/-- A run without clearing appends the recorded clouds. The induction is on the
spins; each turn contributes its own, and the current cloud it ends with is the
one the next turn starts from. -/
theorem run_cloud (s : State α) (spins : List (List (Callback α))) (h : NoClear s spins) :
    (run s spins).cloud = s.cloud ++ (recorded s.cloud_points spins.flatten).flatten := by
  induction spins generalizing s with
  | nil => simp [run, recorded]
  | cons b bs ih =>
      obtain ⟨hfirst, hrest⟩ := (noClear_cons s b bs).mp h
      obtain ⟨hpoints, -, hcloud⟩ := body_fields s b
      rw [if_neg hfirst] at hcloud
      rw [run_cons, ih (body s b) hrest, hcloud, hpoints, List.flatten_cons, recorded_append,
        List.flatten_append, List.append_assoc]

/-- After a clearing turn `*cloud` is what has been recorded since, the spin of
that turn included. -/
theorem run_cloud_since (s : State α) (b : List (Callback α)) (bs : List (List (Callback α)))
    (hclear : Clears s) (h : NoClear (body s b) bs) :
    (run s (b :: bs)).cloud = (recorded s.cloud_points (b ++ bs.flatten)).flatten := by
  obtain ⟨hpoints, -, hcloud⟩ := body_fields s b
  rw [if_pos hclear, List.nil_append] at hcloud
  rw [run_cons, run_cloud _ _ h, hcloud, hpoints, recorded_append, List.flatten_append]

/-! ## A scan -/

/-- A scan, from the turn in `s` that serves `g`: its spins are `b`, then `bs`,
and after them -- not before -- line 232 finds the angle past the end. -/
def ScanRun (s : State α) (b : List (Callback α)) (bs : List (List (Callback α))) : Prop :=
  StartsScan s
    ∧ (∀ n, n < bs.length → ¬ (stateAt body (body s b) bs n).ang_servo > 358)
    ∧ (run s (b :: bs)).ang_servo > 358

/-- A scan that is on stays on while the angle is not past the end. -/
theorem scan_stays_on (s : State α) (spins : List (List (Callback α))) (m n : ℕ) (hmn : m ≤ n)
    (hon : (stateAt body s spins m).scan = 1)
    (hang : ∀ k, m ≤ k → k < n → ¬ (stateAt body s spins k).ang_servo > 358) :
    (stateAt body s spins n).scan = 1 := by
  apply stateAt_invariant body s spins (fun s' => s'.scan = 1) m n hmn
  · exact hon
  · intro k hmk hkn hk hscan
    exact body_scan_on _ _ hscan (hang k hmk hkn)

/-- In a scan it is on at every turn up to the one that ends it. -/
theorem scanRun_on (s : State α) (b : List (Callback α)) (bs : List (List (Callback α)))
    (h : ScanRun s b bs) (n : ℕ) (hn : n ≤ bs.length) :
    (stateAt body (body s b) bs n).scan = 1 := by
  obtain ⟨hstart, hang, -⟩ := h
  apply scan_stays_on _ bs 0 n (Nat.zero_le n)
  · exact body_scan_start s b hstart
  · intro k _ hkn
    exact hang k (Nat.lt_of_lt_of_le hkn hn)

theorem scanRun_noClear (s : State α) (b : List (Callback α)) (bs : List (List (Callback α)))
    (h : ScanRun s b bs) : NoClear (body s b) bs := by
  intro k hk hclears
  exact hclears.1 (scanRun_on s b bs h k (Nat.le_of_lt hk))

/-- When line 232 ends a scan, `*cloud` is the list of clouds that were current
at the reports in the window, in order, each as often as it was current at one:
the cloud current at `g` before the first delivery, and every delivered cloud
until the next delivery. -/
theorem scan_cloud (s : State α) (b : List (Callback α)) (bs : List (List (Callback α)))
    (h : ScanRun s b bs) :
    (run s (b :: bs)).scan = 1 ∧ (endOfScan (run s (b :: bs))).scan = 0
      ∧ (endOfScan (run s (b :: bs))).cloud
          = (recorded s.cloud_points (b ++ bs.flatten)).flatten
      ∧ (∀ pre post, b ++ bs.flatten = pre ++ post → (∀ cb ∈ pre, cb.cloud? = none) →
          recorded s.cloud_points (b ++ bs.flatten)
            = List.replicate (pre.countP Callback.records) s.cloud_points
                ++ recorded s.cloud_points post)
      ∧ (∀ pre mid post msg, b ++ bs.flatten = pre ++ .sonar msg :: (mid ++ post) →
          (∀ cb ∈ mid, cb.cloud? = none) →
          recorded s.cloud_points (b ++ bs.flatten)
            = recorded s.cloud_points pre
                ++ (List.replicate (mid.countP Callback.records) msg ++ recorded msg post)) := by
  have hon : (run s (b :: bs)).scan = 1 := by
    have hlast := scanRun_on s b bs h bs.length (Nat.le_refl _)
    rwa [stateAt_of_length_le _ _ _ _ (Nat.le_refl _)] at hlast
  have hclear := scanRun_noClear s b bs h
  obtain ⟨hstart, -, hend⟩ := h
  have hclears : Clears s := ⟨hstart.1, Or.inl hstart.2⟩
  refine ⟨hon, ?_, ?_, ?_, ?_⟩
  · unfold endOfScan
    rw [if_pos hend]
  · -- ending the scan leaves `*cloud`, so it is what the spins have recorded
    rw [(endOfScan_fields _).2.2]
    exact run_cloud_since s b bs hclears hclear
  · -- before the first delivery the cloud from before `g` is current
    intro pre post hsplit hpre
    rw [hsplit, recorded_append, held_of_none _ _ _ hpre]
    congr 1
    exact triggered_of_none _ _ _ _ hpre
  · -- from its delivery to the next one `msg` is
    intro pre mid post msg hsplit hmid
    rw [hsplit]
    exact triggered_span _ _ _ _ _ _ _ _ rfl rfl hmid

/-- The clouds delivered while the angle reported last lies in the window, `a`
being the one reported before. -/
def deliveredInWindow (a : ℚ) : List (Callback α) → List (List α)
  | [] => []
  | .sonar msg :: cbs =>
      if InWindow a then msg :: deliveredInWindow a cbs else deliveredInWindow a cbs
  | .servo msg :: cbs => deliveredInWindow (degrees msg) cbs

/-- The scan recorded every cloud delivered in the window, once. -/
def RecordsOnce (s : State α) (b : List (Callback α)) (bs : List (List (Callback α))) : Prop :=
  (run s (b :: bs)).cloud = (deliveredInWindow s.ang_servo (b ++ bs.flatten)).flatten

def reportAt (a : ℚ) : Callback ℕ := .servo ⟨a * (pi / 180), a * (pi / 180), 0, false⟩

def atMenu : State ℕ := State.initial none ['g', '\n']

/-- At the menu after a cloud came in while `c` was served, `g` typed. -/
def atMenuWithCloud : State ℕ :=
  run (State.initial none ['c', '\n', 'g', '\n']) [[.sonar [7]]]

/-- One report finds the cloud, and then another one does. -/
def repeatingSpins : List (List (Callback ℕ)) :=
  [[.sonar [1], reportAt 91], [reportAt 92], [reportAt 360]]

/-- Two clouds before a report. -/
def losingSpins : List (List (Callback ℕ)) :=
  [[.sonar [1], .sonar [2], reportAt 91], [reportAt 360]]

theorem scan_cloud_atMenu :
    (endOfScan (run atMenu ([reportAt 90] :: repeatingSpins))).cloud = [1, 1] := by
  have hscan : ScanRun atMenu [reportAt 90] repeatingSpins := by
    unfold ScanRun
    decide +kernel
  rw [(scan_cloud _ _ _ hscan).2.2.1]
  decide +kernel

/-- Recording once fails in three ways: a cloud is there twice when two reports
find it, it is missing when the next cloud comes before a report, and the cloud
from before `g` is there when a report comes before the first cloud. -/
theorem recordsOnce_fails :
    (ScanRun atMenu [reportAt 90] repeatingSpins
        ∧ ¬ RecordsOnce atMenu [reportAt 90] repeatingSpins)
      ∧ (ScanRun atMenu [reportAt 90] losingSpins
        ∧ ¬ RecordsOnce atMenu [reportAt 90] losingSpins)
      ∧ (ScanRun atMenuWithCloud [reportAt 90] [[reportAt 360]]
        ∧ ¬ RecordsOnce atMenuWithCloud [reportAt 90] [[reportAt 360]]) := by
  unfold ScanRun RecordsOnce
  decide +kernel

/-! ## What `s` saves -/

def Saves (s : State α) : Prop := s.scan ≠ 1 ∧ command s.nextKey = .saveCloud

instance (s : State α) : Decidable (Saves s) := inferInstanceAs (Decidable (_ ∧ _))

/-- A turn that serves `s` sends out the key and the file, the file being
`*cloud` as it was. -/
theorem body_output_of_saves (s : State α) (queued : List (Callback α)) (h : Saves s) :
    (body s queued).output
      = s.output ++ [.selected s.nextKey, .savePCDFileBinary s.cloud] := by
  have hserved : (served s).output
      = s.output ++ [.selected s.nextKey, .savePCDFileBinary s.cloud] := by
    unfold served
    rw [readKey_c, h.2]
    show (s.output ++ [Output.selected s.nextKey]) ++ [Output.savePCDFileBinary s.cloud] = _
    rw [List.append_assoc]
    rfl
  rw [body_of_scan_ne s queued h.1, menuBranch_eq]
  simpa using hserved

/-- Every report extends `*cloud` exactly when its angle is in the window,
whatever `scan` is; so what `s` saves is the list of clouds that were current
at the reports in the window since the last turn that served `g` or `s`, or
since the start. -/
theorem saved_cloud (c : Option Char) (stdin : List Char) (spins : List (List (Callback α)))
    (queued : List (Callback α)) :
    (∀ (s : State α) (msg : JointState ℚ), (servoCallback s msg).cloud
        = if InWindow (degrees msg) then s.cloud ++ s.cloud_points else s.cloud)
      ∧ (Saves (run (State.initial c stdin) spins) →
          ∃ saved, (body (run (State.initial c stdin) spins) queued).output
              = (run (State.initial c stdin) spins).output
                  ++ [.selected (run (State.initial c stdin) spins).nextKey,
                      .savePCDFileBinary saved]
            ∧ (NoClear (State.initial c stdin) spins → saved = (recorded [] spins.flatten).flatten)
            ∧ ∀ pre b post, spins = pre ++ b :: post →
                Clears (run (State.initial c stdin) pre) →
                NoClear (run (State.initial c stdin) (pre ++ [b])) post →
                saved = (recorded (run (State.initial c stdin) pre).cloud_points
                    (b ++ post.flatten)).flatten) := by
  refine ⟨servoCallback_cloud, fun hsaves => ?_⟩
  refine ⟨_, body_output_of_saves _ queued hsaves, ?_, ?_⟩
  · -- never cleared: from the start, with nothing in `*cloud`
    intro hclear
    rw [run_cloud _ _ hclear]
    rfl
  · -- last cleared in the turn that spins `b`
    intro pre b post hspins hclears hrest
    rw [run_append] at hrest
    rw [hspins, run_append]
    exact run_cloud_since _ b post hclears hrest

def savingMenu : List Char := ['c', '\n', 's', '\n']

/-- `s` saves what a report recorded, though no scan was ever on. -/
theorem saved_cloud_savingMenu :
    ∃ saved, (body (run (State.initial none savingMenu)
          [[.sonar [7], reportAt 90]]) ([] : List (Callback ℕ))).output
        = [.selected (some 'c'), .selected (some 's'), .savePCDFileBinary saved]
      ∧ saved = [7] := by
  have hsaves : Saves (run (State.initial none savingMenu) [[.sonar [7], reportAt 90]]) := by
    decide +kernel
  have hclear : NoClear (State.initial none savingMenu) [[.sonar [7], reportAt 90]] := by
    unfold NoClear
    decide +kernel
  have hbefore : (run (State.initial none savingMenu) [[.sonar [7], reportAt 90]]).output
        = [.selected (some 'c')]
      ∧ (run (State.initial none savingMenu) [[.sonar [7], reportAt 90]]).nextKey = some 's' := by
    decide +kernel
  obtain ⟨saved, hout, hsaved, -⟩ := (saved_cloud none savingMenu _ []).2 hsaves
  refine ⟨saved, ?_, ?_⟩
  · rw [hout, hbefore.1, hbefore.2]
    rfl
  · rw [hsaved hclear]
    decide +kernel

/-- Recording is not confined to scans: with `scan` zero a report in the window
extends `*cloud`, and `s` then saves a cloud though `scan` was never one. -/
theorem records_outside_scan :
    (run (State.initial none savingMenu) [[.sonar [7]]]).scan ≠ 1
      ∧ (dispatch (run (State.initial none savingMenu) [[.sonar [7]]]) (reportAt 90)).cloud
          ≠ (run (State.initial none savingMenu) [[.sonar [7]]]).cloud
      ∧ (∀ n, n ≤ 2 → (stateAt body (State.initial none savingMenu)
            [[.sonar [7], reportAt 90], []] n).scan ≠ 1)
      ∧ (run (State.initial none savingMenu) [[.sonar [7], reportAt 90], []]).output
          = [.selected (some 'c'), .selected (some 's'), .savePCDFileBinary [7]] := by
  decide +kernel

end Sonar3D.Testfinal
