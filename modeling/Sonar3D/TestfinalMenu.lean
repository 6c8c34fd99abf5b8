/-
How `testfinal` leaves its loops.

`main` wraps the loop body in `do { while (ros::ok()) .. } while (c!='x')`, and
after the body it tests `if (c='x'){break;}`. That is an assignment: it puts
`x` in `c` and its value, being `x`, is true. So the inner loop is left after
its first turn and the outer test then finds the `x`. The program serves one
key, whatever it is, and ends; that is a correct exit exactly when the key was
`x` or `X`.
-/
import Sonar3D.TestfinalScan

set_option autoImplicit false

namespace Sonar3D.Testfinal

open Sonar3D.ScanFloat

variable {α : Type*}

/-! ## The two loops -/

/-- `main`, at the head of its inner loop or past both. -/
inductive Main (α : Type*) where
  | looping (s : State α)
  | exited (s : State α)
deriving DecidableEq

/-- `c='x'` as an expression: the assignment, and its value as a condition. -/
def assignX (s : State α) : State α × Bool :=
  ({ s with c := some 'x' }, decide ('x'.toNat ≠ 0))

/-- `while (c!='x')`, the test of the outer loop. -/
def outerTest (s : State α) : Main α :=
  if s.c ≠ some 'x' then .looping s else .exited s

/-- From one evaluation of `ros::ok()` to the next: its value, and the callbacks
that wait. -/
def Main.step : Main α → Bool × List (Callback α) → Main α
  | .exited s, _ => .exited s
  | .looping s, (ok, queued) =>
      if ok then
        let (s, leave) := assignX (body s queued)
        if leave then outerTest s else .looping s
      else outerTest s

/-- `main` from the head of its loops, `ros::ok()` holding throughout. -/
def mainRun (s : State α) (spins : List (List (Callback α))) : Main α :=
  (spins.map (fun queued => (true, queued))).foldl Main.step (.looping s)

def selectedKeys (s : State α) : List (Option Char) :=
  s.output.filterMap (fun o => match o with
    | .selected key => some key
    | _ => none)

/-! ## One turn -/

theorem step_looping (s : State α) (queued : List (Callback α)) :
    (Main.looping s).step (true, queued) = .exited { body s queued with c := some 'x' } := by
  show (if decide ('x'.toNat ≠ 0) then outerTest { body s queued with c := some 'x' }
    else .looping { body s queued with c := some 'x' }) = _
  -- the value of the assignment is the character `x`, which is not zero
  rw [if_pos (by decide)]
  unfold outerTest
  rw [if_neg (not_not.mpr rfl)]

theorem foldl_exited (s : State α) (is : List (Bool × List (Callback α))) :
    is.foldl Main.step (.exited s) = .exited s := by
  induction is with
  | nil => rfl
  | cons i is ih => exact ih

/-- However long it is let run, `main` takes one turn. -/
theorem mainRun_cons (s : State α) (b : List (Callback α)) (bs : List (List (Callback α))) :
    mainRun s (b :: bs) = .exited { body s b with c := some 'x' } := by
  unfold mainRun
  rw [List.map_cons, List.foldl_cons, step_looping, foldl_exited]

theorem selectedKeys_serve (s : State α) (cmd : Command) :
    selectedKeys (serve s cmd) = selectedKeys s := by
  unfold selectedKeys
  cases cmd with
  | goScan =>
      rw [serve, goScan_eq]
      split <;> simp
  | checkServo => rfl
  | saveCloud => simp [serve, saveCloud, State.emit]
  | rotateServo => simp [serve, rotateServo, moveMotor, State.emit]
  | exit => rfl
  | invalid => rfl

/-- The menu branch selects the next key, and nothing else. -/
theorem selectedKeys_menuBranch (s : State α) (b : List (Callback α)) :
    selectedKeys (menuBranch s b) = selectedKeys s ++ [s.nextKey] := by
  have hserved : selectedKeys (served s) = selectedKeys s ++ [s.nextKey] := by
    unfold served
    rw [selectedKeys_serve, readKey_c]
    unfold selectedKeys
    show (s.output ++ [Output.selected s.nextKey]).filterMap _ = _
    rw [List.filterMap_append]
    rfl
  rw [menuBranch_eq]
  unfold selectedKeys at hserved ⊢
  simp only [spinOnce_output]
  exact hserved

theorem selectedKeys_menu (s : State α) (b : List (Callback α)) (hscan : s.scan ≠ 1) :
    selectedKeys (body s b) = selectedKeys s ++ [s.nextKey] := by
  rw [body_of_scan_ne s b hscan]
  exact selectedKeys_menuBranch s b

/-! ## Leaving only on `x` -/

/-- With `ros::ok()` holding, `main` leaves its loops only after `x` or `X` has
been selected. -/
def LeavesOnlyOnExit (s : State α) : Prop :=
  ∀ spins s', mainRun s spins = .exited s' → ∃ key ∈ selectedKeys s', command key = .exit

/-- **`main` leaves its loops only on `x` exactly when the first key is one.** -/
theorem leavesOnlyOnExit_iff (c : Option Char) (stdin : List Char) :
    LeavesOnlyOnExit (State.initial c stdin : State α) ↔ command stdin.head? = .exit := by
  have hkeys : ∀ b : List (Callback α),
      selectedKeys { body (State.initial c stdin) b with c := some 'x' } = [stdin.head?] :=
    fun b => selectedKeys_menu (State.initial c stdin) b (show (0 : ℤ) ≠ 1 by decide)
  constructor
  · -- one turn is enough: it leaves, having selected the first key only
    intro h
    obtain ⟨key, hkey, hexit⟩ := h [[]] _ (mainRun_cons _ [] [])
    rw [hkeys, List.mem_singleton] at hkey
    rwa [hkey] at hexit
  · intro hexit spins s' hrun
    cases spins with
    | nil => cases hrun
    | cons b bs =>
        rw [mainRun_cons] at hrun
        cases hrun
        refine ⟨stdin.head?, ?_, hexit⟩
        rw [hkeys]
        exact List.mem_singleton_self _

/-- With `g` typed first, and `s` after it, the program ends in the turn that
served `g`: the scan is on and nothing has been saved. -/
theorem leaves_after_go :
    ∃ s, mainRun (State.initial none ['g', '\n', 's', '\n'] : State ℕ) [[]] = .exited s
      ∧ selectedKeys s = [some 'g'] ∧ s.scan = 1
      ∧ ¬ LeavesOnlyOnExit (State.initial none ['g', '\n', 's', '\n'] : State ℕ) := by
  refine ⟨_, mainRun_cons _ [] [], by decide +kernel, by decide +kernel, ?_⟩
  intro h
  obtain ⟨key, hkey, hexit⟩ := h [[]] _ (mainRun_cons _ [] [])
  have hkeys : selectedKeys
      { body (State.initial none ['g', '\n', 's', '\n'] : State ℕ) [] with c := some 'x' }
        = [some 'g'] := by decide +kernel
  rw [hkeys, List.mem_singleton] at hkey
  rw [hkey] at hexit
  exact absurd hexit (by decide)

end Sonar3D.Testfinal
