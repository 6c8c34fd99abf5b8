/-
The node `testfinal`: the menu, the scan, and the cloud it accumulates.

`testfinal.cpp` runs a loop whose body has two faces. While `scan` is not one
it serves a menu: read a key, do what the key says, dispatch the callbacks that
wait, swallow one more character. While `scan` is one it only tests the angle
and dispatches. The callbacks do the recording: `sonarCallback` replaces the
current cloud, `servoCallback` appends the current cloud to `*cloud` whenever
the reported angle lies in the window.

The model takes the keyboard as the list of characters not read yet and the
arrivals as one list of callbacks per `ros::spinOnce`, so a run of the loop
body is a fold over those lists. Positions are exact rationals, which is what
a double is, and no product is rounded: `ang_servo`, a `float` in the program,
is the exact product here. A point is whatever the cloud is made of: nothing
here looks inside one.

What the program sends out -- the key its switch serves, the commands to the
servo, the files it saves -- goes to `output`, in order.
-/
import Sonar3D.Geometry
import Sonar3D.Hold
import Sonar3D.Runs
import Sonar3D.ScanFloat
import Mathlib.Algebra.Order.Field.Rat

set_option autoImplicit false

namespace Sonar3D.Testfinal

open Sonar3D.Hold Sonar3D.Runs Sonar3D.ScanFloat

/-- `#define pi 3.14159265`. -/
def pi : ℚ := 3.14159265

/-! ## The globals and the callbacks -/

/-- What the program sends out: the key the switch serves (`none` for `EOF`), a
command to the servo (`none` if the position is not a finite number), a file. -/
inductive Output (α : Type*) where
  | selected (key : Option Char)
  | moveMotor (position : Option ℚ)
  | savePCDFileBinary (cloud : List α)
deriving DecidableEq

/-- The globals of `testfinal.cpp`, the variable `c` of `main`, the keyboard and
what has been sent out. -/
structure State (α : Type*) where
  msg_servo : JointState ℚ
  cloud_points : List α
  cloud : List α
  ang_servo : ℚ
  scan : ℤ
  c : Option Char
  stdin : List Char
  output : List (Output α)
deriving DecidableEq

variable {α : Type*}

/-- Where `main` enters its loops: globals zeroed, `scan= 0`, `c` whatever the
stack held. -/
def State.initial (c : Option Char) (stdin : List Char) : State α where
  msg_servo := ⟨0, 0, 0, false⟩
  cloud_points := []
  cloud := []
  ang_servo := 0
  scan := 0
  c := c
  stdin := stdin
  output := []

def degrees (msg : JointState ℚ) : ℚ := msg.current_pos * (180 / pi)

/-- The window in which reports record. -/
def InWindow (a : ℚ) : Prop := a < 359 ∧ a > 1

instance (a : ℚ) : Decidable (InWindow a) := inferInstanceAs (Decidable (_ ∧ _))

def servoCallback (s : State α) (msg : JointState ℚ) : State α :=
  let s := { s with
    msg_servo := ⟨msg.current_pos, msg.goal_pos, msg.velocity, msg.is_moving⟩
    ang_servo := degrees msg }
  -- `*cloud = (*cloud) + (*cloud_points)`, whatever `scan` is
  if InWindow s.ang_servo then { s with cloud := s.cloud ++ s.cloud_points } else s

def sonarCallback (s : State α) (msg : List α) : State α :=
  { s with cloud_points := msg }

inductive Callback (α : Type*) where
  | sonar (msg : List α)
  | servo (msg : JointState ℚ)
deriving DecidableEq

def dispatch (s : State α) : Callback α → State α
  | .sonar msg => sonarCallback s msg
  | .servo msg => servoCallback s msg

/-- `ros::spinOnce()` with `queued` waiting. -/
def spinOnce (s : State α) (queued : List (Callback α)) : State α :=
  queued.foldl dispatch s

/-! ## The menu -/

inductive Command where
  | goScan
  | checkServo
  | saveCloud
  | rotateServo
  | exit
  | invalid
deriving DecidableEq

/-- `switch(c)`. -/
def command : Option Char → Command
  | some 'G' | some 'g' => .goScan
  | some 'C' | some 'c' => .checkServo
  | some 'S' | some 's' => .saveCloud
  | some 'R' | some 'r' => .rotateServo
  | some 'X' | some 'x' => .exit
  | _ => .invalid

def State.emit (s : State α) (o : Output α) : State α := { s with output := s.output ++ [o] }

def moveMotor (s : State α) (position : Option ℚ) : State α := s.emit (.moveMotor position)

/-- `case 'g'`: clear the cloud, send the servo home if it is not there, start.
No callback is dispatched inside the `sleep`. -/
def goScan (s : State α) : State α :=
  let s := { s with cloud := [] }
  -- "Sonar not calibrated! Turning sonar to 0 angle..", and `sleep(6)`
  let s := if s.msg_servo.current_pos ≠ 0 then moveMotor s (some 0) else s
  let s := { s with scan := 1 }
  moveMotor s (some (2 * pi))

def checkServo (s : State α) : State α :=
  -- apart from the `printf`s of the last report
  { s with scan := 0 }

/-- `case 's'`, if `savePCDFileBinary` returns. Of an empty cloud the library writes no
file: it throws an exception, and as nothing catches it the program ends there. -/
def saveCloud (s : State α) : State α :=
  let s := { s with scan := 0 }
  -- the file is written before the cloud is reset
  let s := s.emit (.savePCDFileBinary s.cloud)
  { s with cloud := [] }

/-- `case 'r'`: `scanf("%f", &angulo)`, then the servo. -/
def rotateServo (s : State α) : State α :=
  let (angulo, stdin) := scanf_f s.stdin
  let s := { s with stdin := stdin }
  -- an angle that was not read is sent all the same, as whatever it holds
  moveMotor s (angulo.map (· * (pi / 180)))

def serve (s : State α) : Command → State α
  | .goScan => goScan s
  | .checkServo => checkServo s
  | .saveCloud => saveCloud s
  | .rotateServo => rotateServo s
  | .exit => s
  | .invalid => s

/-! ## The loop body -/

/-- `c=getchar();`, kept in `c`. -/
def readKey (s : State α) : State α :=
  let (key, stdin) := getchar s.stdin
  { s with c := key, stdin := stdin }

/-- The branch `scan!=1`: one key, one spin, one more character. -/
def menuBranch (s : State α) (queued : List (Callback α)) : State α :=
  let s := readKey s
  let s := serve (s.emit (.selected s.c)) (command s.c)
  let s := spinOnce s queued
  -- the last `getchar()`, whose value is dropped
  { s with stdin := (getchar s.stdin).2 }

def endOfScan (s : State α) : State α :=
  if s.ang_servo > 358 then { s with scan := 0 } else s

/-- The branch `scan==1`: test the angle, spin. -/
def scanBranch (s : State α) (queued : List (Callback α)) : State α :=
  spinOnce (endOfScan s) queued

/-- The loop body up to the exit test, with `queued` waiting for its
`spinOnce`. -/
def body (s : State α) (queued : List (Callback α)) : State α :=
  if s.scan ≠ 1 then menuBranch s queued else scanBranch s queued

/-- The loop body, once for each list of waiting callbacks. -/
def run (s : State α) (spins : List (List (Callback α))) : State α := spins.foldl body s

/-! ## A spin, register by register

The callbacks overwrite two registers, the current cloud and the angle, and
read the first at every report in the window. Everything else a spin leaves
alone. -/

def Callback.cloud? : Callback α → Option (List α)
  | .sonar msg => some msg
  | .servo _ => none

def Callback.angle? : Callback α → Option ℚ
  | .sonar _ => none
  | .servo msg => some (degrees msg)

def Callback.records : Callback α → Bool
  | .sonar _ => false
  | .servo msg => decide (InWindow (degrees msg))

/-- The clouds appended while `cbs` are dispatched, `current` being the current
cloud before them. -/
def recorded (current : List α) (cbs : List (Callback α)) : List (List α) :=
  triggered Callback.cloud? Callback.records current cbs

/-- A report extends `*cloud` by the current cloud exactly when its angle is in
the window; nothing else is asked. -/
theorem servoCallback_cloud (s : State α) (msg : JointState ℚ) :
    (servoCallback s msg).cloud
      = if InWindow (degrees msg) then s.cloud ++ s.cloud_points else s.cloud := by
  unfold servoCallback
  by_cases h : InWindow (degrees msg)
  · simp only [if_pos h]
  · simp only [if_neg h]

theorem dispatch_fields (s : State α) (cb : Callback α) :
    (dispatch s cb).cloud_points = (cb.cloud?).getD s.cloud_points
      ∧ (dispatch s cb).ang_servo = (cb.angle?).getD s.ang_servo
      ∧ (dispatch s cb).cloud = s.cloud ++ (if cb.records then s.cloud_points else [])
      ∧ (dispatch s cb).scan = s.scan ∧ (dispatch s cb).c = s.c
      ∧ (dispatch s cb).stdin = s.stdin ∧ (dispatch s cb).output = s.output := by
  cases cb with
  | sonar msg => simp [dispatch, sonarCallback, Callback.cloud?, Callback.angle?, Callback.records]
  | servo msg =>
      unfold dispatch servoCallback
      by_cases h : InWindow (degrees msg) <;>
        simp [h, Callback.cloud?, Callback.angle?, Callback.records]

theorem spinOnce_cloud_points (s : State α) (cbs : List (Callback α)) :
    (spinOnce s cbs).cloud_points = held Callback.cloud? s.cloud_points cbs :=
  foldl_component dispatch State.cloud_points Callback.cloud?
    (fun s cb => (dispatch_fields s cb).1) s cbs

theorem spinOnce_ang_servo (s : State α) (cbs : List (Callback α)) :
    (spinOnce s cbs).ang_servo = held Callback.angle? s.ang_servo cbs :=
  foldl_component dispatch State.ang_servo Callback.angle?
    (fun s cb => (dispatch_fields s cb).2.1) s cbs

theorem spinOnce_cloud (s : State α) (cbs : List (Callback α)) :
    (spinOnce s cbs).cloud = s.cloud ++ (recorded s.cloud_points cbs).flatten := by
  induction cbs generalizing s with
  | nil => simp [spinOnce, recorded]
  | cons cb cbs ih =>
      obtain ⟨hpoints, -, hcloud, -⟩ := dispatch_fields s cb
      have hstep : spinOnce s (cb :: cbs) = spinOnce (dispatch s cb) cbs := rfl
      rw [hstep, ih, hcloud, hpoints]
      unfold recorded
      rw [triggered, List.append_assoc]
      split <;> simp

theorem spinOnce_frame (s : State α) (cbs : List (Callback α)) :
    (spinOnce s cbs).scan = s.scan ∧ (spinOnce s cbs).c = s.c
      ∧ (spinOnce s cbs).stdin = s.stdin ∧ (spinOnce s cbs).output = s.output := by
  apply foldl_invariant dispatch
    (fun s' => s'.scan = s.scan ∧ s'.c = s.c ∧ s'.stdin = s.stdin ∧ s'.output = s.output)
  · intro s' cb h
    obtain ⟨-, -, -, hscan, hc, hstdin, houtput⟩ := dispatch_fields s' cb
    rw [hscan, hc, hstdin, houtput]
    exact h
  · exact ⟨rfl, rfl, rfl, rfl⟩

@[simp] theorem spinOnce_scan (s : State α) (cbs : List (Callback α)) :
    (spinOnce s cbs).scan = s.scan := (spinOnce_frame s cbs).1

@[simp] theorem spinOnce_output (s : State α) (cbs : List (Callback α)) :
    (spinOnce s cbs).output = s.output := (spinOnce_frame s cbs).2.2.2

/-! ## The menu branch, field by field -/

/-- The key the menu branch reads in `s`. -/
def State.nextKey (s : State α) : Option Char := s.stdin.head?

theorem readKey_c (s : State α) : (readKey s).c = s.nextKey := by
  unfold readKey State.nextKey
  cases s.stdin <;> rfl

/-- The step clears `*cloud`: it serves `g` or `s`. -/
def Clears (s : State α) : Prop :=
  s.scan ≠ 1 ∧ (command s.nextKey = .goScan ∨ command s.nextKey = .saveCloud)

/-- The step starts a scan: it serves `g`. -/
def StartsScan (s : State α) : Prop := s.scan ≠ 1 ∧ command s.nextKey = .goScan

instance (s : State α) : Decidable (Clears s) := inferInstanceAs (Decidable (_ ∧ _))

instance (s : State α) : Decidable (StartsScan s) := inferInstanceAs (Decidable (_ ∧ _))

/-- `g` at once: an empty cloud, the scan on, and one command or two. -/
theorem goScan_eq (s : State α) :
    goScan s = { s with
      cloud := []
      scan := 1
      output := s.output ++ (if s.msg_servo.current_pos ≠ 0 then [.moveMotor (some 0)] else [])
        ++ [.moveMotor (some (2 * pi))] } := by
  unfold goScan moveMotor State.emit
  by_cases h : s.msg_servo.current_pos = 0
  · simp [h]
  · simp [h]

/-- What serving a command does to the registers: the current cloud and the
angle stay, `*cloud` stays or is cleared, and only `g` turns the scan on. -/
theorem serve_fields (s : State α) (cmd : Command) :
    (serve s cmd).cloud_points = s.cloud_points
      ∧ (serve s cmd).ang_servo = s.ang_servo
      ∧ (serve s cmd).cloud = (if cmd = .goScan ∨ cmd = .saveCloud then [] else s.cloud)
      ∧ (cmd = .goScan → (serve s cmd).scan = 1)
      ∧ (cmd ≠ .goScan → s.scan ≠ 1 → (serve s cmd).scan ≠ 1) := by
  cases cmd with
  | goScan => simp [serve, goScan_eq]
  | checkServo => simp [serve, checkServo]
  | saveCloud => simp [serve, saveCloud, State.emit]
  | rotateServo => simp [serve, rotateServo, moveMotor, State.emit]
  | exit => simp [serve]
  | invalid => simp [serve]

/-- The state in which the menu branch spins. -/
def served (s : State α) : State α :=
  serve ((readKey s).emit (.selected (readKey s).c)) (command (readKey s).c)

theorem served_fields (s : State α) :
    (served s).cloud_points = s.cloud_points
      ∧ (served s).ang_servo = s.ang_servo
      ∧ (served s).cloud
          = (if command s.nextKey = .goScan ∨ command s.nextKey = .saveCloud then [] else s.cloud)
      ∧ (command s.nextKey = .goScan → (served s).scan = 1)
      ∧ (command s.nextKey ≠ .goScan → s.scan ≠ 1 → (served s).scan ≠ 1) := by
  unfold served
  rw [readKey_c]
  exact serve_fields ((readKey s).emit (.selected s.nextKey)) (command s.nextKey)

/-- The menu branch, apart from the keyboard, is the command and then a spin. -/
theorem menuBranch_eq (s : State α) (queued : List (Callback α)) :
    menuBranch s queued
      = { spinOnce (served s) queued with
          stdin := (getchar (spinOnce (served s) queued).stdin).2 } := rfl

theorem body_of_scan_ne (s : State α) (queued : List (Callback α)) (h : s.scan ≠ 1) :
    body s queued = menuBranch s queued := if_pos h

theorem body_of_scan_eq (s : State α) (queued : List (Callback α)) (h : s.scan = 1) :
    body s queued = scanBranch s queued := if_neg (not_not.mpr h)

theorem scanBranch_of_le (s : State α) (queued : List (Callback α)) (h : ¬ s.ang_servo > 358) :
    scanBranch s queued = spinOnce s queued := by
  unfold scanBranch endOfScan
  rw [if_neg h]

theorem endOfScan_fields (s : State α) :
    (endOfScan s).cloud_points = s.cloud_points ∧ (endOfScan s).ang_servo = s.ang_servo
      ∧ (endOfScan s).cloud = s.cloud := by
  unfold endOfScan
  split <;> exact ⟨rfl, rfl, rfl⟩

/-! ## One turn of the loop, register by register -/

/-- Every turn moves the registers by its spin; `*cloud` starts the spin empty
if the turn clears it. -/
theorem body_fields (s : State α) (queued : List (Callback α)) :
    (body s queued).cloud_points = held Callback.cloud? s.cloud_points queued
      ∧ (body s queued).ang_servo = held Callback.angle? s.ang_servo queued
      ∧ (body s queued).cloud
          = (if Clears s then [] else s.cloud) ++ (recorded s.cloud_points queued).flatten := by
  by_cases hscan : s.scan = 1
  · -- in a scan nothing but the spin touches the registers
    obtain ⟨hpoints, hang, hcloud⟩ := endOfScan_fields s
    have hclears : ¬ Clears s := fun h => h.1 hscan
    rw [body_of_scan_eq s queued hscan, scanBranch, spinOnce_cloud_points, spinOnce_ang_servo,
      spinOnce_cloud, hpoints, hang, hcloud, if_neg hclears]
    exact ⟨rfl, rfl, rfl⟩
  · -- at the menu the command comes first, then the spin
    obtain ⟨hpoints, hang, hcloud, -⟩ := served_fields s
    have hclears : Clears s ↔ command s.nextKey = .goScan ∨ command s.nextKey = .saveCloud :=
      and_iff_right hscan
    rw [body_of_scan_ne s queued hscan, menuBranch_eq]
    simp only [spinOnce_cloud_points, spinOnce_ang_servo, spinOnce_cloud, hpoints, hang, hcloud,
      hclears, and_self]

theorem body_scan_ne (s : State α) (queued : List (Callback α)) (hscan : s.scan ≠ 1)
    (hstart : ¬ StartsScan s) : (body s queued).scan ≠ 1 := by
  have hcmd : command s.nextKey ≠ .goScan := fun h => hstart ⟨hscan, h⟩
  have hserved := (served_fields s).2.2.2.2 hcmd hscan
  rw [body_of_scan_ne s queued hscan, menuBranch_eq]
  simpa using hserved

theorem body_scan_start (s : State α) (queued : List (Callback α)) (hstart : StartsScan s) :
    (body s queued).scan = 1 := by
  have hserved := (served_fields s).2.2.2.1 hstart.2
  rw [body_of_scan_ne s queued hstart.1, menuBranch_eq]
  simpa using hserved

/-- A turn in a scan keeps it on as long as the angle is not past the end. -/
theorem body_scan_on (s : State α) (queued : List (Callback α)) (hscan : s.scan = 1)
    (hang : ¬ s.ang_servo > 358) : (body s queued).scan = 1 := by
  rw [body_of_scan_eq s queued hscan, scanBranch_of_le s queued hang]
  simpa using hscan

theorem body_scan_end (s : State α) (queued : List (Callback α)) (hscan : s.scan = 1)
    (hang : s.ang_servo > 358) : (body s queued).scan = 0 := by
  rw [body_of_scan_eq s queued hscan]
  unfold scanBranch endOfScan
  rw [if_pos hang, spinOnce_scan]

/-! ## The keyboard -/

/-- Only `r` reads from the keyboard. -/
theorem serve_stdin (s : State α) (cmd : Command) :
    (serve s cmd).stdin = if cmd = .rotateServo then (scanf_f s.stdin).2 else s.stdin := by
  cases cmd with
  | goScan => simp [serve, goScan_eq]
  | rotateServo => exact (if_pos rfl).symm
  | _ => rfl

theorem serve_stdin_suffix (s : State α) (cmd : Command) : (serve s cmd).stdin <:+ s.stdin := by
  rw [serve_stdin]
  split
  · exact scanf_f_suffix s.stdin
  · exact List.suffix_refl _

/-- A turn reads from the front of the keyboard only: what it leaves is a rest
of what was there. -/
theorem body_stdin_suffix (s : State α) (queued : List (Callback α)) :
    (body s queued).stdin <:+ s.stdin := by
  by_cases hscan : s.scan = 1
  · have hstdin := (spinOnce_frame (endOfScan s) queued).2.2.1
    rw [body_of_scan_eq s queued hscan, scanBranch, hstdin]
    unfold endOfScan
    split <;> exact List.suffix_refl _
  · have hstdin := (spinOnce_frame (served s) queued).2.2.1
    rw [body_of_scan_ne s queued hscan, menuBranch_eq]
    -- the character after the key, what the command reads, and the key
    show (getchar (spinOnce (served s) queued).stdin).2 <:+ s.stdin
    rw [hstdin]
    apply (getchar_suffix (served s).stdin).trans
    apply (serve_stdin_suffix _ _).trans
    exact getchar_suffix s.stdin

/-- No key is read twice, however long the loop runs. -/
theorem run_stdin_suffix (s : State α) (spins : List (List (Callback α))) :
    (run s spins).stdin <:+ s.stdin := by
  apply foldl_invariant body (fun s' => s'.stdin <:+ s.stdin)
  · intro s' queued h
    exact (body_stdin_suffix s' queued).trans h
  · exact List.suffix_refl _

end Sonar3D.Testfinal
