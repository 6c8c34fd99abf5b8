/-
The keys `testfinal` serves, against the lines it is typed.

The menu branch reads one character as the key and, at its end, one more that it
drops: the line end, if the key was all there was on the line. In between `r` reads
its angle with `%f`, which skips line ends in front of the number and leaves the one
behind it, unless it loses that one too. The three readers share the stream, and they
are in step with the lines as long as a command is a line of one character, and an angle
is the whole of the line behind the `r`. The first key that is read anywhere else is one
that no line asked for, also where the readers fall into step again behind it.

A run ends where a save does not return, so the runs here are those in which each does.
-/
import Sonar3D.Lines
import Sonar3D.TestfinalMenu

set_option autoImplicit false

namespace Sonar3D.Testfinal

open Sonar3D.Lines Sonar3D.ScanFloat

variable {α : Type*}

/-! ## One command per line -/

/-- A line that starts with `r` or `R`. -/
def rotates (l : Line) : Bool := command l.val.head? = .rotateServo

/-- The inputs at which a command is meant to be read: every line that is not empty,
except one that is consumed as an angle. The flag says that the first line is one. -/
def commandLines : Bool → List Line → List (List Char)
  | _, [] => []
  | true, _ :: ls => commandLines false ls
  | false, l :: ls =>
      if l.val = [] then commandLines false ls
      else unlines (l :: ls) :: commandLines (rotates l) ls

/-- The commands that are meant: the first characters of these lines. -/
def commandsOf : Bool → List Line → List Char
  | _, [] => []
  | true, _ :: ls => commandsOf false ls
  | false, l :: ls =>
      match l.val.head? with
      | none => commandsOf false ls
      | some key => key :: commandsOf (rotates l) ls

/-- The inputs at which a run of the menu branch finds its keys. -/
def keysRead (s : State α) : List (List (Callback α)) → List (List Char)
  | [] => []
  | queued :: spins =>
      if s.stdin = [] then keysRead (menuBranch s queued) spins
      else s.stdin :: keysRead (menuBranch s queued) spins

/-- Each save returns: `savePCDFileBinary` throws an exception if the cloud is empty. -/
def SavesReturn (s : State α) : List (List (Callback α)) → Prop
  | [] => True
  | queued :: spins =>
      (command s.nextKey = .saveCloud → s.cloud ≠ []) ∧ SavesReturn (menuBranch s queued) spins

/-- However often the menu branch is repeated, from whatever state, its keys are read
at the command lines, in order. -/
def OneCommandPerLine (α : Type*) (lines : List Line) : Prop :=
  ∀ (s : State α) (spins : List (List (Callback α))), s.stdin = unlines lines →
    SavesReturn s spins → keysRead s spins = (commandLines false lines).take spins.length

theorem commandLines_head (angle : Bool) (ls : List Line) :
    (commandLines angle ls).map List.head? = (commandsOf angle ls).map some := by
  induction ls generalizing angle with
  | nil => rfl
  | cons l ls ih =>
      cases angle with
      | true => exact ih false
      | false =>
          unfold commandLines commandsOf
          by_cases hempty : l.val = []
          · rw [if_pos hempty, hempty, ih]
            rfl
          · obtain ⟨key, rest, hkey⟩ := List.exists_cons_of_ne_nil hempty
            rw [if_neg hempty, List.map_cons, ih, unlines_cons, hkey]
            rfl

/-- The first `n` of the commands are read at the first `n` of the command lines. -/
theorem commandLines_take_head (angle : Bool) (ls : List Line) (n : ℕ) :
    ((commandLines angle ls).take n).filterMap List.head? = (commandsOf angle ls).take n := by
  have hsome : ((commandLines angle ls).take n).map List.head?
      = ((commandsOf angle ls).take n).map some := by
    rw [List.map_take, commandLines_head, List.map_take]
  have hid := congrArg (List.filterMap id) hsome
  rw [List.filterMap_map, List.filterMap_map] at hid
  rw [← List.filterMap_some (l := (commandsOf angle ls).take n)]
  exact hid

/-! ## A turn of the menu branch, on the keyboard -/

/-- What a turn leaves of its input. -/
def afterTurn : List Char → List Char
  | [] => []
  | key :: cs =>
      ((if command (some key) = .rotateServo then (scanf_f cs).2 else cs)).drop 1

theorem getchar_snd (cs : List Char) : (getchar cs).2 = cs.drop 1 := by
  cases cs <;> rfl

theorem menuBranch_stdin (s : State α) (queued : List (Callback α)) :
    (menuBranch s queued).stdin = afterTurn s.stdin := by
  have hspin : (spinOnce (served s) queued).stdin = (served s).stdin :=
    (spinOnce_frame (served s) queued).2.2.1
  rw [menuBranch_eq]
  show (getchar (spinOnce (served s) queued).stdin).2 = _
  rw [hspin, getchar_snd, served, serve_stdin, readKey_c]
  unfold readKey State.nextKey State.emit
  cases s.stdin with
  | nil => rfl
  | cons key cs => rfl

theorem keysRead_cons (s : State α) (queued : List (Callback α))
    (spins : List (List (Callback α))) :
    keysRead s (queued :: spins)
      = if s.stdin = [] then keysRead (menuBranch s queued) spins
        else s.stdin :: keysRead (menuBranch s queued) spins := rfl

/-- The keys of a run are read where the rounds of `afterTurn` start. -/
theorem keysRead_eq (s : State α) (spins : List (List (Callback α))) :
    keysRead s spins = starts afterTurn spins.length s.stdin := by
  induction spins generalizing s with
  | nil => cases s.stdin <;> rfl
  | cons queued spins ih =>
      rw [keysRead_cons, ih, menuBranch_stdin, List.length_cons]
      cases hstdin : s.stdin with
      | nil =>
          rw [if_pos rfl]
          show starts afterTurn spins.length [] = []
          cases spins.length <;> rfl
      | cons key cs =>
          rw [if_neg (List.cons_ne_nil key cs)]
          rfl

/-- What the switch is given in a run: the keys, and `EOF` once there are none. -/
theorem selectedKeys_run (s : State α) (spins : List (List (Callback α))) :
    (selectedKeys (spins.foldl menuBranch s)).filterMap id
      = (selectedKeys s).filterMap id ++ (keysRead s spins).filterMap List.head? := by
  induction spins generalizing s with
  | nil => exact (List.append_nil _).symm
  | cons queued spins ih =>
      rw [List.foldl_cons, ih, selectedKeys_menuBranch, List.filterMap_append, List.append_assoc,
        keysRead_cons, State.nextKey]
      cases hstdin : s.stdin with
      | nil =>
          rw [if_pos rfl]
          rfl
      | cons key cs =>
          rw [if_neg (List.cons_ne_nil key cs)]
          rfl

/-- A cloud of one point, and a report in the window: whatever the key, there is
something to save in the next turn. -/
def filling (a : α) : List (Callback α) := [.sonar [a], .servo ⟨1, 0, 0, false⟩]

theorem menuBranch_filling (s : State α) (a : α) : (menuBranch s (filling a)).cloud ≠ [] := by
  have hwindow : InWindow (degrees ⟨1, 0, 0, false⟩) := by decide +kernel
  have hrecorded : ∀ current : List α, recorded current (filling a) = [[a]] := by
    intro current
    simp [recorded, filling, Hold.triggered, Callback.cloud?, Callback.records, hwindow]
  rw [menuBranch_eq]
  show (spinOnce (served s) (filling a)).cloud ≠ []
  rw [spinOnce_cloud, hrecorded]
  exact List.append_ne_nil_of_right_ne_nil _ (List.cons_ne_nil a [])

theorem savesReturn_filling (a : α) (n : ℕ) (s : State α) (h : s.cloud ≠ []) :
    SavesReturn s (List.replicate n (filling a)) := by
  induction n generalizing s with
  | zero => trivial
  | succ n ih => exact ⟨fun _ => h, ih _ (menuBranch_filling s a)⟩

theorem oneCommandPerLine_iff_follows [Nonempty α] (lines : List Line) :
    OneCommandPerLine α lines
      ↔ Follows afterTurn (unlines lines) (commandLines false lines) := by
  constructor
  · -- a run of any length in which every save has a point
    intro h n
    obtain ⟨a⟩ := ‹Nonempty α›
    have hrun := h { State.initial none (unlines lines) with cloud := [a] }
      (List.replicate n (filling a)) rfl (savesReturn_filling a n _ (List.cons_ne_nil a []))
    rwa [keysRead_eq, List.length_replicate] at hrun
  · intro h s spins hstdin _
    rw [keysRead_eq, hstdin]
    exact h spins.length

/-! ## When the readers are in step -/

/-- What is about to be read where a line begins: a key, an angle that was not on the
line of its `r`, or the character behind an angle whose line end is lost. -/
inductive Reads where
  | key
  | angle
  | dropped

/-- The lines that keep the three readers in step. -/
def InStep : Reads → List Line → Prop
  | _, [] => True
  | .key, l :: ls =>
      match l.val with
      | [] => False
      | key :: rest =>
          if command (some key) = .rotateServo then
            if Blank rest then InStep .angle ls
            else if left rest = [] then InStep .dropped ls
            else left rest = ['\n'] ∧ ls = []
          else rest = [] ∧ InStep .key ls
  | .angle, l :: ls =>
      -- a blank angle is looked for in the lines behind it
      if Blank l.val then ∀ m ∈ ls, m.val = []
      else if left l.val = [] then InStep .dropped ls
      else left l.val = ['\n'] ∧ InStep .key ls
  -- an empty line makes up for the line end
  | .dropped, l :: ls => l.val = [] ∧ InStep .key ls

/-- Where a turn starts behind an angle that is looked for in these lines. -/
def behindAngle (ls : List Line) : List Char := (scanf_f (unlines ls)).2.drop 1

theorem commandLines_length (angle : Bool) (ls : List Line) :
    ∀ p ∈ commandLines angle ls, p.length ≤ (unlines ls).length := by
  induction ls generalizing angle with
  | nil =>
      intro p hp
      simp [commandLines] at hp
  | cons l ls ih =>
      have hlen := unlines_cons_length l ls
      have hbehind : ∀ angle, ∀ p ∈ commandLines angle ls, p.length ≤ (unlines (l :: ls)).length :=
        fun angle p hp => by
          have hle := ih angle p hp
          omega
      cases angle with
      | true => exact hbehind false
      | false =>
          unfold commandLines
          by_cases hempty : l.val = []
          · rw [if_pos hempty]
            exact hbehind false
          · rw [if_neg hempty]
            exact List.forall_mem_cons.mpr ⟨Nat.le_refl _, hbehind _⟩

theorem commandLines_length_lt (angle : Bool) (l : Line) (ls : List Line) :
    ∀ p ∈ commandLines angle ls, p.length < (unlines (l :: ls)).length := by
  intro p hp
  have hle := commandLines_length angle ls p hp
  have hlen := unlines_cons_length l ls
  omega

/-- A turn that has the rest of a line and its end left to drop is in step if that
is the end alone. -/
theorem follows_rest_iff (rest : List Char) (ls : List Line) (angle : Bool) :
    Follows afterTurn ((rest ++ '\n' :: unlines ls).drop 1) (commandLines angle ls)
      ↔ rest = [] ∧ Follows afterTurn (unlines ls) (commandLines angle ls) := by
  cases rest with
  | nil => exact (and_iff_right rfl).symm
  | cons c cs =>
      refine iff_of_false ?_ (fun h => absurd h.1 (List.cons_ne_nil c cs))
      apply not_follows_of_length
      · exact List.append_ne_nil_of_right_ne_nil cs (List.cons_ne_nil _ _)
      · intro p hp
        have hle := commandLines_length angle ls p hp
        show p.length < (cs ++ '\n' :: unlines ls).length
        rw [List.length_append, List.length_cons]
        omega

/-- The same with what `%f` leaves. -/
theorem follows_left_iff (a : List Char) (hleft : left a ≠ []) (ls : List Line) (angle : Bool) :
    Follows afterTurn ((left a ++ unlines ls).drop 1) (commandLines angle ls)
      ↔ left a = ['\n'] ∧ Follows afterTurn (unlines ls) (commandLines angle ls) := by
  obtain ⟨rest, hrest⟩ := (left_cases a).resolve_left hleft
  rw [hrest, List.append_assoc, List.singleton_append, follows_rest_iff]
  simp

/-- With the angle read, the line that was meant for it is one too many. -/
theorem follows_angle_iff (ls : List Line) :
    Follows afterTurn (unlines ls) (commandLines true ls) ↔ ls = [] := by
  cases ls with
  | nil => exact iff_of_true ((follows_nil_iff _ _).mpr rfl) rfl
  | cons a ls =>
      refine iff_of_false ?_ (List.cons_ne_nil a ls)
      exact not_follows_of_length _ _ _ (unlines_cons_ne_nil a ls)
        (commandLines_length_lt false a ls)

/-- With the line end lost, what is dropped is the next one, if its line is empty, and
else the first character of a line. -/
theorem follows_dropped_iff (l : Line) (ls : List Line) (angle : Bool) :
    Follows afterTurn ((unlines (l :: ls)).drop 1) (commandLines angle (l :: ls))
      ↔ l.val = [] ∧ Follows afterTurn (unlines ls) (commandLines false ls) := by
  rw [unlines_cons]
  cases hl : l.val with
  | nil =>
      have hlines : commandLines angle (l :: ls) = commandLines false ls := by
        cases angle with
        | true => rfl
        | false => rw [commandLines, if_pos hl]
      rw [hlines]
      exact (and_iff_right rfl).symm
  | cons c cs =>
      refine iff_of_false ?_ (fun h => absurd h.1 (List.cons_ne_nil c cs))
      show ¬ Follows afterTurn (cs ++ '\n' :: unlines ls) _
      cases angle with
      | true =>
          apply not_follows_of_length
          · exact List.append_ne_nil_of_right_ne_nil cs (List.cons_ne_nil _ _)
          · intro p hp
            have hle := commandLines_length false ls p hp
            rw [List.length_append, List.length_cons]
            omega
      | false =>
          rw [commandLines, if_neg (by rw [hl]; exact List.cons_ne_nil c cs)]
          apply not_follows_of_past
          rw [unlines_cons_length, hl, List.length_append, List.length_cons, List.length_cons]
          omega

theorem behindAngle_of_blank (l : Line) (ls : List Line) (h : Blank l.val) :
    behindAngle (l :: ls) = behindAngle ls := by
  unfold behindAngle
  rw [unlines_cons, scanf_f_of_blank _ _ h]

theorem behindAngle_of_not_blank (l : Line) (ls : List Line) (h : ¬ Blank l.val) :
    behindAngle (l :: ls) = (left l.val ++ unlines ls).drop 1 := by
  unfold behindAngle
  rw [unlines_cons, scanf_f_of_not_blank _ _ h]

theorem behindAngle_length (l : Line) (ls : List Line) :
    (behindAngle (l :: ls)).length < (unlines (l :: ls)).length := by
  have hle := (scanf_f_suffix (unlines (l :: ls))).length_le
  have hlen := unlines_cons_length l ls
  unfold behindAngle
  rw [List.length_drop]
  omega

/-- With a blank angle, `%f` goes on to the next line that is not empty, and the
command on that line is lost. -/
theorem follows_blank_iff (ls : List Line) :
    Follows afterTurn (behindAngle ls) (commandLines false ls) ↔ ∀ m ∈ ls, m.val = [] := by
  induction ls with
  | nil =>
      refine iff_of_true ((follows_nil_iff _ _).mpr rfl) ?_
      simp
  | cons m ls ih =>
      by_cases hempty : m.val = []
      · have hblank : Blank m.val := by
          rw [hempty]
          exact blank_nil
        rw [behindAngle_of_blank m ls hblank, commandLines, if_pos hempty, ih, List.forall_mem_cons,
          and_iff_right hempty]
      · rw [commandLines, if_neg hempty]
        refine iff_of_false ?_ (fun h => hempty (h m List.mem_cons_self))
        exact not_follows_of_past _ _ _ _ (behindAngle_length m ls)

/-- The end of an empty line is read as a key. -/
theorem not_follows_empty (l : Line) (ls : List Line) (h : l.val = []) :
    ¬ Follows afterTurn (unlines (l :: ls)) (commandLines false (l :: ls)) := by
  rw [commandLines, if_pos h]
  exact not_follows_of_length _ _ _ (unlines_cons_ne_nil l ls) (commandLines_length_lt false l ls)

/-- A key that is read in its place: the rest is up to what its turn leaves. -/
theorem follows_command_iff (l : Line) (ls : List Line) (key : Char) (rest : List Char)
    (hl : l.val = key :: rest) :
    Follows afterTurn (unlines (l :: ls)) (commandLines false (l :: ls))
      ↔ Follows afterTurn
          ((if command (some key) = .rotateServo then (scanf_f (rest ++ '\n' :: unlines ls)).2
            else rest ++ '\n' :: unlines ls).drop 1)
          (commandLines (decide (command (some key) = .rotateServo)) ls) := by
  have hline : unlines (l :: ls) = key :: (rest ++ '\n' :: unlines ls) := by
    rw [unlines_cons, hl]
    rfl
  have hne : l.val ≠ [] := by
    rw [hl]
    exact List.cons_ne_nil key rest
  have hrotates : rotates l = decide (command (some key) = .rotateServo) := by
    unfold rotates
    rw [hl]
    rfl
  rw [commandLines, if_neg hne, hline, follows_cons_iff, and_iff_right rfl, hrotates]
  rfl

/-- The turns start at the command lines exactly if the lines keep the readers in step,
whichever of them has its turn. The induction is on the lines. -/
theorem follows_iff (ls : List Line) :
    (Follows afterTurn (unlines ls) (commandLines false ls) ↔ InStep .key ls)
      ∧ (Follows afterTurn (behindAngle ls) (commandLines true ls) ↔ InStep .angle ls)
      ∧ ∀ angle, Follows afterTurn ((unlines ls).drop 1) (commandLines angle ls)
          ↔ InStep .dropped ls := by
  induction ls with
  | nil =>
      have hnil : ∀ angle, commandLines angle [] = [] := fun angle => by cases angle <;> rfl
      refine ⟨?_, ?_, fun angle => ?_⟩
      · exact iff_of_true ((follows_nil_iff _ _).mpr (hnil false)) trivial
      · exact iff_of_true ((follows_nil_iff _ _).mpr (hnil true)) trivial
      · exact iff_of_true ((follows_nil_iff _ _).mpr (hnil angle)) trivial
  | cons l ls ih =>
      obtain ⟨hkey, hangle, hdropped⟩ := ih
      refine ⟨?_, ?_, fun angle => ?_⟩
      · unfold InStep
        cases hl : l.val with
        | nil => exact iff_of_false (not_follows_empty l ls hl) not_false
        | cons key rest =>
            rw [follows_command_iff l ls key rest hl]
            dsimp only
            by_cases hrotate : command (some key) = .rotateServo
            · rw [if_pos hrotate, if_pos hrotate, decide_eq_true hrotate]
              by_cases hblank : Blank rest
              · -- nothing on this line: the angle is read from the next
                rw [if_pos hblank, scanf_f_of_blank _ _ hblank]
                exact hangle
              · -- the angle is read from this line
                rw [if_neg hblank, scanf_f_of_not_blank _ _ hblank]
                by_cases hleft : left rest = []
                · rw [if_pos hleft, hleft]
                  exact hdropped true
                · rw [if_neg hleft, follows_left_iff _ hleft, follows_angle_iff]
            · rw [if_neg hrotate, if_neg hrotate, decide_eq_false hrotate, ← hkey]
              exact follows_rest_iff rest ls false
      · unfold InStep
        by_cases hblank : Blank l.val
        · -- the lines behind are searched for an angle
          rw [if_pos hblank, behindAngle_of_blank l ls hblank]
          exact follows_blank_iff ls
        · rw [if_neg hblank, behindAngle_of_not_blank l ls hblank]
          by_cases hleft : left l.val = []
          · rw [if_pos hleft, hleft]
            exact hdropped false
          · rw [if_neg hleft, ← hkey]
            exact follows_left_iff _ hleft ls false
      · rw [follows_dropped_iff, hkey]
        rfl

/-! ## The law -/

/-- The keys are read at the command lines if and only if the lines keep the readers
in step; and then the commands served are the commands meant. -/
theorem oneCommandPerLine_iff [Nonempty α] (lines : List Line) :
    (OneCommandPerLine α lines ↔ InStep .key lines)
      ∧ (InStep .key lines → ∀ (s : State α) (spins : List (List (Callback α))),
          s.stdin = unlines lines →
          (selectedKeys (spins.foldl menuBranch s)).filterMap id
            = (selectedKeys s).filterMap id ++ (commandsOf false lines).take spins.length) := by
  have hfollows : Follows afterTurn (unlines lines) (commandLines false lines)
      ↔ InStep .key lines := (follows_iff lines).1
  refine ⟨(oneCommandPerLine_iff_follows lines).trans hfollows, ?_⟩
  intro h s spins hstdin
  have hkeys : keysRead s spins = (commandLines false lines).take spins.length := by
    rw [keysRead_eq, hstdin]
    exact hfollows.mpr h spins.length
  rw [selectedKeys_run, hkeys, commandLines_take_head]

/-- A scan, a rotation by 90 degrees, and the cloud saved. -/
def oneKeyLines : List Line :=
  [⟨['g'], by decide⟩, ⟨['r'], by decide⟩, ⟨['9', '0'], by decide⟩, ⟨['s'], by decide⟩]

theorem oneCommandPerLine_iff_oneKeyLines :
    InStep .key oneKeyLines
      ∧ (selectedKeys ([[], [], [], []].foldl menuBranch
          (State.initial none (unlines oneKeyLines) : State ℕ))).filterMap id
        = ['g', 'r', 's'] := by
  have hstep : InStep .key oneKeyLines := by
    have hangle : ¬ Blank ['9', '0'] := by decide
    have hleft : left ['9', '0'] = ['\n'] := by decide +kernel
    simp [oneKeyLines, InStep, command, hangle, hleft]
  exact ⟨hstep, (oneCommandPerLine_iff oneKeyLines).2 hstep _ [[], [], [], []] rfl⟩

/-- A word, and a command behind it. -/
def wordLines : List Line := [⟨['g', 'o'], by decide⟩, ⟨['x'], by decide⟩]

/-- The `x` is dropped as the character behind a key. -/
theorem oneCommandPerLine_fails :
    (¬ ∀ lines, OneCommandPerLine ℕ lines)
      ∧ ¬ ∀ lines c (spins : List (List (Callback ℕ))),
          SavesReturn (State.initial c (unlines lines)) spins →
          (selectedKeys (spins.foldl menuBranch (State.initial c (unlines lines)))).filterMap id
            = (commandsOf false lines).take spins.length := by
  -- nothing is saved
  have hsaves : SavesReturn (State.initial none (unlines wordLines) : State ℕ) [[], [], []] :=
    ⟨by decide +kernel, by decide +kernel, by decide +kernel, trivial⟩
  refine ⟨?_, ?_⟩
  · intro h
    have hkeys := h wordLines (State.initial none (unlines wordLines)) [[], [], []] rfl hsaves
    revert hkeys
    decide +kernel
  · intro h
    have hkeys := h wordLines none [[], [], []] hsaves
    revert hkeys
    decide +kernel

end Sonar3D.Testfinal
