/-
A loop that runs until a key is pressed.

`while(!kbhit()) body`, with a `kbhit` that looks at the keyboard and takes nothing
from it. What the loop has done is decided by the polls before the first one that
finds a key: its body ran once for each of them, and for no other. The body, what it
reads in an iteration, and the way to look are parameters.
-/
import Sonar3D.KeyStream

set_option autoImplicit false

namespace Sonar3D.KeyLoop

open Sonar3D.KeyStream

variable {κ σ ι : Type*}

/-- The loop: the keyboard, whether it has been left, and what its body works on. -/
structure Loop (κ σ : Type*) where
  stdin : Stream κ
  finished : Bool
  vars : σ

def Loop.start (s : σ) : Loop κ σ := ⟨Stream.empty, false, s⟩

/-- One iteration: the keys pressed since the last poll, the poll, and the body
unless it found one. -/
def Loop.step (kbhit : Stream κ → Bool × Stream κ) (keys : ι → List κ) (body : σ → ι → σ)
    (l : Loop κ σ) (it : ι) : Loop κ σ :=
  if l.finished then { l with stdin := l.stdin.arrive (keys it) }
  else
    let (hit, stdin) := kbhit (l.stdin.arrive (keys it))
    if hit then { l with stdin, finished := true }
    else { l with stdin, vars := body l.vars it }

/-- The iterations before the first one that finds a key. -/
def quiet (keys : ι → List κ) (its : List ι) : List ι :=
  its.takeWhile (fun it => (keys it).isEmpty)

/-- `kbhit` looks, and takes nothing. -/
def Looks (kbhit : Stream κ → Bool × Stream κ) : Prop :=
  ∀ s, ((kbhit s).1 = true ↔ s.unread ≠ []) ∧ (kbhit s).2.unread = s.unread

variable {kbhit : Stream κ → Bool × Stream κ} (keys : ι → List κ) (body : σ → ι → σ)

theorem foldl_step_finished (l : Loop κ σ) (its : List ι) (h : l.finished = true) :
    (its.foldl (Loop.step kbhit keys body) l).finished = true
      ∧ (its.foldl (Loop.step kbhit keys body) l).vars = l.vars := by
  induction its generalizing l with
  | nil => exact ⟨h, rfl⟩
  | cons it its ih =>
      have hstep : Loop.step kbhit keys body l it = { l with stdin := l.stdin.arrive (keys it) } :=
        if_pos h
      rw [List.foldl_cons, hstep]
      exact ih _ h

theorem step_of_key (hlooks : Looks kbhit) (l : Loop κ σ) (it : ι) (h : l.finished = false)
    (hkey : keys it ≠ []) :
    (Loop.step kbhit keys body l it).finished = true
      ∧ (Loop.step kbhit keys body l it).vars = l.vars := by
  have hhit : (kbhit (l.stdin.arrive (keys it))).1 = true := by
    rw [(hlooks _).1, Stream.unread_arrive]
    simp [hkey]
  unfold Loop.step
  rw [if_neg (by simp [h])]
  dsimp only
  rw [if_pos hhit]
  exact ⟨rfl, rfl⟩

theorem step_of_no_key (hlooks : Looks kbhit) (l : Loop κ σ) (it : ι) (h : l.finished = false)
    (hunread : l.stdin.unread = []) (hnone : keys it = []) :
    (Loop.step kbhit keys body l it).finished = false
      ∧ (Loop.step kbhit keys body l it).stdin.unread = []
      ∧ (Loop.step kbhit keys body l it).vars = body l.vars it := by
  have hempty : (l.stdin.arrive (keys it)).unread = [] := by
    rw [Stream.unread_arrive, hunread, hnone, List.append_nil]
  obtain ⟨hhit, hkeep⟩ := hlooks (l.stdin.arrive (keys it))
  have hmiss : (kbhit (l.stdin.arrive (keys it))).1 = false := by
    rw [Bool.eq_false_iff, ne_eq, hhit, not_not]
    exact hempty
  unfold Loop.step
  rw [if_neg (by simp [h])]
  dsimp only
  rw [if_neg (by simp [hmiss])]
  exact ⟨h, hkeep.trans hempty, rfl⟩

theorem foldl_step (hlooks : Looks kbhit) (l : Loop κ σ) (its : List ι) (h : l.finished = false)
    (hunread : l.stdin.unread = []) :
    ((its.foldl (Loop.step kbhit keys body) l).finished = true ↔ ∃ it ∈ its, keys it ≠ [])
      ∧ (its.foldl (Loop.step kbhit keys body) l).vars = (quiet keys its).foldl body l.vars := by
  induction its generalizing l with
  | nil => simp [h, quiet]
  | cons it its ih =>
      rw [List.foldl_cons]
      by_cases hkey : keys it = []
      · obtain ⟨hfin, hunread', hvars⟩ := step_of_no_key keys body hlooks l it h hunread hkey
        obtain ⟨hend, hrest⟩ := ih _ hfin hunread'
        have hquiet : quiet keys (it :: its) = it :: quiet keys its := by simp [quiet, hkey]
        rw [hend, hrest, hvars, hquiet]
        exact ⟨by simp [hkey], rfl⟩
      · obtain ⟨hfin, hvars⟩ := step_of_key keys body hlooks l it h hkey
        obtain ⟨hend, hrest⟩ := foldl_step_finished keys body _ its hfin
        have hquiet : quiet keys (it :: its) = [] := by simp [quiet, hkey]
        rw [hrest, hvars, hquiet]
        exact ⟨iff_of_true hend ⟨it, List.mem_cons_self, hkey⟩, rfl⟩

/-- The loop is left exactly when a key has been pressed, and its body has run for
the iterations before. -/
theorem run_spec (hlooks : Looks kbhit) (s : σ) (its : List ι) :
    ((its.foldl (Loop.step kbhit keys body) (Loop.start s)).finished = true
        ↔ ∃ it ∈ its, keys it ≠ [])
      ∧ (its.foldl (Loop.step kbhit keys body) (Loop.start s)).vars
          = (quiet keys its).foldl body s :=
  foldl_step keys body hlooks (Loop.start s) its rfl rfl

end Sonar3D.KeyLoop
