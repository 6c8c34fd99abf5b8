/-
The node `Sonar`: `main`, between the key presses.

`main` waits in one loop until `kbhit()` returns 1, and then calls `receive()`
and publishes in a second one until `kbhit()` returns 1 again: the first key is
to start the sonar and the second one to shut it down. `kbhit` reads a character
without waiting and puts it back, so it never takes a key off the stream.

`Session` is that purpose: the same two loops, over the number of keys pressed.
In the program the key that ends the first loop is still there for the first
`kbhit` of the second one, so `main` leaves the second loop before its body has
run once, and does what it is for only if the second key comes that fast.
-/
import Sonar3D.KeyStream
import Sonar3D.Runs
import Sonar3D.SonarReceive

set_option autoImplicit false

namespace Sonar3D.Sonar

open Sonar3D.KeyStream Sonar3D.Runs

/-! ## The program -/

def kbhit (stdin : Stream Char) : Bool × Stream Char :=
  match stdin.getchar with
  | (some ch, stdin) => (true, stdin.ungetc ch)
  | (none, stdin) => (false, stdin)

/-- Where `main` is: in `while(!kbhit())` before the scan, in the one that
receives, or after both. -/
inductive Phase where
  | waiting
  | acquiring
  | finished
deriving DecidableEq

/-- What happens around one iteration of either loop: the keys pressed since the
last `kbhit`, and what `receive()` is delivered if the iteration calls it. -/
structure Iteration where
  keys : List Char
  delivery : Delivery

/-- The state `main` runs on; a published cloud is kept as its beams. -/
structure State where
  stdin : Stream Char
  phase : Phase
  buf : ReceiveBuf
  published : List (List Beam)

def State.initial : State where
  stdin := Stream.empty
  phase := Phase.waiting
  buf := ReceiveBuf.initial
  published := []

/-- One iteration of the loop `main` is in. -/
def step (s : State) (it : Iteration) : State :=
  let (hit, stdin) := kbhit (s.stdin.arrive it.keys)
  match s.phase, hit with
  -- `while(!kbhit())`, the body of which prints the prompt
  | Phase.waiting, false => { s with stdin }
  | Phase.waiting, true => { s with stdin, phase := Phase.acquiring }
  -- `msg=receive()`, `sonar_pub.publish(msg)`
  | Phase.acquiring, false =>
      { s with stdin, buf := afterRecv s.buf it.delivery,
               published := s.published ++ [beams s.buf it.delivery] }
  | Phase.acquiring, true => { s with stdin, phase := Phase.finished }
  | Phase.finished, _ => { s with stdin }

/-! ## The purpose -/

/-- A session with the sonar, as the two prompts announce it. -/
structure Session where
  keys : ℕ
  phase : Phase
  buf : ReceiveBuf
  published : List (List Beam)

def Session.initial : Session where
  keys := 0
  phase := Phase.waiting
  buf := ReceiveBuf.initial
  published := []

/-- The first key starts it and the second one ends it; in between every
iteration publishes a cloud. -/
def Session.step (s : Session) (it : Iteration) : Session :=
  let keys := s.keys + it.keys.length
  match s.phase with
  | Phase.waiting => { s with keys, phase := if 1 ≤ keys then Phase.acquiring else Phase.waiting }
  | Phase.acquiring =>
      if 2 ≤ keys then { s with keys, phase := Phase.finished }
      else { s with keys, buf := afterRecv s.buf it.delivery,
                    published := s.published ++ [beams s.buf it.delivery] }
  | Phase.finished => { s with keys }

/-- The keys pressed in the first `n` iterations. -/
def keysBy (its : List Iteration) (n : ℕ) : List Char := (its.take n).flatMap Iteration.keys

theorem keysBy_succ (its : List Iteration) (n : ℕ) (h : n < its.length) :
    keysBy its (n + 1) = keysBy its n ++ its[n].keys := by
  unfold keysBy
  rw [List.take_succ_eq_append_getElem h, List.flatMap_append, List.flatMap_singleton]

def mainAt (its : List Iteration) (n : ℕ) : State := stateAt step State.initial its n

def sessionAt (its : List Iteration) (n : ℕ) : Session :=
  stateAt Session.step Session.initial its n

theorem mainAt_succ (its : List Iteration) (n : ℕ) (h : n < its.length) :
    mainAt its (n + 1) = step (mainAt its n) its[n] := stateAt_succ _ _ _ _ h

theorem sessionAt_succ (its : List Iteration) (n : ℕ) (h : n < its.length) :
    sessionAt its (n + 1) = (sessionAt its n).step its[n] := stateAt_succ _ _ _ _ h

/-- One iteration of a session, loop by loop. -/
theorem Session.step_keys (s : Session) (it : Iteration) :
    (s.step it).keys = s.keys + it.keys.length := by
  unfold Session.step
  dsimp only
  split
  · rfl
  · split <;> rfl
  · rfl

theorem Session.step_first (s : Session) (it : Iteration) (h : s.phase = Phase.waiting) :
    (s.step it).phase
        = (if 1 ≤ s.keys + it.keys.length then Phase.acquiring else Phase.waiting)
      ∧ (s.step it).published = s.published := by
  unfold Session.step
  rw [h]
  exact ⟨rfl, rfl⟩

theorem Session.step_between (s : Session) (it : Iteration) (h : s.phase = Phase.acquiring)
    (hone : s.keys + it.keys.length < 2) :
    (s.step it).phase = Phase.acquiring
      ∧ (s.step it).published = s.published ++ [beams s.buf it.delivery] := by
  unfold Session.step
  rw [h]
  dsimp only
  rw [if_neg (Nat.not_le.mpr hone)]
  exact ⟨rfl, rfl⟩

theorem Session.step_second (s : Session) (it : Iteration) (h : s.phase = Phase.acquiring)
    (htwo : 2 ≤ s.keys + it.keys.length) :
    (s.step it).phase = Phase.finished ∧ (s.step it).published = s.published := by
  unfold Session.step
  rw [h]
  dsimp only
  rw [if_pos htwo]
  exact ⟨rfl, rfl⟩

theorem Session.step_over (s : Session) (it : Iteration) (h : s.phase = Phase.finished) :
    (s.step it).phase = Phase.finished ∧ (s.step it).published = s.published := by
  unfold Session.step
  rw [h]
  exact ⟨rfl, rfl⟩

/-- The session knows how many keys have been pressed. -/
theorem Session.keys_sessionAt (its : List Iteration) (n : ℕ) (hn : n ≤ its.length) :
    (sessionAt its n).keys = (keysBy its n).length := by
  induction n with
  | zero => rfl
  | succ n ih =>
      rw [sessionAt_succ its _ hn, Session.step_keys, ih (Nat.le_of_succ_le hn),
        keysBy_succ its n hn, List.length_append]

/-- It waits until there is one. -/
theorem Session.waits (its : List Iteration) (n : ℕ) (hn : n ≤ its.length)
    (hnone : keysBy its n = []) :
    (sessionAt its n).phase = Phase.waiting
      ∧ (sessionAt its n).published = [] := by
  induction n with
  | zero => exact ⟨rfl, rfl⟩
  | succ n ih =>
      have hkeys := Session.keys_sessionAt its n (Nat.le_of_succ_le hn)
      rw [keysBy_succ its n hn, List.append_eq_nil_iff] at hnone
      obtain ⟨hwait, hpub⟩ := ih (Nat.le_of_succ_le hn) hnone.1
      obtain ⟨hphase, hsame⟩ := Session.step_first _ its[n] hwait
      rw [hkeys, hnone.1, hnone.2, List.length_nil, if_neg (by norm_num)] at hphase
      rw [sessionAt_succ its _ hn]
      exact ⟨hphase, hsame.trans hpub⟩

/-- Then it publishes a cloud an iteration, as long as there is no second one:
`n` iterations after the first key, `n` clouds. -/
theorem Session.publishes (its : List Iteration) (t n : ℕ) (hlen : t + 1 + n ≤ its.length)
    (hnone : keysBy its t = []) (hfirst : keysBy its (t + 1) ≠ [])
    (hone : n = 0 ∨ (keysBy its (t + 1 + n)).length < 2) :
    (sessionAt its (t + 1 + n)).phase = Phase.acquiring
      ∧ (sessionAt its (t + 1 + n)).published.length = n := by
  induction n with
  | zero =>
      -- the iteration that finds the first key
      have ht : t < its.length := by omega
      obtain ⟨hwait, hpub⟩ := Session.waits its t (by omega) hnone
      obtain ⟨hphase, hsame⟩ := Session.step_first _ its[t] hwait
      have hpressed : 1 ≤ (keysBy its (t + 1)).length := List.length_pos_iff.mpr hfirst
      rw [keysBy_succ its t ht, List.length_append] at hpressed
      rw [Session.keys_sessionAt its t (by omega), if_pos hpressed] at hphase
      rw [Nat.add_zero, sessionAt_succ its t ht, hsame, hpub]
      exact ⟨hphase, rfl⟩
  | succ n ih =>
      -- one more iteration of the second loop
      have hn : t + 1 + n < its.length := by omega
      rw [or_iff_right (Nat.succ_ne_zero n), ← Nat.add_assoc, keysBy_succ its _ hn,
        List.length_append] at hone
      obtain ⟨hacq, hpub⟩ := ih (by omega) (Or.inr (by omega))
      have hkeys := Session.keys_sessionAt its (t + 1 + n) (by omega)
      obtain ⟨hphase, hmore⟩ := Session.step_between _ its[t + 1 + n] hacq (by omega)
      rw [← Nat.add_assoc, sessionAt_succ its _ hn, hmore, List.length_append, hpub]
      exact ⟨hphase, rfl⟩

/-- And the second key ends it with these. -/
theorem Session.ends (its : List Iteration) (t n : ℕ) (hlen : t + 1 + n < its.length)
    (hnone : keysBy its t = []) (hfirst : keysBy its (t + 1) ≠ [])
    (hone : n = 0 ∨ (keysBy its (t + 1 + n)).length < 2)
    (hsecond : 2 ≤ (keysBy its (t + 1 + n + 1)).length) :
    (sessionAt its (t + 1 + n + 1)).phase = Phase.finished
      ∧ (sessionAt its (t + 1 + n + 1)).published.length = n := by
  obtain ⟨hacq, hpub⟩ := Session.publishes its t n (by omega) hnone hfirst hone
  have hkeys := Session.keys_sessionAt its (t + 1 + n) (by omega)
  rw [keysBy_succ its _ hlen, List.length_append] at hsecond
  obtain ⟨hphase, hsame⟩ := Session.step_second _ its[t + 1 + n] hacq (by omega)
  rw [sessionAt_succ its _ hlen, hsame]
  exact ⟨hphase, hpub⟩

/-! ## What the program does -/

/-- `kbhit` looks, and takes nothing: it returns 1 as long as there is a key, and
what is unread stays. -/
theorem kbhit_spec (stdin : Stream Char) :
    ((kbhit stdin).1 = true ↔ stdin.unread ≠ []) ∧ (kbhit stdin).2.unread = stdin.unread := by
  unfold kbhit
  cases hunread : stdin.unread with
  | nil =>
      rw [(stdin.getchar_eq_none_iff).mpr hunread]
      exact ⟨by simp, hunread⟩
  | cons c cs =>
      -- the character read is pushed back where it was
      rw [stdin.getchar_of_unread c cs hunread]
      exact ⟨by simp, Stream.unread_ungetc c cs⟩

/-- The keys of an iteration are added to those unread, and none is taken. -/
theorem step_stdin (s : State) (it : Iteration) :
    (step s it).stdin.unread = s.stdin.unread ++ it.keys := by
  have hpeek := (kbhit_spec (s.stdin.arrive it.keys)).2
  rw [Stream.unread_arrive] at hpeek
  unfold step
  dsimp only
  split <;> exact hpeek

theorem step_of_no_key (s : State) (it : Iteration) (h : s.stdin.unread ++ it.keys = [])
    (hwait : s.phase = Phase.waiting) :
    (step s it).phase = Phase.waiting ∧ (step s it).published = s.published := by
  have hmiss : (kbhit (s.stdin.arrive it.keys)).1 = false := by
    rw [Bool.eq_false_iff, ne_eq, (kbhit_spec _).1, Stream.unread_arrive, not_not]
    exact h
  unfold step
  dsimp only
  rw [hmiss, hwait]
  exact ⟨rfl, rfl⟩

/-- A key that is unread takes `main` one loop further, whichever it is in. -/
theorem step_of_key (s : State) (it : Iteration) (h : s.stdin.unread ++ it.keys ≠ []) :
    (step s it).published = s.published
      ∧ (step s it).phase = (match s.phase with
          | Phase.waiting => Phase.acquiring
          | Phase.acquiring => Phase.finished
          | Phase.finished => Phase.finished) := by
  have hhit : (kbhit (s.stdin.arrive it.keys)).1 = true := by
    rw [(kbhit_spec _).1, Stream.unread_arrive]
    exact h
  unfold step
  dsimp only
  rw [hhit]
  cases s.phase <;> exact ⟨rfl, rfl⟩

/-- No key is ever taken off the stream. -/
theorem unread_mainAt (its : List Iteration) (n : ℕ) (hn : n ≤ its.length) :
    (mainAt its n).stdin.unread = keysBy its n := by
  induction n with
  | zero => rfl
  | succ n ih =>
      rw [mainAt_succ its n hn, step_stdin, ih (Nat.le_of_succ_le hn), keysBy_succ its n hn]

/-- What holds whenever `main` is at a loop head: it has published nothing, it
waits only while no key has been pressed, and past the first loop one has. -/
structure NothingPublished (s : State) : Prop where
  published : s.published = []
  waiting_iff : s.phase = Phase.waiting ↔ s.stdin.unread = []

theorem step_nothingPublished (s : State) (it : Iteration) (h : NothingPublished s) :
    NothingPublished (step s it) := by
  by_cases hkey : s.stdin.unread ++ it.keys = []
  · have hwait := h.waiting_iff.mpr (List.append_eq_nil_iff.mp hkey).1
    obtain ⟨hphase, hpub⟩ := step_of_no_key s it hkey hwait
    exact ⟨hpub.trans h.published, iff_of_true hphase ((step_stdin s it).trans hkey)⟩
  · obtain ⟨hpub, hphase⟩ := step_of_key s it hkey
    refine ⟨hpub.trans h.published, ?_⟩
    rw [step_stdin, hphase]
    exact iff_of_false (by cases s.phase <;> simp) hkey

/-- `main` publishes nothing, whatever is pressed when. -/
theorem nothingPublished_mainAt (its : List Iteration) (n : ℕ) :
    NothingPublished (mainAt its n) := by
  apply stateAt_invariant step State.initial its NothingPublished 0 n (Nat.zero_le n)
  · rw [stateAt_zero]
    exact ⟨rfl, iff_of_true rfl rfl⟩
  · intro k _ _ hk hinv
    exact step_nothingPublished _ its[k] hinv

/-! ## The law -/

/-- `main` acquires from the first key press to the second: at every loop head it
is where the session is, and has published what the session has. -/
def AcquiresFirstToSecond (its : List Iteration) : Prop :=
  ∀ n ≤ its.length,
    (mainAt its n).phase = (sessionAt its n).phase
    ∧ (mainAt its n).published = (sessionAt its n).published

/-- The second key has been pressed by the iteration after the one that finds
the first. -/
def SecondKeyAtOnce (its : List Iteration) : Prop :=
  ∀ t, t + 1 < its.length → keysBy its t = [] → keysBy its (t + 1) ≠ [] →
    2 ≤ (keysBy its (t + 2)).length

/-- With such keys the program and the session go in step, neither with anything
published; `second` is what ends the second loop of the session, too, at once. -/
structure InStep (its : List Iteration) (n : ℕ) : Prop where
  phase_eq : (mainAt its n).phase = (sessionAt its n).phase
  published : (sessionAt its n).published = []
  second : (mainAt its n).phase = Phase.acquiring → n < its.length →
    2 ≤ (keysBy its (n + 1)).length

theorem InStep.of_not_acquiring (its : List Iteration) (n : ℕ) (p : Phase)
    (hp : p ≠ Phase.acquiring) (hmain : (mainAt its n).phase = p)
    (hsession : (sessionAt its n).phase = p) (hpub : (sessionAt its n).published = []) :
    InStep its n :=
  ⟨hmain.trans hsession.symm, hpub, fun hacq => absurd (hmain.symm.trans hacq) hp⟩

/-- An iteration with a key unread takes both one loop further: the program on
the first key, each time, and the session on the first and then the second. -/
theorem InStep.succ_of_key (its : List Iteration) (h : SecondKeyAtOnce its) (n : ℕ)
    (hn : n < its.length) (hstep : InStep its n) (hkey : keysBy its (n + 1) ≠ []) :
    InStep its (n + 1) := by
  obtain ⟨hphase, hpub, hsecond⟩ := hstep
  have hunread := unread_mainAt its n (Nat.le_of_lt hn)
  have hkeys : (sessionAt its n).keys + its[n].keys.length = (keysBy its (n + 1)).length := by
    rw [Session.keys_sessionAt its n (Nat.le_of_lt hn), keysBy_succ its n hn, List.length_append]
  have hnext := (step_of_key (mainAt its n) its[n]
    (by rw [hunread, ← keysBy_succ its n hn]; exact hkey)).2
  rw [← mainAt_succ its n hn] at hnext
  cases hcur : (mainAt its n).phase with
  | waiting =>
      rw [hcur] at hphase hnext
      have hpressed : 1 ≤ (keysBy its (n + 1)).length := List.length_pos_iff.mpr hkey
      obtain ⟨hsession, hsame⟩ := Session.step_first _ its[n] hphase.symm
      rw [hkeys, if_pos hpressed, ← sessionAt_succ its n hn] at hsession
      rw [← sessionAt_succ its n hn] at hsame
      have hnone : keysBy its n = [] :=
        hunread.symm.trans ((nothingPublished_mainAt its n).waiting_iff.mp hcur)
      -- the second key is there for the next iteration
      exact ⟨hnext.trans hsession.symm, hsame.trans hpub, fun _ hlt => h n hlt hnone hkey⟩
  | acquiring =>
      have htwo := hsecond hcur hn
      rw [hcur] at hphase hnext
      obtain ⟨hsession, hsame⟩ := Session.step_second _ its[n] hphase.symm (by rw [hkeys]; exact htwo)
      rw [← sessionAt_succ its n hn] at hsession hsame
      exact InStep.of_not_acquiring its (n + 1) _ (by decide) hnext hsession (hsame.trans hpub)
  | finished =>
      rw [hcur] at hphase hnext
      obtain ⟨hsession, hsame⟩ := Session.step_over _ its[n] hphase.symm
      rw [← sessionAt_succ its n hn] at hsession hsame
      exact InStep.of_not_acquiring its (n + 1) _ (by decide) hnext hsession (hsame.trans hpub)

/-- They are in step at every loop head, by induction on the iterations. -/
theorem inStep_mainAt (its : List Iteration) (h : SecondKeyAtOnce its) (n : ℕ)
    (hn : n ≤ its.length) : InStep its n := by
  induction n with
  | zero => exact InStep.of_not_acquiring its 0 Phase.waiting (by decide) rfl rfl rfl
  | succ n ih =>
      by_cases hkey : keysBy its (n + 1) = []
      · -- no key yet: both wait on
        obtain ⟨hwait, hnothing⟩ := Session.waits its (n + 1) hn hkey
        have hwait' := (nothingPublished_mainAt its (n + 1)).waiting_iff.mpr
          ((unread_mainAt its (n + 1) hn).trans hkey)
        exact InStep.of_not_acquiring its (n + 1) _ (by decide) hwait' hwait hnothing
      · exact InStep.succ_of_key its h n hn (ih (Nat.le_of_succ_le hn)) hkey

/-- `main` acquires from the first key press to the second if and only if the
second one has been pressed by the first iteration of its second loop. -/
theorem acquiresFirstToSecond_iff (its : List Iteration) :
    AcquiresFirstToSecond its ↔ SecondKeyAtOnce its := by
  constructor
  · intro h t ht hnone hfirst
    by_contra hone
    -- then the session publishes a cloud, and the program has none
    obtain ⟨-, hlen⟩ := Session.publishes its t 1 ht hnone hfirst (Or.inr (Nat.not_le.mp hone))
    rw [← (h (t + 1 + 1) ht).2, (nothingPublished_mainAt its (t + 1 + 1)).published] at hlen
    exact absurd hlen (by decide)
  · intro h n hn
    have hstep := inStep_mainAt its h n hn
    exact ⟨hstep.phase_eq,
      (nothingPublished_mainAt its n).published.trans hstep.published.symm⟩

/-- One key, and no other: `main` is through both loops at the second iteration. -/
theorem acquiresFirstToSecond_fails : ¬ ∀ its, AcquiresFirstToSecond its := by
  intro h
  have hphase := (h [⟨['a'], none⟩, ⟨[], none⟩] 2 (Nat.le_refl 2)).1
  revert hphase
  decide

end Sonar3D.Sonar
