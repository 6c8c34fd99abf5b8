/-
Input lines, and where a reader starts over.

A line is a list of characters without a line end, and an input is a sequence of
lines, each with its line end behind it. A reader goes through its input in rounds:
a round takes something off the front and leaves the rest for the next one. Where
the rounds start is a list of inputs, the rests themselves, and that list is compared
with the places at which a round is meant to start. As long as a reader can only go
forward, a place that is behind where it is can not be one of its starts.
-/
import Mathlib.Data.List.Basic

set_option autoImplicit false

namespace Sonar3D.Lines

variable {β : Type*}

/-! ## Lines -/

/-- A line, without its end. -/
abbrev Line := {chars : List Char // '\n' ∉ chars}

def unlines : List Line → List Char
  | [] => []
  | l :: ls => l.val ++ '\n' :: unlines ls

theorem unlines_cons (l : Line) (ls : List Line) :
    unlines (l :: ls) = l.val ++ '\n' :: unlines ls := rfl

theorem unlines_cons_length (l : Line) (ls : List Line) :
    (unlines (l :: ls)).length = l.val.length + (unlines ls).length + 1 := by
  rw [unlines_cons, List.length_append, List.length_cons]
  omega

theorem unlines_cons_ne_nil (l : Line) (ls : List Line) : unlines (l :: ls) ≠ [] := by
  intro h
  have hlen := unlines_cons_length l ls
  rw [h, List.length_nil] at hlen
  omega

/-! ## Rounds of a reader -/

/-- Where the first `n` rounds start that find something to read, `next` being what
a round leaves. -/
def starts (next : List β → List β) : ℕ → List β → List (List β)
  | 0, _ => []
  | _ + 1, [] => []
  | n + 1, b :: bs => (b :: bs) :: starts next n (next (b :: bs))

/-- The rounds start at `places` and nowhere else. -/
def Follows (next : List β → List β) (input : List β) (places : List (List β)) : Prop :=
  ∀ n, starts next n input = places.take n

theorem follows_nil_iff (next : List β → List β) (places : List (List β)) :
    Follows next [] places ↔ places = [] := by
  constructor
  · intro h
    have hone := h 1
    cases places with
    | nil => rfl
    | cons p ps => simp [starts] at hone
  · rintro rfl n
    cases n <;> rfl

theorem follows_cons_iff (next : List β → List β) (b : β) (bs p : List β)
    (places : List (List β)) :
    Follows next (b :: bs) (p :: places)
      ↔ p = b :: bs ∧ Follows next (next (b :: bs)) places := by
  constructor
  · intro h
    have hone := h 1
    have hfirst : p = b :: bs := by simpa [starts, eq_comm] using hone
    refine ⟨hfirst, ?_⟩
    intro n
    have hsucc := h (n + 1)
    unfold starts at hsucc
    rw [List.take_succ_cons] at hsucc
    exact (List.cons.inj hsucc).2
  · rintro ⟨rfl, h⟩ n
    cases n with
    | zero => rfl
    | succ n =>
        rw [starts, List.take_succ_cons, h n]

/-- A reader that has something to read, with every place behind it, misses them
all. -/
theorem not_follows_of_length (next : List β → List β) (input : List β)
    (places : List (List β)) (hne : input ≠ [])
    (hlt : ∀ p ∈ places, p.length < input.length) : ¬ Follows next input places := by
  intro h
  have hone := h 1
  cases input with
  | nil => exact hne rfl
  | cons b bs =>
      cases places with
      | nil => simp [starts] at hone
      | cons p ps =>
          have hfirst := ((follows_cons_iff next b bs p ps).mp h).1
          have hlen := hlt p List.mem_cons_self
          rw [hfirst] at hlen
          exact Nat.lt_irrefl _ hlen

/-- A reader that is past the first place misses that one. -/
theorem not_follows_of_past (next : List β → List β) (input p : List β)
    (places : List (List β)) (hlt : input.length < p.length) :
    ¬ Follows next input (p :: places) := by
  intro h
  cases input with
  | nil => exact absurd ((follows_nil_iff next _).mp h) (List.cons_ne_nil p places)
  | cons b bs =>
      have hfirst := ((follows_cons_iff next b bs p places).mp h).1
      rw [hfirst] at hlt
      exact Nat.lt_irrefl _ hlt

end Sonar3D.Lines
