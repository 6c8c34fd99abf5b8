/-
A character stream with one character of push-back.

Characters arrive at the end; `getchar` takes the one that was pushed back, or
else the first that has arrived, and does not wait for one; `ungetc` puts a
character back if the place for it is free. What a program can still read is
`unread`, and the lemmas are about it: a program that only looks at the stream,
with `getchar` and then `ungetc`, never shortens it.
-/
import Mathlib.Data.List.Basic

set_option autoImplicit false

namespace Sonar3D.KeyStream

variable {κ : Type*}

/-- The stream as its reader has it. -/
structure Stream (κ : Type*) where
  pushed : Option κ
  arrived : List κ

def Stream.empty : Stream κ := ⟨none, []⟩

def Stream.unread (s : Stream κ) : List κ := s.pushed.toList ++ s.arrived

def Stream.arrive (s : Stream κ) (cs : List κ) : Stream κ := { s with arrived := s.arrived ++ cs }

/-- The next character, if there is one. -/
def Stream.getchar (s : Stream κ) : Option κ × Stream κ :=
  match s.pushed, s.arrived with
  | some c, cs => (some c, ⟨none, cs⟩)
  | none, c :: cs => (some c, ⟨none, cs⟩)
  -- non-blocking: with nothing there the call returns at once
  | none, [] => (none, s)

/-- Push `c` back; with the place taken, the call fails and changes nothing. -/
def Stream.ungetc (s : Stream κ) (c : κ) : Stream κ :=
  match s.pushed with
  | none => { s with pushed := some c }
  | some _ => s

@[simp] theorem Stream.unread_arrive (s : Stream κ) (cs : List κ) :
    (s.arrive cs).unread = s.unread ++ cs := (List.append_assoc ..).symm

/-- `getchar` finds nothing exactly on a stream with nothing unread, and leaves
it as it was. -/
theorem Stream.getchar_eq_none_iff (s : Stream κ) :
    s.getchar = (none, s) ↔ s.unread = [] := by
  obtain ⟨pushed, arrived⟩ := s
  unfold Stream.getchar Stream.unread
  cases pushed <;> cases arrived <;> simp

/-- Otherwise it takes the first character, and frees the place of the one pushed
back. -/
theorem Stream.getchar_of_unread (s : Stream κ) (c : κ) (cs : List κ) (h : s.unread = c :: cs) :
    s.getchar = (some c, ⟨none, cs⟩) := by
  obtain ⟨pushed, arrived⟩ := s
  unfold Stream.unread at h
  unfold Stream.getchar
  cases pushed with
  | some p =>
      obtain ⟨rfl, rfl⟩ := List.cons.inj h
      rfl
  | none =>
      have harrived : arrived = c :: cs := h
      rw [harrived]

/-- A character put back where it was taken from: nothing has happened to what
is unread. -/
theorem Stream.unread_ungetc (c : κ) (cs : List κ) :
    (Stream.ungetc ⟨none, cs⟩ c).unread = c :: cs := rfl

end Sonar3D.KeyStream
