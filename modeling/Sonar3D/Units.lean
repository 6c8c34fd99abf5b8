/-
A number and its unit.

A text ends in a unit, and the first unit of a table that occurs in it says how to read
it: the letters of the unit are stripped off the end, the blanks off both ends, and what
is left is divided by the scale of the unit. That the first one that occurs is the one
the text ends in takes an order of the table: each unit has a letter that the units
after it do not have.
-/
import Sonar3D.ScanFloat
import Mathlib.Algebra.Order.Field.Rat
import Mathlib.Data.List.DropRight
import Mathlib.Data.List.Infix

set_option autoImplicit false

namespace Sonar3D.Units

open Sonar3D.ScanFloat

/-- Letters off the end. -/
def rstrip (letters text : List Char) : List Char := text.rdropWhile (fun c => c ∈ letters)

/-- Blanks off both ends. -/
def strip (text : List Char) : List Char := (text.dropWhile isSpace).rdropWhile isSpace

/-- A unit, and how many of it make one of what is asked for. -/
abbrev Table := List (List Char × ℚ)

/-- `none` if no unit occurs, or if `float` does not take the rest. -/
def read (float : List Char → Option ℚ) : Table → List Char → Option ℚ
  | [], _ => none
  | u :: units, text =>
      if u.1 <:+: text then (float (strip (rstrip u.1 text))).map (fun value => value / u.2)
      else read float units text

/-- Each unit has a letter that no unit after it has, and no unit has a blank. -/
structure Table.Ordered (units : Table) : Prop where
  pairwise : units.Pairwise (fun u u' => ∃ c ∈ u.1, c ∉ u'.1)
  letters : ∀ u ∈ units, ∀ c ∈ u.1, isSpace c = false

/-! ## Stripping -/

theorem rdropWhile_append_of_all (p : Char → Bool) (l r : List Char) (h : ∀ c ∈ r, p c = true) :
    (l ++ r).rdropWhile p = l.rdropWhile p := by
  unfold List.rdropWhile
  rw [List.reverse_append, List.dropWhile_append_of_pos]
  intro c hc
  exact h c (List.mem_reverse.mp hc)

theorem rdropWhile_of_none (p : Char → Bool) (l : List Char) (h : ∀ c ∈ l, p c = false) :
    l.rdropWhile p = l := by
  rw [List.rdropWhile_eq_self_iff]
  intro hne
  rw [h _ (List.getLast_mem hne)]
  exact Bool.false_ne_true

theorem strip_append_blanks (text blanks : List Char) (h : ∀ c ∈ blanks, isSpace c = true) :
    strip (text ++ blanks) = strip text := by
  unfold strip
  rw [List.dropWhile_append]
  split
  case isTrue hempty =>
    -- nothing but blanks
    rw [List.isEmpty_iff.mp hempty, List.dropWhile_eq_nil_iff.mpr h]
  case isFalse => exact rdropWhile_append_of_all isSpace _ _ h

/-! ## Reading -/

variable (float : List Char → Option ℚ)

/-- What stands before the unit has no letter of any unit. -/
def Free (units : Table) (text : List Char) : Prop := ∀ c ∈ text, ∀ u ∈ units, c ∉ u.1

theorem rstrip_unit (unit text blanks : List Char) (htext : ∀ c ∈ text, c ∉ unit)
    (hblanks : ∀ c ∈ blanks, isSpace c = true) (hunit : ∀ c ∈ unit, isSpace c = false) :
    rstrip unit (text ++ blanks ++ unit) = text ++ blanks := by
  unfold rstrip
  rw [rdropWhile_append_of_all _ _ unit (fun c hc => by simpa using hc)]
  apply rdropWhile_of_none
  intro c hc
  rcases List.mem_append.mp hc with hmem | hmem
  · simpa using htext c hmem
  · have hno : c ∉ unit := by
      intro hletter
      have hblank := hblanks c hmem
      rw [hunit c hletter] at hblank
      exact Bool.false_ne_true hblank
    simpa using hno

/-- **A text in a unit of the table is read in that unit.** -/
theorem read_unit (units : Table) (hordered : units.Ordered) (u : List Char × ℚ) (hu : u ∈ units)
    (text blanks : List Char) (htext : Free units text)
    (hblanks : ∀ c ∈ blanks, isSpace c = true) :
    read float units (text ++ blanks ++ u.1)
      = (float (strip text)).map (fun value => value / u.2) := by
  induction units with
  | nil => exact absurd hu List.not_mem_nil
  | cons u' units ih =>
      obtain ⟨hlater, hrest⟩ := List.pairwise_cons.mp hordered.pairwise
      unfold read
      rcases List.mem_cons.mp hu with rfl | hmem
      · rw [if_pos (List.suffix_append _ _).isInfix,
          rstrip_unit u.1 text blanks (fun c hc => htext c hc u List.mem_cons_self) hblanks
            (hordered.letters u List.mem_cons_self),
          strip_append_blanks text blanks hblanks]
      · -- an earlier unit has a letter that is nowhere in the text
        obtain ⟨c, hc, hno⟩ := hlater u hmem
        have hnot : ¬ u'.1 <:+: text ++ blanks ++ u.1 := by
          intro hoccurs
          rcases List.mem_append.mp (hoccurs.subset hc) with hbefore | hunit
          · rcases List.mem_append.mp hbefore with hin | hblank
            · exact htext c hin u' List.mem_cons_self hc
            · have hspace := hblanks c hblank
              rw [hordered.letters u' List.mem_cons_self c hc] at hspace
              exact Bool.false_ne_true hspace
          · exact hno hunit
        rw [if_neg hnot]
        apply ih ⟨hrest, fun w hw => hordered.letters w (List.mem_cons_of_mem u' hw)⟩ hmem
        intro c' hc' w hw
        exact htext c' hc' w (List.mem_cons_of_mem u' hw)

end Sonar3D.Units
