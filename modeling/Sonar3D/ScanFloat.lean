/-
Character input as the C library reads it: `getchar` and the `%f` of `scanf`.

An input is the list of characters not read yet, and a character is a byte. `%f` is
that of glibc 2.39, in the locale `C`. It skips white space and then reads a number
character by character: a sign, decimal or hexadecimal digits with a point and an
exponent, `inf`, `infinity` or `nan`. Two things are not as the C standard has them: a
number that breaks off in its exponent is a number all the same, and `nan(..)` is read
up to the `nan`. A character that cannot be part of the number is put back, except
inside one of the words: there it is read, and lost, and the conversion fails.

The reader is an automaton whose states are the places inside a number, and the same
pass collects the value.
-/
import Mathlib.Data.List.Basic
import Mathlib.Data.List.TakeWhile
import Mathlib.Data.Rat.Defs
import Mathlib.Algebra.Order.Field.Rat

set_option autoImplicit false

namespace Sonar3D.ScanFloat

/-- `getchar()`: the next character, or `none` for `EOF`. -/
def getchar : List Char → Option Char × List Char
  | [] => (none, [])
  | c :: cs => (some c, cs)

theorem getchar_suffix (cs : List Char) : (getchar cs).2 <:+ cs := by
  cases cs with
  | nil => exact List.suffix_refl _
  | cons c cs => exact List.suffix_cons c cs

/-- `isspace`: blank, and tab to carriage return. -/
def isSpace (c : Char) : Bool := c.toNat = 32 || (9 ≤ c.toNat && c.toNat ≤ 13)

/-! ## The places inside a number -/

/-- How far into a number the scan is. `hex` says that it began with `0x`, `digit` and
`point` that a digit and the point have been read; the other numbers count the letters
of a word. -/
inductive Place where
  | start
  | sign
  | zero
  | number (hex digit point : Bool)
  | exp (hex : Bool)
  | expDigits (hex : Bool)
  | infinity (n : ℕ)
  | nan (n : ℕ)
deriving DecidableEq

def digitValue (c : Char) : ℕ :=
  if c.isDigit then c.toNat - '0'.toNat
  else if 'a' ≤ c.toLower ∧ c.toLower ≤ 'f' then c.toLower.toNat - 'a'.toNat + 10
  else 16

def isDigit (hex : Bool) (c : Char) : Bool := digitValue c < if hex then 16 else 10

/-- The letter that opens an exponent: `p` after hexadecimal digits, `e` after
decimal ones. -/
def isExp (hex : Bool) (c : Char) : Bool := c.toLower = if hex then 'p' else 'e'

/-- What becomes of a character: it is read as the next one of the number, it is put
back, or it is read and the conversion fails. -/
inductive Outcome where
  | goes (q : Place)
  | stays
  | lost
deriving DecidableEq

/-- A character inside digits. -/
def next.digits (hex digit point : Bool) (c : Char) : Outcome :=
  if isDigit hex c then .goes (.number hex true point)
  else if digit ∧ isExp hex c then .goes (.exp hex)
  else if ¬ point ∧ c = '.' then .goes (.number hex digit true)
  else .stays

/-- After the sign, or where a sign could have been. -/
def next.unsigned (c : Char) : Outcome :=
  if c.toLower = 'n' then .goes (.nan 1)
  else if c.toLower = 'i' then .goes (.infinity 1)
  else if c = '0' then .goes .zero
  else next.digits false false false c

def next : Place → Char → Outcome
  | .start, c => if c = '+' ∨ c = '-' then .goes .sign else next.unsigned c
  | .sign, c => next.unsigned c
  -- a leading zero may open `0x`
  | .zero, c =>
      if c.toLower = 'x' then .goes (.number true false false) else next.digits false true false c
  | .number hex digit point, c => next.digits hex digit point c
  | .exp hex, c =>
      if c = '+' ∨ c = '-' ∨ isDigit false c then .goes (.expDigits hex) else .stays
  | .expDigits hex, c => if isDigit false c then .goes (.expDigits hex) else .stays
  | .infinity n, c =>
      -- `inf` may be all there is
      if n = 8 ∨ n = 3 ∧ c.toLower ≠ 'i' then .stays
      else if "infinity".toList[n]? = some c.toLower then .goes (.infinity (n + 1))
      else .lost
  | .nan n, c =>
      if n = 3 then .stays
      else if "nan".toList[n]? = some c.toLower then .goes (.nan (n + 1))
      else .lost

/-- The places at which what has been read is accepted: of `0x` alone there is nothing
to convert, of `0x.` there is the zero. -/
def matched : Place → Bool
  | .start | .sign => false
  | .zero | .exp _ | .expDigits _ => true
  | .number hex digit point => digit || (hex && point)
  | .infinity n => n = 3 || n = 8
  | .nan n => n = 3

/-- The longest run of characters that continues the number from `q`: where it ends,
or `none` if a character was lost there, the run, and what is left unread. -/
def takeItem (q : Place) : List Char → Option Place × List Char × List Char
  | [] => (some q, [], [])
  | c :: cs =>
      match next q c with
      | .stays => (some q, [], c :: cs)
      | .lost => (none, [], cs)
      | .goes q' =>
          let (last, item, rest) := takeItem q' cs
          (last, c :: item, rest)

/-- It takes from the front only. -/
theorem takeItem_suffix (q : Place) (cs : List Char) : (takeItem q cs).2.2 <:+ cs := by
  induction cs generalizing q with
  | nil => exact List.suffix_refl _
  | cons c cs ih =>
      unfold takeItem
      cases next q c with
      | stays => exact List.suffix_refl _
      | lost => exact List.suffix_cons c cs
      | goes q' => exact (ih q').trans (List.suffix_cons c cs)

/-! ## The value of a number -/

/-- The parts of a number, as they are read. -/
structure Parts where
  negative : Bool
  hex : Bool
  digits : ℕ
  fracDigits : ℕ
  expNegative : Bool
  exp : ℕ

def Parts.zero : Parts := ⟨false, false, 0, 0, false, 0⟩

def Parts.base (p : Parts) : ℕ := if p.hex then 16 else 10

/-- One character, on the way to the place `q`. -/
def Parts.absorb (p : Parts) (q : Place) (c : Char) : Parts :=
  match q with
  | .sign => { p with negative := decide (c = '-') }
  | .number hex _ point =>
      let p := { p with hex := hex }
      -- of `x` and of the point there is nothing to add
      if c = '.' ∨ c.toLower = 'x' then p
      else
        { p with
          digits := p.digits * p.base + digitValue c
          fracDigits := p.fracDigits + if point then 1 else 0 }
  | .expDigits _ =>
      if c = '+' ∨ c = '-' then { p with expNegative := decide (c = '-') }
      else { p with exp := p.exp * 10 + digitValue c }
  | _ => p

/-- The parts of a run that starts at `q`. -/
def parts (q : Place) (p : Parts) : List Char → Parts
  | [] => p
  | c :: cs =>
      match next q c with
      | .goes q' => parts q' (p.absorb q' c) cs
      | _ => p

/-- The exact value: digits scaled by the point and the exponent. -/
def Parts.value (p : Parts) : ℚ :=
  let scale : ℚ := (if p.hex then 2 else 10) ^ p.exp
  let magnitude : ℚ := (p.digits : ℚ) / (p.base : ℚ) ^ p.fracDigits
  let scaled : ℚ := if p.expNegative then magnitude / scale else magnitude * scale
  if p.negative then -scaled else scaled

/-- From here on the `float` is infinite. -/
def floatOverflow : ℚ := ((2 ^ 128 - 2 ^ 103 : ℕ) : ℚ)

def fitsFloat (value : ℚ) : Bool := -floatOverflow < value && value < floatOverflow

/-- `scanf("%f", &x)`: the number stored, before it is rounded to a `float` -- `none`
when the conversion fails and `x` keeps what it held, or when it stores an infinity or
a NaN -- and the input left. -/
def scanf_f (input : List Char) : Option ℚ × List Char :=
  let (last, item, rest) := takeItem .start (input.dropWhile isSpace)
  -- a failed conversion has used up what it read all the same
  let finite := match last with
    | none | some (.infinity _) | some (.nan _) => false
    | some q => matched q
  let value := (parts .start Parts.zero item).value
  (if finite && fitsFloat value then some value else none, rest)

/-- It reads from the front only. -/
theorem scanf_f_suffix (input : List Char) : (scanf_f input).2 <:+ input :=
  (takeItem_suffix .start (input.dropWhile isSpace)).trans (List.dropWhile_suffix _)

example : scanf_f "\n -12.5e1x".toList = (some (-125), ['x']) := by decide +kernel

example : scanf_f "100ergs".toList = (some 100, "rgs".toList) := by decide +kernel

example : scanf_f "infx".toList = (none, ['x']) ∧ scanf_f "inx".toList = (none, []) := by
  decide +kernel

/-! ## Reading within lines -/

/-- `%f` skips all of it. -/
def Blank (cs : List Char) : Prop := ∀ c ∈ cs, isSpace c = true

instance (cs : List Char) : Decidable (Blank cs) :=
  List.decidableBAll (fun c => isSpace c = true) cs

@[simp] theorem blank_nil : Blank [] := by
  unfold Blank
  simp

/-- What `%f` leaves of a line it starts in and of the line end: nothing, if it has read
the line end as well. -/
def left (cs : List Char) : List Char := (takeItem .start (cs.dropWhile isSpace ++ ['\n'])).2.2

/-- If it leaves anything, then the line end at least. -/
theorem left_cases (cs : List Char) : left cs = [] ∨ ∃ rest, left cs = rest ++ ['\n'] := by
  obtain ⟨taken, htaken⟩ := takeItem_suffix .start (cs.dropWhile isSpace ++ ['\n'])
  rcases List.eq_nil_or_concat (left cs) with hnil | ⟨rest, c, hrest⟩
  · exact Or.inl hnil
  · right
    rw [List.concat_eq_append] at hrest
    have hends : taken ++ (rest ++ [c]) = cs.dropWhile isSpace ++ ['\n'] := by
      rw [← hrest]
      exact htaken
    rw [← List.append_assoc] at hends
    obtain rfl := List.singleton_inj.mp (List.append_inj' hends rfl).2
    exact ⟨rest, hrest⟩

/-- No number continues over a line end; but the line end may be lost. -/
theorem next_newline (q : Place) : next q '\n' = .stays ∨ next q '\n' = .lost := by
  have hword : ∀ (word : List Char) (n : ℕ), '\n' ∉ word → ¬ word[n]? = some ('\n').toLower :=
    fun word n hword h => hword (List.mem_of_getElem? h)
  cases q with
  | start => exact Or.inl (by decide)
  | sign => exact Or.inl (by decide)
  | zero => exact Or.inl (by decide)
  | number hex digit point => cases hex <;> cases digit <;> cases point <;> exact Or.inl (by decide)
  | exp hex => exact Or.inl rfl
  | expDigits hex => exact Or.inl rfl
  | infinity n =>
      dsimp only [next]
      rw [if_neg (hword "infinity".toList n (by decide))]
      split
      · exact Or.inl rfl
      · exact Or.inr rfl
  | nan n =>
      dsimp only [next]
      rw [if_neg (hword "nan".toList n (by decide))]
      split
      · exact Or.inl rfl
      · exact Or.inr rfl

/-- What comes behind the line end stays where it is. -/
theorem takeItem_newline (q : Place) (a t : List Char) :
    (takeItem q (a ++ '\n' :: t)).2.2 = (takeItem q (a ++ ['\n'])).2.2 ++ t := by
  induction a generalizing q with
  | nil =>
      show (takeItem q ('\n' :: t)).2.2 = (takeItem q ['\n']).2.2 ++ t
      rw [takeItem, takeItem]
      rcases next_newline q with hstays | hlost
      · rw [hstays]
        rfl
      · rw [hlost]
        rfl
  | cons c a ih =>
      rw [List.cons_append, List.cons_append, takeItem, takeItem]
      cases next q c with
      | stays =>
          show c :: (a ++ '\n' :: t) = c :: (a ++ ['\n']) ++ t
          simp
      | lost =>
          show a ++ '\n' :: t = a ++ ['\n'] ++ t
          simp
      | goes q' => exact ih q'

/-- From a blank rest of a line `%f` goes on in the next one. -/
theorem scanf_f_of_blank (a t : List Char) (h : Blank a) :
    (scanf_f (a ++ '\n' :: t)).2 = (scanf_f t).2 := by
  have hskip : (a ++ '\n' :: t).dropWhile isSpace = t.dropWhile isSpace := by
    rw [List.dropWhile_append_of_pos h]
    rfl
  show (takeItem .start ((a ++ '\n' :: t).dropWhile isSpace)).2.2 = _
  rw [hskip]
  rfl

/-- Otherwise it stays in the line and its end. -/
theorem scanf_f_of_not_blank (a t : List Char) (h : ¬ Blank a) :
    (scanf_f (a ++ '\n' :: t)).2 = left a ++ t := by
  have hstop : a.dropWhile isSpace ≠ [] := fun hnil => h (List.dropWhile_eq_nil_iff.mp hnil)
  have hskip : (a ++ '\n' :: t).dropWhile isSpace = a.dropWhile isSpace ++ '\n' :: t := by
    rw [List.dropWhile_append, if_neg (by simpa using hstop)]
  show (takeItem .start ((a ++ '\n' :: t).dropWhile isSpace)).2.2 = _
  rw [hskip, takeItem_newline]
  rfl

end Sonar3D.ScanFloat
