/-
Dead reckoning in the plane.

A pose is a point of the complex plane and a heading, a move is a vector as the mover
sees it and a turn after it, and a path is the left fold of the moves. What is known
of a path without knowing its moves: it looks the same from wherever it starts, and it
gets no farther than the moves are long. A path that repeats one move stays on a
circle, and this gives where it ends in closed form; a path that goes back the way it
came ends where it began only if the moves are symmetric.
-/
import Mathlib.Analysis.Complex.Basic
import Mathlib.Analysis.Complex.Trigonometric
import Mathlib.Tactic.Linarith
import Mathlib.Tactic.LinearCombination

set_option autoImplicit false

namespace Sonar3D.DeadReckoning

open Complex

@[ext] structure Pose where
  pos : ℂ
  heading : ℝ

structure Move where
  ahead : ℂ
  turn : ℝ

def Pose.origin : Pose := ⟨0, 0⟩

noncomputable def Pose.move (p : Pose) (m : Move) : Pose where
  pos := p.pos + exp (p.heading * I) * m.ahead
  heading := p.heading + m.turn

/-- The pose that `q` is, seen from `p`. -/
noncomputable def Pose.comp (p q : Pose) : Pose where
  pos := p.pos + exp (p.heading * I) * q.pos
  heading := p.heading + q.heading

theorem exp_add_mul_I (a b : ℝ) : exp ((a + b : ℝ) * I) = exp (a * I) * exp (b * I) := by
  rw [← Complex.exp_add]
  push_cast
  ring_nf

/-! ## From another start -/

theorem comp_move (p q : Pose) (m : Move) : (p.comp q).move m = p.comp (q.move m) := by
  unfold Pose.comp Pose.move
  dsimp only
  rw [exp_add_mul_I]
  ext
  · dsimp only
    ring
  · dsimp only
    ring

theorem comp_origin (p : Pose) : p.comp Pose.origin = p := by
  unfold Pose.comp Pose.origin
  simp

theorem comp_foldl (p q : Pose) (ms : List Move) :
    ms.foldl Pose.move (p.comp q) = p.comp (ms.foldl Pose.move q) := by
  induction ms generalizing q with
  | nil => rfl
  | cons m ms ih => rw [List.foldl_cons, comp_move, ih, List.foldl_cons]

/-- A path, from anywhere, is the path from the origin as seen from there. -/
theorem foldl_move_eq_comp (p : Pose) (ms : List Move) :
    ms.foldl Pose.move p = p.comp (ms.foldl Pose.move Pose.origin) := by
  rw [← comp_foldl, comp_origin]

theorem heading_foldl_move (p : Pose) (ms : List Move) :
    (ms.foldl Pose.move p).heading = p.heading + (ms.map Move.turn).sum := by
  induction ms generalizing p with
  | nil => simp
  | cons m ms ih =>
      rw [List.foldl_cons, ih, List.map_cons, List.sum_cons, ← add_assoc]
      rfl

/-! ## How far a path gets -/

theorem norm_move_sub (p : Pose) (m : Move) : ‖(p.move m).pos - p.pos‖ = ‖m.ahead‖ := by
  unfold Pose.move
  dsimp only
  rw [add_sub_cancel_left, norm_mul, norm_exp_ofReal_mul_I, one_mul]

/-- No farther than its moves are long, put end to end. -/
theorem norm_foldl_move_sub_le (p : Pose) (ms : List Move) :
    ‖(ms.foldl Pose.move p).pos - p.pos‖ ≤ (ms.map (fun m => ‖m.ahead‖)).sum := by
  induction ms generalizing p with
  | nil => simp
  | cons m ms ih =>
      rw [List.foldl_cons, List.map_cons, List.sum_cons]
      have hrest := ih (p.move m)
      calc ‖(ms.foldl Pose.move (p.move m)).pos - p.pos‖
          = ‖((p.move m).pos - p.pos) + ((ms.foldl Pose.move (p.move m)).pos - (p.move m).pos)‖ := by
            ring_nf
        _ ≤ ‖(p.move m).pos - p.pos‖
              + ‖(ms.foldl Pose.move (p.move m)).pos - (p.move m).pos‖ := norm_add_le _ _
        _ ≤ ‖m.ahead‖ + (ms.map (fun m => ‖m.ahead‖)).sum := by
            rw [norm_move_sub]
            gcongr

/-! ## The same move again and again -/

/-- The way from the circle's centre to the mover, turned back by the heading. -/
noncomputable def Move.spoke (m : Move) : ℂ := m.ahead / (exp (m.turn * I) - 1)

/-- The centre of the circle that the move goes around. -/
noncomputable def Pose.centre (p : Pose) (m : Move) : ℂ := p.pos - exp (p.heading * I) * m.spoke

theorem norm_exp_sub_one (a : ℝ) : ‖exp (a * I) - 1‖ = 2 * |Real.sin (a / 2)| := by
  rw [mul_comm, norm_exp_I_mul_ofReal_sub_one, Real.norm_eq_abs, abs_mul, abs_two]

theorem exp_sub_one_ne_zero {a : ℝ} (h : Real.sin (a / 2) ≠ 0) : exp (a * I) - 1 ≠ 0 := by
  rw [← norm_ne_zero_iff, norm_exp_sub_one]
  exact mul_ne_zero two_ne_zero (abs_ne_zero.mpr h)

/-- A move is the difference of two spokes. -/
theorem spoke_mul (m : Move) (h : Real.sin (m.turn / 2) ≠ 0) :
    m.spoke * (exp (m.turn * I) - 1) = m.ahead := div_mul_cancel₀ _ (exp_sub_one_ne_zero h)

/-- The move keeps the centre where it is. -/
theorem centre_move (p : Pose) (m : Move) (h : Real.sin (m.turn / 2) ≠ 0) :
    (p.move m).centre m = p.centre m := by
  unfold Pose.centre Pose.move
  dsimp only
  rw [exp_add_mul_I]
  linear_combination -exp (p.heading * I) * spoke_mul m h

theorem norm_sub_centre (p : Pose) (m : Move) :
    ‖p.pos - p.centre m‖ = ‖m.ahead‖ / (2 * |Real.sin (m.turn / 2)|) := by
  unfold Pose.centre Move.spoke
  rw [sub_sub_cancel, norm_mul, norm_exp_ofReal_mul_I, one_mul, norm_div, norm_exp_sub_one]

theorem centre_foldl_replicate (p : Pose) (m : Move) (h : Real.sin (m.turn / 2) ≠ 0) (n : ℕ) :
    ((List.replicate n m).foldl Pose.move p).centre m = p.centre m := by
  induction n generalizing p with
  | zero => rfl
  | succ n ih => rw [List.replicate_succ, List.foldl_cons, ih, centre_move p m h]

theorem heading_foldl_replicate (p : Pose) (m : Move) (n : ℕ) :
    ((List.replicate n m).foldl Pose.move p).heading = p.heading + n * m.turn := by
  rw [heading_foldl_move, List.map_replicate, List.sum_replicate, nsmul_eq_mul]

/-- Where `n` times the same move ends. -/
theorem pos_foldl_replicate (p : Pose) (m : Move) (h : Real.sin (m.turn / 2) ≠ 0) (n : ℕ) :
    ((List.replicate n m).foldl Pose.move p).pos
      = p.pos + exp (p.heading * I) * (exp ((n * m.turn : ℝ) * I) - 1) * m.spoke := by
  have hcentre := centre_foldl_replicate p m h n
  unfold Pose.centre at hcentre
  rw [heading_foldl_replicate, exp_add_mul_I] at hcentre
  linear_combination hcentre

/-- `n` times one move and `n` times another with the opposite turn: the heading is the
old one again. -/
theorem heading_foldl_replicate_back (p : Pose) (m m' : Move) (hback : m'.turn = -m.turn) (n : ℕ) :
    ((List.replicate n m ++ List.replicate n m').foldl Pose.move p).heading = p.heading := by
  rw [List.foldl_append, heading_foldl_replicate, heading_foldl_replicate, hback]
  ring

/-- And the place is off by the difference of the two spokes. -/
theorem pos_foldl_replicate_back (p : Pose) (m m' : Move) (h : Real.sin (m.turn / 2) ≠ 0)
    (hback : m'.turn = -m.turn) (n : ℕ) :
    ((List.replicate n m ++ List.replicate n m').foldl Pose.move p).pos
      = p.pos + exp (p.heading * I) * (exp ((n * m.turn : ℝ) * I) - 1) * (m.spoke - m'.spoke) := by
  have h' : Real.sin (m'.turn / 2) ≠ 0 := by
    rw [hback, neg_div, Real.sin_neg]
    exact neg_ne_zero.mpr h
  have hcancel : exp ((n * m.turn : ℝ) * I) * exp ((n * m'.turn : ℝ) * I) = 1 := by
    rw [← exp_add_mul_I, hback, mul_neg, add_neg_cancel, ofReal_zero, zero_mul, Complex.exp_zero]
  rw [List.foldl_append, pos_foldl_replicate _ m' h', pos_foldl_replicate p m h,
    heading_foldl_replicate, exp_add_mul_I]
  linear_combination exp (p.heading * I) * m'.spoke * hcancel

/-! ## Moves against the turn -/

/-- A distance in the direction that the turn will turn away from. -/
noncomputable def Move.against (d a : ℝ) : Move where
  ahead := d * exp ((-a : ℝ) * I)
  turn := a

@[simp] theorem against_turn (d a : ℝ) : (Move.against d a).turn = a := rfl

@[simp] theorem norm_against_ahead (d a : ℝ) : ‖(Move.against d a).ahead‖ = |d| := by
  unfold Move.against
  rw [norm_mul, norm_exp_ofReal_mul_I, mul_one, norm_real, Real.norm_eq_abs]

/-- By how much they are not symmetric. -/
theorem norm_spoke_against_sub (d a : ℝ) (h : Real.sin (a / 2) ≠ 0) :
    ‖(Move.against d a).spoke - (Move.against (-d) (-a)).spoke‖ * |Real.sin (a / 2)|
      = |d| * |Real.sin (3 * a / 2)| := by
  have h' : Real.sin (-a / 2) ≠ 0 := by
    rw [neg_div, Real.sin_neg]
    exact neg_ne_zero.mpr h
  have hspoke := spoke_mul (Move.against d a) h
  have hspoke' := spoke_mul (Move.against (-d) (-a)) h'
  obtain ⟨k, hk⟩ : ∃ k, k = (Move.against d a).spoke := ⟨_, rfl⟩
  obtain ⟨k', hk'⟩ : ∃ k', k' = (Move.against (-d) (-a)).spoke := ⟨_, rfl⟩
  rw [← hk] at hspoke ⊢
  rw [← hk'] at hspoke' ⊢
  unfold Move.against at hspoke hspoke'
  dsimp only at hspoke hspoke'
  rw [neg_neg, ofReal_neg d] at hspoke'
  have hinv : exp (a * I) * exp ((-a : ℝ) * I) = 1 := by
    rw [← exp_add_mul_I, add_neg_cancel, ofReal_zero, zero_mul, Complex.exp_zero]
  have hthree : exp ((3 * a : ℝ) * I) = exp (a * I) ^ 3 := by
    rw [← Complex.exp_nat_mul]
    push_cast
    ring_nf
  -- the difference of the spokes, over one turn, is three turns long
  have hproduct : (k - k') * (exp (a * I) - 1)
      = -(d * exp ((-a : ℝ) * I)) * (exp ((3 * a : ℝ) * I) - 1) := by
    rw [hthree]
    linear_combination hspoke + exp (a * I) * hspoke' + (d * exp (a * I) ^ 2 - k') * hinv
  have hnorm := congrArg norm hproduct
  rw [norm_mul, norm_mul, norm_neg, norm_mul, norm_exp_ofReal_mul_I, mul_one, norm_exp_sub_one,
    norm_exp_sub_one, norm_real, Real.norm_eq_abs] at hnorm
  linarith

/-- There and back: off by the chord of the arc, times twice the sine of one and a half
turns. -/
theorem norm_foldl_replicate_against (p : Pose) (d a : ℝ) (h : Real.sin (a / 2) ≠ 0) (n : ℕ) :
    ‖((List.replicate n (Move.against d a) ++ List.replicate n (Move.against (-d) (-a))).foldl
        Pose.move p).pos - p.pos‖
      = |d * (Real.sin (n * a / 2) / Real.sin (a / 2)) * (2 * Real.sin (3 * a / 2))| := by
  have hspokes := norm_spoke_against_sub d a h
  rw [← eq_div_iff (abs_ne_zero.mpr h)] at hspokes
  have hpos := pos_foldl_replicate_back p (Move.against d a) (Move.against (-d) (-a)) h rfl n
  rw [hpos, add_sub_cancel_left, norm_mul, norm_mul, norm_exp_ofReal_mul_I, one_mul,
    norm_exp_sub_one, hspokes, against_turn, abs_mul, abs_mul, abs_div, abs_mul, abs_two]
  ring

end Sonar3D.DeadReckoning
