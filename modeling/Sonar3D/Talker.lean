/-
The node of `talker(v2).cpp`: `receive()`, and the loop that scans.

Up to its loop `receive()` is the one of `Sonar.cpp`, word for word, so the
buffer, the header, the range and the bearing are taken from there. The loop
does more: besides pushing the kept points it stores `x`, `y` and `z` of every
turn in row `num_scans` of three global arrays. The three are locals without an
initial value, shared by the two uses, and `z` is never assigned at all.

An array is a function of row and column, whatever its size, and every index
the loop uses is logged: whether it was inside is asked of the log. Coordinates
are real numbers, as in the clouds of the other nodes.
-/
import Sonar3D.Hold
import Sonar3D.Runs
import Sonar3D.SonarGate

set_option autoImplicit false

namespace Sonar3D.Talker

open Sonar3D.Hold Sonar3D.Runs Sonar3D.Sonar Sonar3D.Words

/-! ## Arrays and accesses -/

/-- `float pontosXX [1000][65536]`, and its siblings. -/
abbrev Pontos := ℤ → ℕ → ℝ

def Pontos.store (a : Pontos) (row : ℤ) (col : ℕ) (v : ℝ) : Pontos :=
  fun row' col' => if row' = row ∧ col' = col then v else a row' col'

/-- An index into one of the arrays. -/
inductive Access where
  | ReceiveBuf (i : ℕ)
  | pontosXX (row : ℤ) (col : ℕ)
  | pontosYY (row : ℤ) (col : ℕ)
  | pontosZZ (row : ℤ) (col : ℕ)
deriving DecidableEq

/-! ## The loop of `receive()` -/

/-- What the loop works on. -/
structure Frame where
  x : ℝ
  y : ℝ
  z : ℝ
  cloud_pcl : PointCloud
  pontosXX : Pontos
  pontosYY : Pontos
  pontosZZ : Pontos
  accesses : List Access

/-- `corrected_range*cos(..)` and `corrected_range*sin(..)`. -/
noncomputable def polar (b : Beam) : ℝ × ℝ :=
  (b.corrected_range * Real.cos ((Sonar.pi / 180 * b.bearing : ℚ) : ℝ),
    b.corrected_range * Real.sin ((Sonar.pi / 180 * b.bearing : ℚ) : ℝ))

/-- `get_value(&ReceiveBuf[i])`, for the log. -/
def Frame.reads (s : Frame) (i : ℕ) : Frame :=
  { s with accesses := s.accesses ++ [.ReceiveBuf i, .ReceiveBuf (i + 1)] }

/-- The block of the gate: compute the point and push it. -/
noncomputable def Frame.push (s : Frame) (b : Beam) : Frame :=
  let s := { s with x := (polar b).1, y := (polar b).2 }
  -- `//z=corrected_range*angulo_servo;`
  { s with cloud_pcl := s.cloud_pcl ++ [⟨s.x, s.y, s.z⟩] }

/-- `pontosXX[num_scans][j]=x; pontosYY[num_scans][j]=y; pontosZZ[num_scans][j]=z;` -/
def Frame.guarda (s : Frame) (num_scans : ℤ) (j : ℕ) : Frame :=
  { s with
    pontosXX := s.pontosXX.store num_scans j s.x
    pontosYY := s.pontosYY.store num_scans j s.y
    pontosZZ := s.pontosZZ.store num_scans j s.z
    accesses := s.accesses
      ++ [.pontosXX num_scans j, .pontosYY num_scans j, .pontosZZ num_scans j] }

noncomputable def loopBody (buf : ReceiveBuf) (h : Header) (num_scans : ℤ) (i j : ℕ) (s : Frame) :
    Frame :=
  let s := s.reads i
  let corrected_range := correctedRange h (get_value buf i)
  let s := if InGate corrected_range then s.push ⟨j, corrected_range, bearing h j⟩ else s
  -- outside the gate's block
  s.guarda num_scans j

/-- `for(i= 256, j=0; i < Ret; i=i+2, j++)`, from the loop head. -/
noncomputable def receiveLoop (buf : ReceiveBuf) (h : Header) (num_scans Ret : ℤ) (i j : ℕ)
    (s : Frame) : Frame :=
  if (i : ℤ) < Ret then
    receiveLoop buf h num_scans Ret (i + 2) (j + 1) (loopBody buf h num_scans i j s)
  else s
termination_by (Ret - i).toNat

/-! ## The globals and the scanning loop -/

structure Globals where
  num_scans : ℤ
  ReceiveBuf : ReceiveBuf
  pontosXX : Pontos
  pontosYY : Pontos
  pontosZZ : Pontos

/-- Static storage. -/
def Globals.initial : Globals := ⟨0, ReceiveBuf.initial, 0, 0, 0⟩

/-- `receive()` on what is delivered, with whatever `x`, `y` and `z` hold on its
stack. -/
noncomputable def receive (g : Globals) (d : Delivery) (x y z : ℝ) : Frame :=
  let buf := afterRecv g.ReceiveBuf d
  receiveLoop buf (decodeHeader buf) g.num_scans d.ret 256 0
    ⟨x, y, z, [], g.pontosXX, g.pontosYY, g.pontosZZ, []⟩

/-- One turn of the scanning loop: what `receive()` is delivered, and what its
locals hold before they are assigned. -/
structure Turn where
  delivery : Delivery
  x : ℝ
  y : ℝ
  z : ℝ

/-- The loop: its globals, what it has published, and every index used so far. -/
structure Scan where
  globals : Globals
  published : List PointCloud
  accesses : List Access

/-- `num_scans= 0;`, before the loop. -/
def Scan.start (g : Globals) : Scan := ⟨{ g with num_scans := 0 }, [], []⟩

/-- `msg=receive(); num_scans++; .. sonar_pub.publish(msg);` -/
noncomputable def Scan.step (s : Scan) (t : Turn) : Scan :=
  let f := receive s.globals t.delivery t.x t.y t.z
  { globals :=
      { num_scans := wrap32 (s.globals.num_scans + 1)
        ReceiveBuf := afterRecv s.globals.ReceiveBuf t.delivery
        pontosXX := f.pontosXX
        pontosYY := f.pontosYY
        pontosZZ := f.pontosZZ }
    published := s.published ++ [f.cloud_pcl]
    accesses := s.accesses ++ f.accesses }

/-- `while(scan)`: the condition is the address of the function `scan`, which is
never null, so every turn is taken. -/
noncomputable def scanLoop (g : Globals) (ts : List Turn) : Scan :=
  ts.foldl Scan.step (Scan.start g)

/-! ## The loop of `receive()`, turn by turn -/

/-- The point stored at one place of the arrays. -/
def Frame.stored (s : Frame) (row : ℤ) (j : ℕ) : PointXYZ :=
  ⟨s.pontosXX row j, s.pontosYY row j, s.pontosZZ row j⟩

/-- What turn `j` writes to `x` and `y`. -/
noncomputable def polar? (buf : ReceiveBuf) (h : Header) (j : ℕ) : Option (ℝ × ℝ) :=
  (beam? buf h j).map polar

/-- What `x` and `y` hold after `n` turns. -/
noncomputable def xyAfter (buf : ReceiveBuf) (h : Header) (xy : ℝ × ℝ) (n : ℕ) : ℝ × ℝ :=
  held (polar? buf h) xy (List.range n)

/-- The indices turn `j` uses. -/
def accessesOf (row : ℤ) (j : ℕ) : List Access :=
  [.ReceiveBuf (256 + 2 * j), .ReceiveBuf (256 + 2 * j + 1),
    .pontosXX row j, .pontosYY row j, .pontosZZ row j]

/-- The loop, `n` turns after `s₀`. -/
structure Scanned (buf : ReceiveBuf) (h : Header) (row : ℤ) (s₀ : Frame) (n : ℕ) (s : Frame) :
    Prop where
  xy_eq : (s.x, s.y) = xyAfter buf h (s₀.x, s₀.y) n
  z_eq : s.z = s₀.z
  cloud_eq : s.cloud_pcl = s₀.cloud_pcl
    ++ (List.range n).filterMap (fun j => (polar? buf h j).map (fun p => ⟨p.1, p.2, s₀.z⟩))
  stored_lt : ∀ j < n, s.stored row j
    = ⟨(xyAfter buf h (s₀.x, s₀.y) (j + 1)).1, (xyAfter buf h (s₀.x, s₀.y) (j + 1)).2, s₀.z⟩
  stored_ge : ∀ j, n ≤ j → s.stored row j = s₀.stored row j
  accesses_eq : s.accesses = s₀.accesses ++ (List.range n).flatMap (accessesOf row)

theorem xyAfter_succ (buf : ReceiveBuf) (h : Header) (xy : ℝ × ℝ) (n : ℕ) :
    xyAfter buf h xy (n + 1) = (polar? buf h n).getD (xyAfter buf h xy n) := by
  unfold xyAfter
  rw [List.range_succ, held_append, held_cons]
  rfl

/-- The gate's block, entered for a kept reading. -/
noncomputable def Frame.gated (s : Frame) (b : Option Beam) : Frame := b.elim s s.push

theorem loopBody_eq (buf : ReceiveBuf) (h : Header) (row : ℤ) (j : ℕ) (s : Frame) :
    loopBody buf h row (256 + 2 * j) j s
      = (((s.reads (256 + 2 * j)).gated (beam? buf h j)).guarda row j) := by
  unfold loopBody beam? Frame.gated
  by_cases hgate : InGate (correctedRange h (get_value buf (256 + 2 * j)))
  · simp only [if_pos hgate, Option.elim_some]
  · simp only [if_neg hgate, Option.elim_none]

/-- The block writes `x` and `y` and pushes them with `z`, or does nothing; it
never stores. -/
theorem Frame.gated_fields (s : Frame) (b : Option Beam) :
    ((s.gated b).x, (s.gated b).y) = (b.map polar).getD (s.x, s.y)
      ∧ (s.gated b).z = s.z
      ∧ (s.gated b).cloud_pcl
          = s.cloud_pcl ++ ((b.map polar).map (fun p => (⟨p.1, p.2, s.z⟩ : PointXYZ))).toList
      ∧ (s.gated b).stored = s.stored ∧ (s.gated b).accesses = s.accesses := by
  cases b with
  | none => exact ⟨rfl, rfl, (List.append_nil _).symm, rfl, rfl⟩
  | some b => exact ⟨rfl, rfl, rfl, rfl, rfl⟩

theorem Frame.stored_guarda (s : Frame) (row : ℤ) (n j : ℕ) :
    (s.guarda row n).stored row j = if j = n then ⟨s.x, s.y, s.z⟩ else s.stored row j := by
  unfold Frame.stored Frame.guarda Pontos.store
  by_cases hj : j = n
  · simp [hj]
  · simp [hj]

theorem Scanned.zero (buf : ReceiveBuf) (h : Header) (row : ℤ) (s₀ : Frame) :
    Scanned buf h row s₀ 0 s₀ where
  xy_eq := rfl
  z_eq := rfl
  cloud_eq := (List.append_nil _).symm
  stored_lt := fun j hj => absurd hj (Nat.not_lt_zero j)
  stored_ge := fun _ _ => rfl
  accesses_eq := (List.append_nil _).symm

/-- One turn more. -/
theorem Scanned.step {buf : ReceiveBuf} {h : Header} {row : ℤ} {s₀ s : Frame} {n : ℕ}
    (hs : Scanned buf h row s₀ n s) :
    Scanned buf h row s₀ (n + 1) (loopBody buf h row (256 + 2 * n) n s) := by
  obtain ⟨hxy, hz, hcloud, hstored, haccesses⟩ :=
    (s.reads (256 + 2 * n)).gated_fields (beam? buf h n)
  rw [loopBody_eq]
  generalize (s.reads (256 + 2 * n)).gated (beam? buf h n) = t at hxy hz hcloud hstored haccesses
  -- `t` is the turn without its stores
  have hxy' : (t.x, t.y) = xyAfter buf h (s₀.x, s₀.y) (n + 1) := by
    rw [xyAfter_succ, ← hs.xy_eq]
    exact hxy
  have hz' : t.z = s₀.z := hz.trans hs.z_eq
  refine ⟨hxy', hz', ?_, ?_, ?_, ?_⟩
  · show t.cloud_pcl = _
    rw [hcloud, filterMap_range_succ, ← List.append_assoc, ← hs.cloud_eq, ← hs.z_eq]
    rfl
  · intro j hj
    rw [Frame.stored_guarda]
    by_cases hjn : j = n
    · -- the store of this turn
      rw [if_pos hjn, hjn, ← hxy', hz']
    · rw [if_neg hjn, hstored]
      exact hs.stored_lt j (by omega)
  · intro j hj
    rw [Frame.stored_guarda, if_neg (by omega), hstored]
    exact hs.stored_ge j (by omega)
  · show t.accesses ++ _ = _
    rw [haccesses, List.range_succ, List.flatMap_append, List.flatMap_singleton,
      ← List.append_assoc, ← hs.accesses_eq]
    show s.accesses ++ _ ++ _ = _
    rw [List.append_assoc]
    rfl

/-- From turn `j` on the loop makes all the turns that are left. The induction
is the loop's own recursion. -/
theorem Scanned.receiveLoop {buf : ReceiveBuf} {h : Header} {row : ℤ} {s₀ : Frame} (Ret : ℤ)
    (i j : ℕ) (s : Frame) (hi : i = 256 + 2 * j) (hj : j ≤ readings Ret)
    (hs : Scanned buf h row s₀ j s) :
    Scanned buf h row s₀ (readings Ret) (receiveLoop buf h row Ret i j s) := by
  fun_induction Talker.receiveLoop buf h row Ret i j s with
  | case1 i j s hlt ih =>
      have hmore := readings_sub_of_lt Ret i j hi hlt
      apply ih
      · omega
      · omega
      · rw [hi]
        exact hs.step
  | case2 i j s hge =>
      have hend : j = readings Ret := le_antisymm hj (readings_le_of_ge Ret i j hi hge)
      rw [← hend]
      exact hs

/-- What a call of `receive()` has done: one turn for each reading delivered. -/
theorem scanned_receive (g : Globals) (d : Delivery) (x y z : ℝ) :
    Scanned (afterRecv g.ReceiveBuf d) (decodeHeader (afterRecv g.ReceiveBuf d)) g.num_scans
      ⟨x, y, z, [], g.pontosXX, g.pontosYY, g.pontosZZ, []⟩ (readings d.ret)
      (receive g d x y z) :=
  Scanned.receiveLoop d.ret 256 0 _ rfl (Nat.zero_le _) (Scanned.zero _ _ _ _)

end Sonar3D.Talker
