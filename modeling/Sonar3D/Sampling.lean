/-
Sampling a history.

A node that reads a register at its own pace sees some of the values the register
has had, skips others and sees some more than once, but it never goes back.
`Samples xs ys` says that `ys` is such a reading of the history `xs`. Sampling is
transitive, so what comes out of a chain of such nodes is a sampling of what went
into it, however the paces of the nodes relate; and what a reading in order of
time cannot break -- an order, membership -- survives it.
-/
import Mathlib.Data.List.Infix

set_option autoImplicit false

namespace Sonar3D.Sampling

variable {β γ : Type*}

/-- `ys` reads `xs` from left to right: it may skip an entry, and read one again
before it goes on. -/
inductive Samples : List β → List β → Prop where
  | nil (xs : List β) : Samples xs []
  | skip {x : β} {xs ys : List β} : Samples xs ys → Samples (x :: xs) ys
  | read {x : β} {xs ys : List β} : Samples (x :: xs) ys → Samples (x :: xs) (x :: ys)

theorem Samples.of_sublist {xs ys : List β} (h : ys.Sublist xs) : Samples xs ys := by
  induction h with
  | slnil => exact Samples.nil []
  | cons x _ ih => exact Samples.skip ih
  | cons_cons x _ ih => exact Samples.read (Samples.skip ih)

theorem Samples.refl (xs : List β) : Samples xs xs := Samples.of_sublist (List.Sublist.refl xs)

theorem Samples.of_nil {ys : List β} (h : Samples [] ys) : ys = [] := by
  cases h
  rfl

/-- Everything read was there. -/
theorem Samples.mem {xs ys : List β} (h : Samples xs ys) (y : β) (hy : y ∈ ys) : y ∈ xs := by
  induction h with
  | nil xs => simp at hy
  | skip _ ih => exact List.mem_cons_of_mem _ (ih hy)
  | read _ ih =>
      rcases List.mem_cons.mp hy with rfl | hy
      · exact List.mem_cons_self
      · exact ih hy

/-! ## A history that grows -/

theorem Samples.append_left (pre : List β) {xs ys : List β} (h : Samples xs ys) :
    Samples (pre ++ xs) ys := by
  induction pre with
  | nil => exact h
  | cons x pre ih => exact Samples.skip ih

/-- What has been read stays a reading of the longer history. -/
theorem Samples.append_right {xs ys : List β} (post : List β) (h : Samples xs ys) :
    Samples (xs ++ post) ys := by
  induction h with
  | nil xs => exact Samples.nil _
  | skip _ ih => exact Samples.skip ih
  | read _ ih => exact Samples.read ih

/-- The register can always be read once more, as it is now. -/
theorem Samples.read_last {xs ys : List β} (h : Samples xs ys) (x : β)
    (hx : xs.getLast? = some x) : Samples xs (ys ++ [x]) := by
  induction h with
  | nil xs =>
      obtain ⟨pre, rfl⟩ := List.getLast?_eq_some_iff.mp hx
      exact Samples.append_left pre (Samples.read (Samples.nil _))
  | @skip x' xs ys hrest ih =>
      cases xs with
      | nil =>
          -- the entry just skipped is the last one, and nothing was read after it
          rw [hrest.of_nil]
          have hx' : x' = x := by simpa using hx
          rw [hx']
          exact Samples.read (Samples.nil _)
      | cons x'' xs =>
          rw [List.getLast?_cons_cons] at hx
          exact Samples.skip (ih hx)
  | read _ ih => exact Samples.read (ih hx)

/-! ## Chains, maps and orders -/

/-- A sampling of a sampling. The outer induction is on how the middle list was
read, the inner one on how it is read again. -/
theorem Samples.trans {xs ys zs : List β} (h : Samples xs ys) (h' : Samples ys zs) :
    Samples xs zs := by
  induction h generalizing zs with
  | nil xs =>
      rw [h'.of_nil]
      exact Samples.nil xs
  | skip _ ih => exact Samples.skip (ih h')
  | @read x xs ys _ ih =>
      generalize hl : x :: ys = l at h'
      induction h' with
      | nil _ => exact Samples.nil _
      | skip hrest _ =>
          obtain ⟨-, rfl⟩ := List.cons.inj hl
          exact ih hrest
      | read _ ih' =>
          obtain ⟨rfl, -⟩ := List.cons.inj hl
          exact Samples.read (ih' hl)

/-- A reading of mapped values is the map of a reading. -/
theorem Samples.exists_map (f : β → γ) {xs : List β} {zs : List γ}
    (h : Samples (xs.map f) zs) : ∃ ys, Samples xs ys ∧ zs = ys.map f := by
  generalize hl : xs.map f = l at h
  induction h generalizing xs with
  | nil _ => exact ⟨[], Samples.nil xs, rfl⟩
  | skip _ ih =>
      cases xs with
      | nil => simp at hl
      | cons x xs =>
          obtain ⟨-, hrest⟩ := List.cons.inj hl
          obtain ⟨ys, hys, rfl⟩ := ih hrest
          exact ⟨ys, Samples.skip hys, rfl⟩
  | read _ ih =>
      cases xs with
      | nil => simp at hl
      | cons x xs =>
          obtain ⟨ys, hys, rfl⟩ := ih hl
          obtain ⟨rfl, -⟩ := List.cons.inj hl
          exact ⟨x :: ys, Samples.read hys, rfl⟩

/-- A history in order is read in order. -/
theorem Samples.pairwise (r : β → β → Prop) (hr : ∀ x, r x x) {xs ys : List β}
    (h : Samples xs ys) (hxs : xs.Pairwise r) : ys.Pairwise r := by
  induction h with
  | nil xs => exact List.Pairwise.nil
  | skip _ ih => exact ih (List.pairwise_cons.mp hxs).2
  | @read x xs ys hrest ih =>
      refine List.pairwise_cons.mpr ⟨fun y hy => ?_, ih hxs⟩
      -- `y` is `x` again, or comes after it in the history
      rcases List.mem_cons.mp (hrest.mem y hy) with rfl | hy'
      · exact hr y
      · exact (List.pairwise_cons.mp hxs).1 y hy'

/-! ## The prefixes of a run as a history

What a register holds after each event is a function of the prefixes of the run,
the empty one first and the run itself last. -/

theorem inits_pairwise (es : List β) : es.inits.Pairwise (· <+: ·) := by
  induction es with
  | nil => simp
  | cons e es ih =>
      rw [List.inits_cons, List.pairwise_cons]
      refine ⟨fun p _ => List.nil_prefix, ?_⟩
      rw [List.pairwise_map]
      exact ih.imp (fun h => (List.prefix_cons_inj e).mpr h)

theorem exists_inits_eq_cons (es : List β) : ∃ ps, es.inits = [] :: ps := by
  cases es <;> exact ⟨_, rfl⟩

theorem getLast?_inits (es : List β) : es.inits.getLast? = some es := by
  have hlt : es.length < es.inits.length := by
    rw [List.length_inits]
    exact Nat.lt_succ_self _
  rw [List.getLast?_eq_getElem?, List.length_inits, Nat.add_sub_cancel,
    List.getElem?_eq_getElem hlt, List.getElem_inits, List.take_length]

/-- A register read after some of the prefixes, in order: each reading has its
own moment, and the moments are prefixes of each other. -/
theorem Samples.exists_moments (f : List β → γ) {es : List β} {zs : List γ}
    (h : Samples (es.inits.map f) zs) :
    ∃ moments : List (List β), moments.Pairwise (· <+: ·) ∧ (∀ m ∈ moments, m <+: es)
      ∧ zs = moments.map f := by
  obtain ⟨moments, hmoments, hzs⟩ := h.exists_map f
  refine ⟨moments, ?_, ?_, hzs⟩
  · exact hmoments.pairwise _ List.prefix_refl (inits_pairwise es)
  · exact fun m hm => (List.mem_inits m es).mp (hmoments.mem m hm)

end Sonar3D.Sampling
