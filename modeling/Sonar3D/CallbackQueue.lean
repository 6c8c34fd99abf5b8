/-
A bounded callback queue with one depth per topic.

Messages of several topics wait in one queue, in order of arrival, until a
spin dispatches them all. Each topic has a depth; a message that arrives when
its topic is full displaces the oldest message of that topic, so a topic of
depth one keeps the newest message only. Nothing here names a node: `topic`
and the depths are parameters.

The queue is a structure that carries its bound, so a queue that exceeds a
depth cannot be built and `enqueue` is the one place where the bound is proved.
-/
import Mathlib.Data.List.Basic

set_option autoImplicit false

namespace Sonar3D.CallbackQueue

/-- The depth of each topic's queue. Every topic can hold a message. -/
structure Depths (τ : Type*) where
  depth : τ → ℕ
  depth_pos : ∀ t, 0 < depth t

variable {μ τ : Type*} [DecidableEq τ]

/-- How many messages of topic `t` wait in `q`. -/
def waiting (topic : μ → τ) (t : τ) (q : List μ) : ℕ :=
  q.countP (fun m => decide (topic m = t))

/-- The queue of a node: messages in order of arrival, no topic above its
depth. -/
structure Queue (topic : μ → τ) (d : Depths τ) where
  items : List μ
  within : ∀ t, waiting topic t items ≤ d.depth t

variable {topic : μ → τ} {d : Depths τ}

def Queue.empty : Queue topic d where
  items := []
  within := fun _ => Nat.zero_le _

def dropOldest (topic : μ → τ) (t : τ) (q : List μ) : List μ :=
  q.eraseP (fun m => decide (topic m = t))

/-- Room for one more message of topic `t`: the oldest one goes if `t` is full. -/
def makeRoom (topic : μ → τ) (d : Depths τ) (t : τ) (q : List μ) : List μ :=
  if waiting topic t q < d.depth t then q else dropOldest topic t q

/-! ## What arrival does to the waiting counts -/

theorem waiting_append (t : τ) (q q' : List μ) :
    waiting topic t (q ++ q') = waiting topic t q + waiting topic t q' :=
  List.countP_append

theorem waiting_dropOldest_le (t u : τ) (q : List μ) :
    waiting topic u (dropOldest topic t q) ≤ waiting topic u q :=
  List.Sublist.countP_le List.eraseP_sublist

theorem waiting_dropOldest (t : τ) (q : List μ) :
    waiting topic t (dropOldest topic t q) = waiting topic t q - 1 := by
  induction q with
  | nil => rfl
  | cons m q ih =>
      by_cases hm : topic m = t
      · simp [dropOldest, waiting, hm]
      · simp only [dropOldest, waiting] at ih
        simp [dropOldest, waiting, hm, ih]

/-- After making room the topic is strictly below its depth, which is where the
depth has to be positive. -/
theorem waiting_makeRoom_lt (t : τ) (q : List μ) (hq : waiting topic t q ≤ d.depth t) :
    waiting topic t (makeRoom topic d t q) < d.depth t := by
  have hpos : 0 < d.depth t := d.depth_pos t
  rw [makeRoom]
  split
  · assumption
  · rw [waiting_dropOldest]
    omega

theorem waiting_makeRoom_le (t u : τ) (q : List μ) :
    waiting topic u (makeRoom topic d t q) ≤ waiting topic u q := by
  rw [makeRoom]
  split
  · exact Nat.le_refl _
  · exact waiting_dropOldest_le t u q

def Queue.enqueue (q : Queue topic d) (m : μ) : Queue topic d where
  items := makeRoom topic d (topic m) q.items ++ [m]
  within := by
    intro t
    rw [waiting_append]
    by_cases ht : topic m = t
    · -- its own topic: room has been made for it
      have hlt := waiting_makeRoom_lt (topic m) q.items (q.within (topic m))
      have hone : waiting topic t [m] = 1 := by simp [waiting, ht]
      rw [hone, ← ht]
      omega
    · -- any other topic has at most lost a message
      have hle : waiting topic t (makeRoom topic d (topic m) q.items)
          ≤ waiting topic t q.items := waiting_makeRoom_le (topic m) t q.items
      have hzero : waiting topic t [m] = 0 := by simp [waiting, ht]
      have hq := q.within t
      rw [hzero]
      omega

/-! ## What a spin finds -/

theorem Queue.items_enqueue (q : Queue topic d) (m : μ) :
    (q.enqueue m).items = makeRoom topic d (topic m) q.items ++ [m] := rfl

/-- Messages wait in order of arrival, and none of them twice. -/
theorem Queue.items_enqueue_sublist (q : Queue topic d) (m : μ) :
    (q.enqueue m).items.Sublist (q.items ++ [m]) := by
  rw [Queue.items_enqueue]
  apply List.Sublist.append _ (List.Sublist.refl _)
  unfold makeRoom
  split
  · exact List.Sublist.refl _
  · -- displacing the oldest message of a topic keeps the order of the others
    exact List.eraseP_sublist

end Sonar3D.CallbackQueue
