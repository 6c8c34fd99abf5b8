/-
Sample-and-hold registers.

Every node of this development reads globals that callbacks overwrite at one
rate and a loop (or another callback) reads at another. Nothing here names a
node: a stream of events is a `List ε`, a register is a function
`f : ε → Option β` saying what an event writes, and the three questions asked
of such a register are

* `held f d es` -- what it holds after the events `es`, `d` before the first
  write;
* `triggered f t d es` -- the values read from it by the events `t` selects,
  in order;
* `List.foldl` over the events -- what the code does, one overwrite at a time.

The lemmas relate the three over concatenation, which is all a run of a node
ever is.
-/
import Mathlib.Data.List.Basic

set_option autoImplicit false

namespace Sonar3D.Hold

variable {ε β γ : Type*}

/-! ## The value a register holds -/

/-- What the register `f` holds after the events `es`: the last value any of
them writes, and `d` if none does. -/
def held (f : ε → Option β) (d : β) (es : List ε) : β :=
  (es.filterMap f).getLastD d

/-- One event, first. A write replaces the default of what is left, which is
why the recursion on the code side is a fold from the left. -/
theorem held_cons (f : ε → Option β) (d : β) (e : ε) (es : List ε) :
    held f d (e :: es) = held f ((f e).getD d) es := by
  cases h : f e with
  | none => rw [held, List.filterMap_cons_none h, Option.getD_none, held]
  | some b => rw [held, List.filterMap_cons_some h, List.getLastD_cons, Option.getD_some, held]

theorem held_append (f : ε → Option β) (d : β) (es es' : List ε) :
    held f d (es ++ es') = held f (held f d es) es' := by
  induction es generalizing d with
  | nil => rfl
  | cons e es ih => rw [List.cons_append, held_cons, held_cons, ih]

/-- A record whose component `g` every step either overwrites as `f` says or
leaves alone holds, after a run, what the register holds. This is how a field
of a node's state is read off a fold over its callbacks. -/
theorem foldl_component {σ : Type*} (step : σ → ε → σ) (g : σ → β) (f : ε → Option β)
    (hstep : ∀ s e, g (step s e) = (f e).getD (g s)) (s : σ) (es : List ε) :
    g (es.foldl step s) = held f (g s) es := by
  induction es generalizing s with
  | nil => rfl
  | cons e es ih => rw [List.foldl_cons, ih, hstep, held_cons]

theorem foldl_batches {σ : Type*} (step : σ → List ε → σ) (g : σ → β) (f : ε → Option β)
    (hstep : ∀ s b, g (step s b) = held f (g s) b) (s : σ) (bs : List (List ε)) :
    g (bs.foldl step s) = held f (g s) bs.flatten := by
  induction bs generalizing s with
  | nil => rfl
  | cons b bs ih => rw [List.foldl_cons, ih, hstep, List.flatten_cons, held_append]

theorem held_of_none (f : ε → Option β) (d : β) (es : List ε)
    (h : ∀ e ∈ es, f e = none) : held f d es = d := by
  have hempty : es.filterMap f = [] := List.filterMap_eq_nil_iff.mpr h
  simp [held, hempty]

/-- A write after which nothing is written is the value held. -/
theorem held_of_last_write (f : ε → Option β) (d : β) (pre post : List ε) (e : ε) (b : β)
    (he : f e = some b) (h : ∀ e' ∈ post, f e' = none) :
    held f d (pre ++ e :: post) = b := by
  rw [held_append, held_cons, he, Option.getD_some, held_of_none f b post h]

/-- Once something has been written the register holds the last write, and the
initial value no longer matters. -/
theorem held_eq_getLast (f : ε → Option β) (d : β) (es : List ε) (h : es.filterMap f ≠ []) :
    held f d es = (es.filterMap f).getLast h := by
  unfold held
  rw [List.getLastD_eq_getLast?, List.getLast?_eq_some_getLast h, Option.getD_some]

/-- What is held is the initial value or was written by one of the events. -/
theorem held_eq_or_exists (f : ε → Option β) (d : β) (es : List ε) :
    (∀ e ∈ es, f e = none) ∨ ∃ e ∈ es, f e = some (held f d es) := by
  induction es generalizing d with
  | nil => left; simp
  | cons e es ih =>
      rw [held_cons]
      rcases ih ((f e).getD d) with h | ⟨e', hmem, he'⟩
      · -- nothing is written after `e`, so it is up to `e`
        cases he : f e with
        | none =>
            left
            intro e' hmem
            rcases List.mem_cons.mp hmem with rfl | h'
            · exact he
            · exact h e' h'
        | some b =>
            right
            refine ⟨e, List.mem_cons_self, ?_⟩
            rw [Option.getD_some, held_of_none f b es h, he]
      · right
        exact ⟨e', List.mem_cons_of_mem e hmem, he'⟩

/-! ## The values read at triggers -/

/-- The values that the events selected by `t` read from the register `f`, in
order. A trigger reads before it writes. -/
def triggered (f : ε → Option β) (t : ε → Bool) (d : β) : List ε → List β
  | [] => []
  | e :: es =>
      if t e then d :: triggered f t ((f e).getD d) es
      else triggered f t ((f e).getD d) es

@[simp] theorem triggered_nil (f : ε → Option β) (t : ε → Bool) (d : β) :
    triggered f t d [] = [] := rfl

theorem triggered_append (f : ε → Option β) (t : ε → Bool) (d : β) (es es' : List ε) :
    triggered f t d (es ++ es')
      = triggered f t d es ++ triggered f t (held f d es) es' := by
  induction es generalizing d with
  | nil => rfl
  | cons e es ih =>
      rw [List.cons_append, triggered, triggered, held_cons, ih]
      split <;> rfl

/-- Between two writes every trigger reads the same value: the value held is
repeated once for each of them. -/
theorem triggered_of_none (f : ε → Option β) (t : ε → Bool) (d : β) (es : List ε)
    (h : ∀ e ∈ es, f e = none) :
    triggered f t d es = List.replicate (es.countP t) d := by
  induction es with
  | nil => rfl
  | cons e es ih =>
      have he : f e = none := h e List.mem_cons_self
      have ih' := ih (fun e' hmem => h e' (List.mem_cons_of_mem e hmem))
      rw [triggered, he, Option.getD_none, ih']
      by_cases ht : t e = true
      · rw [if_pos ht, List.countP_cons_of_pos ht, List.replicate_succ]
      · rw [if_neg ht, List.countP_cons_of_neg ht]

/-- A write contributes one copy of its value for each trigger before the next
write -- none if the next write comes first. -/
theorem triggered_span (f : ε → Option β) (t : ε → Bool) (d : β)
    (pre mid post : List ε) (e : ε) (b : β)
    (he : f e = some b) (hte : t e = false) (hmid : ∀ e' ∈ mid, f e' = none) :
    triggered f t d (pre ++ e :: (mid ++ post))
      = triggered f t d pre ++ (List.replicate (mid.countP t) b ++ triggered f t b post) := by
  -- `e` overwrites whatever was held, and reads nothing itself
  have htail : triggered f t (held f d pre) (e :: (mid ++ post))
      = triggered f t b (mid ++ post) := by
    rw [triggered, he, Option.getD_some, if_neg (by simp [hte])]
  rw [triggered_append, htail, triggered_append, triggered_of_none f t b mid hmid,
    held_of_none f b mid hmid]

end Sonar3D.Hold
