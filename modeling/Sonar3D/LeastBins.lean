/-
Bins that keep the least value put into them.

A row of bins, each with a value in it; to put a value into a bin is to write it
there if it is less than what is there. A bin that does not exist cannot be
written to, and then there is no result. What the bins hold in the end is, in each,
the least of what it held and what was put into it, so the order does not matter.
-/
import Mathlib.Order.Bounds.Basic
import Mathlib.Order.MinMax
import Mathlib.Data.List.Basic

set_option autoImplicit false

namespace Sonar3D.LeastBins

variable {β : Type*} [LinearOrder β]

/-- Put a value into a bin. -/
def put (bins : List β) (m : ℕ × β) : Option (List β) :=
  match bins[m.1]? with
  | none => none
  | some b => some (if m.2 < b then bins.set m.1 m.2 else bins)

theorem put_eq_none_iff (bins : List β) (m : ℕ × β) : put bins m = none ↔ bins.length ≤ m.1 := by
  unfold put
  cases hbin : bins[m.1]? with
  | none => exact iff_of_true rfl (List.getElem?_eq_none_iff.mp hbin)
  | some b =>
      obtain ⟨hlt, -⟩ := List.getElem?_eq_some_iff.mp hbin
      exact iff_of_false (by simp) (Nat.not_le.mpr hlt)

/-- One value: its bin takes the less of the two, and the others stay. -/
theorem put_some (bins bins' : List β) (m : ℕ × β) (h : put bins m = some bins') :
    bins'.length = bins.length
      ∧ ∀ i (hi : i < bins.length) (hi' : i < bins'.length),
          bins'[i] = if m.1 = i then min bins[i] m.2 else bins[i] := by
  unfold put at h
  cases hbin : bins[m.1]? with
  | none =>
      rw [hbin] at h
      exact absurd h (by simp)
  | some b =>
      rw [hbin] at h
      obtain ⟨hlt, rfl⟩ := List.getElem?_eq_some_iff.mp hbin
      obtain rfl := Option.some.inj h
      by_cases hless : m.2 < bins[m.1]
      · refine ⟨by rw [if_pos hless, List.length_set], fun i hi hi' => ?_⟩
        simp only [if_pos hless, List.getElem_set]
        by_cases hbin : m.1 = i
        · subst hbin
          rw [if_pos rfl, if_pos rfl, min_eq_right (le_of_lt hless)]
        · rw [if_neg hbin, if_neg hbin]
      · refine ⟨by rw [if_neg hless], fun i hi hi' => ?_⟩
        simp only [if_neg hless]
        by_cases hbin : m.1 = i
        · subst hbin
          rw [if_pos rfl, min_eq_left (not_lt.mp hless)]
        · rw [if_neg hbin]

/-- There is no result exactly if some bin does not exist. -/
theorem foldlM_put_eq_none_iff (bins : List β) (ms : List (ℕ × β)) :
    ms.foldlM put bins = none ↔ ∃ m ∈ ms, bins.length ≤ m.1 := by
  induction ms generalizing bins with
  | nil => simp
  | cons m ms ih =>
      rw [List.foldlM_cons]
      cases hput : put bins m with
      | none =>
          have hover := (put_eq_none_iff bins m).mp hput
          exact iff_of_true rfl ⟨m, List.mem_cons_self, hover⟩
      | some bins' =>
          have hinside : ¬ bins.length ≤ m.1 := by
            rw [← put_eq_none_iff, hput]
            simp
          have hlength := (put_some bins bins' m hput).1
          rw [Option.bind_eq_bind, Option.bind_some, ih, hlength]
          simp [hinside]

/-- The less of two values, in a set, for both of them. -/
theorem isLeast_insert_min (a b x : β) (s : Set β) (h : IsLeast (insert (min a b) s) x) :
    IsLeast (insert a (insert b s)) x := by
  obtain ⟨hmem, hlower⟩ := h
  have hmin : x ≤ min a b := hlower (Set.mem_insert _ s)
  constructor
  · rcases hmem with hx | hx
    · rcases min_choice a b with heq | heq
      · exact Or.inl (hx.trans heq)
      · exact Or.inr (Or.inl (hx.trans heq))
    · exact Or.inr (Or.inr hx)
  · rintro y (rfl | rfl | hy)
    · exact hmin.trans (min_le_left _ _)
    · exact hmin.trans (min_le_right _ _)
    · exact hlower (Or.inr hy)

/-- Each bin ends with the least of what it held and what was put into it. -/
theorem foldlM_put_isLeast (bins out : List β) (ms : List (ℕ × β))
    (h : ms.foldlM put bins = some out) :
    out.length = bins.length
      ∧ ∀ i (hi : i < bins.length) (hi' : i < out.length),
          IsLeast (insert bins[i] {b | (i, b) ∈ ms}) out[i] := by
  induction ms generalizing bins with
  | nil =>
      obtain rfl : bins = out := Option.some.inj h
      refine ⟨rfl, fun i hi hi' => ?_⟩
      simp
  | cons m ms ih =>
      rw [List.foldlM_cons] at h
      cases hput : put bins m with
      | none =>
          rw [hput] at h
          exact absurd h (by simp)
      | some bins' =>
          rw [hput, Option.bind_eq_bind, Option.bind_some] at h
          obtain ⟨hlength, hbins⟩ := put_some bins bins' m hput
          obtain ⟨hlength', hleast⟩ := ih bins' h
          refine ⟨hlength'.trans hlength, fun i hi hi' => ?_⟩
          have hi'' : i < bins'.length := by rw [hlength]; exact hi
          have hbins' := hleast i hi'' hi'
          rw [hbins i hi hi''] at hbins'
          by_cases hbin : m.1 = i
          · have hset : {b | (i, b) ∈ m :: ms} = insert m.2 {b | (i, b) ∈ ms} := by
              ext b
              simp [← hbin, Prod.ext_iff]
            rw [if_pos hbin] at hbins'
            rw [hset]
            exact isLeast_insert_min _ _ _ _ hbins'
          · have hset : {b | (i, b) ∈ m :: ms} = {b | (i, b) ∈ ms} := by
              ext b
              have hne : (i, b) ≠ m := fun heq => hbin (congrArg Prod.fst heq).symm
              simp [hne]
            rw [if_neg hbin] at hbins'
            rw [hset]
            exact hbins'

/-- The order does not matter. -/
theorem foldlM_put_perm (bins : List β) (ms ms' : List (ℕ × β)) (hperm : ms.Perm ms') :
    ms.foldlM put bins = ms'.foldlM put bins := by
  have hnone : ms.foldlM put bins = none ↔ ms'.foldlM put bins = none := by
    rw [foldlM_put_eq_none_iff, foldlM_put_eq_none_iff]
    simp only [hperm.mem_iff]
  cases hout : ms.foldlM put bins with
  | none => exact (hnone.mp hout).symm
  | some out =>
      cases hout' : ms'.foldlM put bins with
      | none => exact absurd (hnone.mpr hout') (by simp [hout])
      | some out' =>
          obtain ⟨hlength, hleast⟩ := foldlM_put_isLeast bins out ms hout
          obtain ⟨hlength', hleast'⟩ := foldlM_put_isLeast bins out' ms' hout'
          congr 1
          apply List.ext_getElem (hlength.trans hlength'.symm)
          intro i hi hi'
          have hbins : i < bins.length := by rw [← hlength]; exact hi
          have h := hleast i hbins hi
          simp only [hperm.mem_iff] at h
          exact h.unique (hleast' i hbins hi')

end Sonar3D.LeastBins
