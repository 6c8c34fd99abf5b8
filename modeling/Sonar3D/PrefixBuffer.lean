/-
A global buffer that messages overwrite from its start.

A message shorter than the buffer leaves the rest of it as it was, so what a
reader sees beyond the end of the current message was left by an earlier one.
The buffer is a function of the index, and the lemmas say which part of it the
message decides and which part the history does.
-/
import Mathlib.Data.List.Basic

set_option autoImplicit false

namespace Sonar3D.PrefixBuffer

variable {β : Type*}

/-- `buf` with `bytes` written to its start. -/
def overwrite (buf : ℕ → β) (bytes : List β) : ℕ → β := fun i => (bytes[i]?).getD (buf i)

/-- Inside the message the buffer is the message. -/
theorem overwrite_of_lt (buf : ℕ → β) (bytes : List β) (i : ℕ) (h : i < bytes.length) :
    overwrite buf bytes i = bytes[i] := by
  unfold overwrite
  rw [List.getElem?_eq_getElem h, Option.getD_some]

/-- Beyond the message the buffer is what it was. -/
theorem overwrite_of_le (buf : ℕ → β) (bytes : List β) (i : ℕ) (h : bytes.length ≤ i) :
    overwrite buf bytes i = buf i := by
  unfold overwrite
  rw [List.getElem?_eq_none h, Option.getD_none]

theorem overwrite_congr (buf buf' : ℕ → β) (bytes : List β) (i : ℕ) (h : i < bytes.length) :
    overwrite buf bytes i = overwrite buf' bytes i := by
  rw [overwrite_of_lt buf bytes i h, overwrite_of_lt buf' bytes i h]

/-- An index that no message of a history reaches keeps its initial value. -/
theorem foldl_overwrite_of_le (buf : ℕ → β) (msgs : List (List β)) (i : ℕ)
    (h : ∀ bytes ∈ msgs, bytes.length ≤ i) : msgs.foldl overwrite buf i = buf i := by
  induction msgs generalizing buf with
  | nil => rfl
  | cons bytes msgs ih =>
      rw [List.foldl_cons, ih _ (fun m hm => h m (List.mem_cons_of_mem bytes hm)),
        overwrite_of_le _ _ _ (h bytes List.mem_cons_self)]

/-- The byte right after a message can be made anything by an earlier message
that is longer by one. -/
theorem overwrite_leftover (buf : ℕ → β) (bytes pad : List β) (b : β)
    (h : pad.length = bytes.length) :
    overwrite (overwrite buf (pad ++ [b])) bytes bytes.length = b := by
  -- beyond `bytes`, and the last byte of the longer one
  rw [overwrite_of_le _ _ _ (Nat.le_refl _), overwrite_of_lt _ _ _ (by simp [h]),
    List.getElem_append_right (by omega)]
  simp

/-- A message over another one is the message with the end of the other one. -/
theorem overwrite_overwrite (buf : ℕ → β) (other bytes : List β) :
    overwrite (overwrite buf other) bytes = overwrite buf (bytes ++ other.drop bytes.length) := by
  funext i
  unfold overwrite
  by_cases hi : i < bytes.length
  · rw [List.getElem?_append_left hi, List.getElem?_eq_getElem hi]
    rfl
  · have hle : bytes.length ≤ i := Nat.le_of_not_lt hi
    have hdrop : bytes.length + (i - bytes.length) = i := by omega
    rw [List.getElem?_append_right hle, List.getElem?_drop, hdrop, List.getElem?_eq_none hle]
    rfl

/-- The part of the buffer that a message takes is the message. -/
theorem map_range_overwrite (buf : ℕ → β) (bytes : List β) :
    (List.range bytes.length).map (overwrite buf bytes) = bytes := by
  apply List.ext_getElem
  · rw [List.length_map, List.length_range]
  · intro i hi hi'
    rw [List.getElem_map, List.getElem_range, overwrite_of_lt _ _ _ hi']

end Sonar3D.PrefixBuffer
