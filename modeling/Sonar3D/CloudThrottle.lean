/-
The nodelet `CloudThrottle`.

`cloud_throttle.cpp` passes on the clouds it gets, but no more than `max_rate` of
them a second; with no rate set it passes on all. It looks at the clock once to
decide and once more to record. Times are nanoseconds, and `ros::Duration`, which
makes a duration of a number of seconds, is a parameter.
-/
import Sonar3D.RateLimit
import Mathlib.Algebra.Order.Field.Rat

set_option autoImplicit false

namespace Sonar3D.CloudThrottle

open Sonar3D.RateLimit

variable {α : Type*}

/-- A cloud that arrives, with what `ros::Time::now()` returns when it is compared
and when it is stored. -/
structure Arrival (α : Type*) where
  cloud : α
  asked : ℤ
  stamp : ℤ
deriving DecidableEq

structure Throttle (α : Type*) where
  last_update_ : ℤ
  published : List (Arrival α)

def Throttle.initial : Throttle α := ⟨0, []⟩

variable (Duration : ℚ → ℤ) (max_update_rate_ : ℚ)

def callback (s : Throttle α) (a : Arrival α) : Throttle α :=
  if max_update_rate_ > 0 ∧ s.last_update_ + Duration (1 / max_update_rate_) > a.asked then s
  else { last_update_ := a.stamp, published := s.published ++ [a] }

def run (arrivals : List (Arrival α)) : Throttle α :=
  arrivals.foldl (callback Duration max_update_rate_) Throttle.initial

/-- With a rate, the callback is a limiter. -/
theorem foldl_callback (hrate : 0 < max_update_rate_) (s : Throttle α)
    (arrivals : List (Arrival α)) :
    (arrivals.foldl (callback Duration max_update_rate_) s).published
      = s.published ++ accepted Arrival.asked Arrival.stamp (Duration (1 / max_update_rate_))
          s.last_update_ arrivals := by
  induction arrivals generalizing s with
  | nil => simp [accepted]
  | cons a arrivals ih =>
      rw [List.foldl_cons, accepted]
      by_cases hdrop : s.last_update_ + Duration (1 / max_update_rate_) > a.asked
      · have hstep : callback Duration max_update_rate_ s a = s := if_pos ⟨hrate, hdrop⟩
        rw [hstep, if_pos hdrop, ih]
      · have hstep : callback Duration max_update_rate_ s a
            = { last_update_ := a.stamp, published := s.published ++ [a] } :=
          if_neg (fun h => hdrop h.2)
        rw [hstep, if_neg hdrop, ih, List.append_assoc]
        rfl

/-- Without one, it passes on everything. -/
theorem run_unlimited (hrate : max_update_rate_ ≤ 0) (arrivals : List (Arrival α)) :
    (run Duration max_update_rate_ arrivals).published = arrivals := by
  unfold run
  induction arrivals using List.reverseRecOn with
  | nil => rfl
  | append_singleton arrivals a ih =>
      have hstep : ∀ s : Throttle α, (callback Duration max_update_rate_ s a).published
          = s.published ++ [a] := by
        intro s
        unfold callback
        rw [if_neg (fun h => absurd h.1 (not_lt.mpr hrate))]
      rw [List.foldl_append, List.foldl_cons, List.foldl_nil, hstep, ih]

/-- With a rate, two clouds that are passed on are a period apart, and the first one is
a period behind time zero, where `last_update_` starts; no other choice of clouds that
keeps these distances, the one from zero with them, has more of them. -/
theorem run_longest (hrate : 0 < max_update_rate_) (arrivals : List (Arrival α))
    (hclock : arrivals.Pairwise (fun a b => a.stamp ≤ b.stamp)) :
    let period := Duration (1 / max_update_rate_)
    let published := (run Duration max_update_rate_ arrivals).published
    published.Sublist arrivals ∧ Spaced Arrival.asked Arrival.stamp period 0 published
      ∧ ∀ others : List (Arrival α), others.Sublist arrivals →
          Spaced Arrival.asked Arrival.stamp period 0 others → others.length ≤ published.length := by
  have hpublished : (run Duration max_update_rate_ arrivals).published
      = accepted Arrival.asked Arrival.stamp (Duration (1 / max_update_rate_)) 0 arrivals :=
    foldl_callback Duration max_update_rate_ hrate Throttle.initial arrivals
  dsimp only
  rw [hpublished]
  refine ⟨accepted_sublist _ _ _ 0 arrivals, accepted_spaced _ _ _ 0 arrivals, ?_⟩
  intro others hsub hspaced
  exact length_le_accepted _ _ _ 0 arrivals others hclock hsub hspaced

/-- Of three clouds 300 milliseconds apart, at two a second, the first and the last
could be passed on, so no fewer than two are. -/
theorem run_longest_two :
    2 ≤ (run (fun d => (d * 1000000000).floor) 2
        [⟨'a', 1000000000, 1000000001⟩, ⟨'b', 1300000000, 1300000001⟩,
          ⟨'c', 1600000000, 1600000001⟩]).published.length :=
  (run_longest (fun d => (d * 1000000000).floor) 2 (by decide)
    [⟨'a', 1000000000, 1000000001⟩, ⟨'b', 1300000000, 1300000001⟩,
      ⟨'c', 1600000000, 1600000001⟩] (by decide)).2.2
    [⟨'a', 1000000000, 1000000001⟩, ⟨'c', 1600000000, 1600000001⟩] (by decide)
    ⟨by decide +kernel, by decide +kernel, trivial⟩

end Sonar3D.CloudThrottle
