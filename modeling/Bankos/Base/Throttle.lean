import Mathlib.Data.Int.Order.Basic
import Mathlib.Tactic.Common

/-!
# Counting failures up to a limit

Attempts pass or fail. A counter of the failures since the last success refuses every attempt once
it has reached the limit, and stays there.
-/

namespace Throttle

/-- The failures since the last success in a list of results, where `c` had been counted before. -/
def since (c : ℤ) (results : List Bool) : ℤ := results.foldl (fun c ok ↦ if ok then 0 else c + 1) c

/-- An attempt succeeds when it passes and the limit has not been reached. -/
def admits (limit c : ℤ) (passes : Bool) : Bool := passes && decide (c < limit)

/-- The counter after an attempt. -/
def next (limit c : ℤ) (passes : Bool) : ℤ :=
  if c < limit then if passes then 0 else c + 1 else c

/-- The counter after a sequence of attempts. -/
def count (limit : ℤ) : ℤ → List Bool → ℤ := List.foldl (next limit)

/-- The results of a sequence of attempts. -/
def results (limit : ℤ) : ℤ → List Bool → List Bool
  | _, [] => []
  | c, passes :: attempts => admits limit c passes :: results limit (next limit c passes) attempts

variable {limit c : ℤ}

/-- A counter at the limit stays there. -/
theorem count_of_le (h : limit ≤ c) (attempts : List Bool) : count limit c attempts = c := by
  induction attempts with
  | nil => rfl
  | cons passes attempts ih =>
    show count limit (next limit c passes) attempts = c
    rw [next, if_neg (Int.not_lt.mpr h)]
    exact ih

/-- The counter does not exceed the limit. -/
theorem next_le (hpos : 0 < limit) (h : c ≤ limit) (passes : Bool) :
    next limit c passes ≤ limit := by
  unfold next
  split
  · split
    · omega
    · omega
  · exact h

/-- The counter stays within the limit over any sequence of attempts. -/
theorem count_le (hpos : 0 < limit) (h : c ≤ limit) (attempts : List Bool) :
    count limit c attempts ≤ limit := by
  induction attempts generalizing c with
  | nil => exact h
  | cons passes attempts ih => exact ih (next_le hpos h passes)

/-- Below the limit the counter follows the results. -/
theorem next_eq_since (h : c < limit) (passes : Bool) :
    next limit c passes = since c [admits limit c passes] := by
  unfold next admits since
  rw [if_pos h, decide_eq_true h, Bool.and_true]
  rfl

/-- The limit has not been reached when at no earlier point so many failures had been counted since
the last success. -/
theorem count_lt_iff (h : c < limit) (attempts : List Bool) :
    count limit c attempts < limit ↔
      ∀ earlier, earlier <+: results limit c attempts → since c earlier < limit := by
  induction attempts generalizing c with
  | nil =>
    constructor
    · rintro - earlier hearlier
      rw [List.prefix_nil.mp hearlier]
      exact h
    · rintro -
      exact h
  | cons passes attempts ih =>
    have hnext := next_eq_since h passes
    have hcount : count limit c (passes :: attempts) =
        count limit (next limit c passes) attempts := rfl
    have hsince : ∀ earlier, since c (admits limit c passes :: earlier) =
        since (next limit c passes) earlier := fun earlier ↦ by
      rw [hnext]
      rfl
    rw [hcount]
    constructor
    · intro hlt earlier hearlier
      cases earlier with
      | nil => exact h
      | cons first earlier =>
        obtain ⟨rfl, htail⟩ := List.cons_prefix_cons.mp hearlier
        by_cases hbelow : next limit c passes < limit
        · rw [hsince]
          exact (ih hbelow).mp hlt earlier htail
        · rw [count_of_le (Int.not_lt.mp hbelow)] at hlt
          exact absurd hlt hbelow
    · intro hall
      have hbelow : next limit c passes < limit := by
        rw [hnext]
        exact hall _ (List.cons_prefix_cons.mpr ⟨rfl, List.nil_prefix⟩)
      refine (ih hbelow).mpr fun earlier hearlier ↦ ?_
      rw [← hsince]
      exact hall _ (List.cons_prefix_cons.mpr ⟨rfl, hearlier⟩)

/-- An attempt after a sequence of attempts succeeds when it passes and the limit had been reached
at no earlier point. -/
theorem admits_count_iff (h : c < limit) (attempts : List Bool) (passes : Bool) :
    admits limit (count limit c attempts) passes = true ↔
      passes = true ∧
        ∀ earlier, earlier <+: results limit c attempts → since c earlier < limit := by
  unfold admits
  rw [Bool.and_eq_true, decide_eq_true_eq, count_lt_iff h]

end Throttle
