import Mathlib.Tactic.Common

/-!
# Promises

A family of promises, each of which settles once: later attempts to settle it change nothing.
Whoever may settle which promise is a relation between the promises and their settlements.
-/

namespace Effects

/-- The settlement of each promise, if it has one. -/
abbrev Promises (ι κ : Type) := ι → Option κ

namespace Promises

variable {ι κ : Type}

/-- No promise has settled. -/
def pending : Promises ι κ := fun _ ↦ none

/-- Every settlement is one that its promise may have. -/
def Respects (ps : Promises ι κ) (own : ι → κ → Prop) : Prop := ∀ i x, ps i = some x → own i x

/-- Where nothing is settled, nothing is settled wrongly. -/
theorem respects_pending (own : ι → κ → Prop) : (pending : Promises ι κ).Respects own := by
  rintro i x ⟨⟩

variable [DecidableEq ι]

/-- The promise `i` settles with `x`, unless it has settled before. -/
def settle (ps : Promises ι κ) (i : ι) (x : κ) : Promises ι κ := fun j ↦
  if j = i then some ((ps i).getD x) else ps j

/-- Several promises settle with `x`, in their order. -/
def settleAll (ps : Promises ι κ) (is : List ι) (x : κ) : Promises ι κ :=
  is.foldl (fun ps i ↦ ps.settle i x) ps

/-- A promise is settled with the first value that it is given. -/
theorem settle_self (ps : Promises ι κ) (i : ι) (x : κ) :
    ps.settle i x i = some ((ps i).getD x) := by
  unfold settle
  rw [if_pos rfl]

/-- Settling one promise leaves the others. -/
theorem settle_ne (ps : Promises ι κ) {i j : ι} (x : κ) (h : j ≠ i) : ps.settle i x j = ps j := by
  unfold settle
  rw [if_neg h]

/-- What has settled stays as it is. -/
theorem settle_of_some {ps : Promises ι κ} {i j : ι} {x y : κ} (h : ps j = some y) :
    ps.settle i x j = some y := by
  by_cases hj : j = i
  · rw [← hj, settle_self, h]
    rfl
  · rw [settle_ne ps x hj, h]

/-- A promise that settles now has to settle with its own. -/
theorem respects_settle {ps : Promises ι κ} {own : ι → κ → Prop} {i : ι} {x : κ} :
    (ps.settle i x).Respects own ↔ ps.Respects own ∧ (ps i = none → own i x) := by
  constructor
  · intro h
    constructor
    · intro j y hj
      exact h j y (settle_of_some hj)
    · intro hi
      apply h i x
      rw [settle_self, hi]
      rfl
  · rintro ⟨hps, hown⟩ j y hj
    by_cases heq : j = i
    · rw [heq, settle_self] at hj
      rw [heq]
      cases hi : ps i with
      | none =>
        rw [hi] at hj
        cases hj
        exact hown hi
      | some z =>
        rw [hi] at hj
        cases hj
        exact hps i _ hi
    · rw [settle_ne ps x heq] at hj
      exact hps j y hj

/-- Each of the promises that settle now has to settle with its own. -/
theorem respects_settleAll {ps : Promises ι κ} {own : ι → κ → Prop} {is : List ι} {x : κ} :
    (ps.settleAll is x).Respects own ↔ ps.Respects own ∧ ∀ i ∈ is, ps i = none → own i x := by
  induction is generalizing ps with
  | nil => simp [settleAll]
  | cons i is ih =>
    have hcons : ps.settleAll (i :: is) x = (ps.settle i x).settleAll is x := rfl
    rw [hcons, ih, respects_settle, and_assoc]
    refine and_congr_right fun _ ↦ ?_
    rw [List.forall_mem_cons]
    refine and_congr_right fun hown ↦ ?_
    constructor
    · intro h j hj hnone
      by_cases heq : j = i
      · rw [heq]
        exact hown (heq ▸ hnone)
      · exact h j hj (by rw [settle_ne ps x heq, hnone])
    · intro h j hj hnone
      by_cases heq : j = i
      · rw [heq, settle_self] at hnone
        cases hnone
      · exact h j hj (by rw [← settle_ne ps x heq, hnone])

end Promises
end Effects
