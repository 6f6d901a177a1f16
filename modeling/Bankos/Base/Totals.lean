import Bankos.Base.Program
import Mathlib.Algebra.BigOperators.Group.List.Basic
import Mathlib.Algebra.Ring.Nat

/-!
# What runs add up

A quantity that each call adds to, summed over the calls of a program that runs alone and over the
programs of a sequence. A program whose calls add nothing adds nothing.
-/

namespace Effects
namespace Prog

variable {I : Interface} {ε α β W M : Type} [AddMonoid M]

/-- The sum over the calls of a run, each with the surroundings before and after it. -/
def total (exec : Handler I ε W) (f : W → W → M) : Prog I ε α → W → M
  | done _, _ => 0
  | call op next, w => f w (exec w op).2 + (next (exec w op).1).total exec f (exec w op).2

variable {exec : Handler I ε W} {f : W → W → M}

@[simp] theorem total_done (r : Except ε α) (w : W) :
    (done r : Prog I ε α).total exec f w = 0 := rfl

@[simp] theorem total_call (op : I.Op) (next : Except ε (I.Reply op) → Prog I ε α) (w : W) :
    (call op next).total exec f w =
      f w (exec w op).2 + (next (exec w op).1).total exec f (exec w op).2 := rfl

/-- One call. -/
theorem total_perform (op : I.Op) (w : W) :
    (perform op : Prog I ε (I.Reply op)).total exec f w = f w (exec w op).2 := by
  unfold perform
  rw [total_call, total_done, add_zero]

/-- A sequence adds what its first part adds, and what its second part adds if the first
returned. -/
theorem total_bind (p : Prog I ε α) (g : α → Prog I ε β) (w : W) :
    (p >>= g).total exec f w = p.total exec f w +
      match p.run exec w with
      | (.ok a, w') => (g a).total exec f w'
      | (.error _, _) => 0 := by
  induction p generalizing w with
  | done r =>
    cases r with
    | ok a => exact (zero_add _).symm
    | error e => exact (zero_add _).symm
  | call op next ih =>
    rw [call_bind, total_call, total_call, run_call, ih, add_assoc]

/-- A program whose calls add nothing. -/
theorem Uses.total_eq_zero {allowed : I.Op → Prop} {p : Prog I ε α} (hp : p.Uses allowed)
    (hstep : ∀ w op, allowed op → f w (exec w op).2 = 0) (w : W) : p.total exec f w = 0 := by
  induction p generalizing w with
  | done r => rfl
  | call op next ih => rw [total_call, hstep w op hp.1, ih _ (hp.2 _), add_zero]

section Sequence

variable {κ T : Type}

/-- The sum over the runs of a sequence. -/
def totalAll (exec : Handler I ε W) (pass : T → W → W) (program : κ → Prog I ε α) (f : W → W → M)
    (w : W) (calls : List (T × κ)) : M :=
  ((visits exec pass program w calls).map fun v ↦ (program v.2).total exec f v.1).sum

/-- A quantity that the passing leaves alone, and that each run changes by what its calls add but
for what the run omits. -/
theorem runAll_add_omitted {pass : T → W → W} {program : κ → Prog I ε α} {f : W → W → Nat}
    (quantity : W → Nat) (omitted : W → κ → Nat) (hpass : ∀ t w, quantity (pass t w) = quantity w)
    {w : W} {calls : List (T × κ)}
    (hrun : ∀ v ∈ visits exec pass program w calls,
      quantity ((program v.2).run exec v.1).2 + omitted v.1 v.2 =
        quantity v.1 + (program v.2).total exec f v.1) :
    quantity (runAll exec pass program w calls) +
        ((visits exec pass program w calls).map fun v ↦ omitted v.1 v.2).sum =
      quantity w + totalAll exec pass program f w calls := by
  induction calls generalizing w with
  | nil => rfl
  | cons call calls ih =>
    have hcall := hrun _ List.mem_cons_self
    dsimp only at hcall
    rw [hpass] at hcall
    have hrest := ih fun v hv ↦ hrun v (List.mem_cons_of_mem _ hv)
    unfold totalAll at hrest ⊢
    simp only [runAll, visits, List.map_cons, List.sum_cons]
    omega

/-- A quantity to which each run adds what its calls add, less what it omits, ends as it began plus
all that was added exactly when no run omits anything. -/
theorem runAll_eq_add_iff {pass : T → W → W} {program : κ → Prog I ε α} {f : W → W → Nat}
    (quantity : W → Nat) (omitted : W → κ → Nat) (hpass : ∀ t w, quantity (pass t w) = quantity w)
    {w : W} {calls : List (T × κ)}
    (hrun : ∀ v ∈ visits exec pass program w calls,
      quantity ((program v.2).run exec v.1).2 + omitted v.1 v.2 =
        quantity v.1 + (program v.2).total exec f v.1) :
    quantity (runAll exec pass program w calls) =
        quantity w + totalAll exec pass program f w calls ↔
      ∀ v ∈ visits exec pass program w calls, omitted v.1 v.2 = 0 := by
  have hsum := runAll_add_omitted quantity omitted hpass hrun
  have hzero : ((visits exec pass program w calls).map fun v ↦ omitted v.1 v.2).sum = 0 ↔
      ∀ v ∈ visits exec pass program w calls, omitted v.1 v.2 = 0 := by
    rw [List.sum_eq_zero_iff_forall_eq_nat, List.forall_mem_map]
  rw [← hzero]
  omega

end Sequence
end Prog
end Effects
