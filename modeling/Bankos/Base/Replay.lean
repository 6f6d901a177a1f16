import Mathlib.Data.List.DropRight
import Mathlib.Data.List.Induction
import Mathlib.Tactic.Common

/-!
# Objects under calls

An object of type `σ` takes calls of type `κ`. A call returns or throws, and either way it leaves
the object in some state. A sequence of calls is a list of turns, and a buffer of the object that
some calls clear and the others extend holds what the turns since the last clearing have added.
-/

namespace Replay

/-- One call: the object before it, how it ended, and the object after it. -/
structure Turn (κ ε σ : Type) where
  call : κ
  before : σ
  outcome : Except ε Unit
  after : σ

variable {κ ε σ β : Type} (perform : κ → σ → Except ε Unit × σ)

/-- The turn of a call on an object. -/
def turn (s : σ) (call : κ) : Turn κ ε σ := ⟨call, s, (perform call s).1, (perform call s).2⟩

/-- The object after the calls. A call that throws does not keep the next one from being made. -/
def final (s : σ) (calls : List κ) : σ := calls.foldl (fun s call ↦ (perform call s).2) s

/-- The turns of the calls, oldest first. -/
def turns (s : σ) : List κ → List (Turn κ ε σ)
  | [] => []
  | call :: calls => turn perform s call :: turns (perform call s).2 calls

/-- The turns since the last call that clears. -/
def since (clears : κ → Bool) (ts : List (Turn κ ε σ)) : List (Turn κ ε σ) :=
  ts.rtakeWhile fun t ↦ !clears t.call

variable {perform}

/-- One more call starts from the final state of those before. -/
theorem final_concat (s : σ) (calls : List κ) (call : κ) :
    final perform s (calls ++ [call]) = (perform call (final perform s calls)).2 := by
  simp [final]

/-- One more call appends its turn. -/
theorem turns_concat (s : σ) (calls : List κ) (call : κ) :
    turns perform s (calls ++ [call]) =
      turns perform s calls ++ [turn perform (final perform s calls) call] := by
  induction calls generalizing s with
  | nil => rfl
  | cons first calls ih =>
    show turn perform s first :: turns perform (perform first s).2 (calls ++ [call]) = _
    rw [ih]
    rfl

/-- What holds of every single turn holds of the turns of any calls. -/
theorem forall_turns {P : Turn κ ε σ → Prop} (hturn : ∀ s call, P (turn perform s call)) (s : σ)
    (calls : List κ) : ∀ t ∈ turns perform s calls, P t := by
  induction calls generalizing s with
  | nil => exact fun t ht ↦ absurd ht List.not_mem_nil
  | cons call calls ih =>
    intro t ht
    rcases List.mem_cons.mp ht with rfl | ht
    · exact hturn s call
    · exact ih _ t ht

/-- A buffer that is empty at the start, that some calls clear, and that every other call extends by
what its turn shows, holds what is shown by the turns since it was last cleared. -/
theorem buffer_eq {buffer : σ → List β} {shown : Turn κ ε σ → List β} {clears : κ → Bool} {s : σ}
    (hstart : buffer s = [])
    (hclears : ∀ s call, clears call = true → buffer (perform call s).2 = [])
    (hextends : ∀ s call, clears call = false →
      buffer (perform call s).2 = buffer s ++ shown (turn perform s call))
    (calls : List κ) :
    buffer (final perform s calls) = (since clears (turns perform s calls)).flatMap shown := by
  induction calls using List.reverseRecOn with
  | nil => exact hstart
  | append_singleton calls call ih =>
    rw [final_concat, turns_concat]
    unfold since at ih ⊢
    rw [List.rtakeWhile_concat]
    cases hcall : clears call with
    | true =>
      rw [hclears _ _ hcall, if_neg (by simp [turn, hcall])]
      rfl
    | false =>
      rw [hextends _ _ hcall, ih, if_pos (by simp [turn, hcall]), List.flatMap_append]
      simp

end Replay
