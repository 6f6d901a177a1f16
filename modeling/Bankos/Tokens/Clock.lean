import Bankos.Auth.Alone

/-!
# Reading the clock

The latest answer of the clock to each request, and its place between the start of the request
and the present.
-/

namespace Bankos

open Js Jwt Effects Storage Prog

/-- The latest answer of the clock. -/
def clockReading (s : Option Nat) : (op : Op) → Except JsError op.Reply → Option Nat
  | .system .dateNow, .ok now => some now
  | _, _ => s

/-- What requests are told by the clock, with no restriction of their calls. -/
abbrev clock : Protocol Api JsError where
  Phase := Option Nat
  allows _ _ := True
  next := clockReading

/-- A reading is the one before, or the time of the world. -/
theorem clockReading_exec (env : Env) (w : World) (s : Option Nat) (op : Op) :
    clockReading s op (exec env w op).1 = s ∨ clockReading s op (exec env w op).1 = some w.now := by
  cases op with
  | system o =>
    cases o with
    | dateNow => exact .inr rfl
    | randomUUID => exact .inl rfl
    | randomBytes length => exact .inl rfl
  | _ => exact .inl rfl

/-- A failed call reads nothing. -/
theorem clockReading_error (s : Option Nat) (op : Op) (e : JsError) :
    clockReading s op (.error e) = s := by
  cases op with
  | system o => cases o <;> rfl
  | _ => rfl

variable {ι : Type} [DecidableEq ι] {env : Env} {ok : Server ι → ServerTurn ι → Prop}
  {p q : Server ι}

/-- What the clock has told each request last. -/
def Server.reading (q : Server ι) : ι → Option Nat := Pool.phase clock none q.log

/-- The clock does not go back. -/
theorem Server.now_le (hq : Server.Reaches env ok p q) : p.world.now ≤ q.world.now := by
  apply hq.world_invariant (J := fun w : World ↦ p.world.now ≤ w.now)
  · exact Nat.le_refl _
  · intro w op h
    rw [exec_now]
    exact h
  · intro w ms h
    exact Nat.le_trans h (Nat.le_add_right _ _)

/-- The rule for readings: what is true of a time when it is read, and stays true while time goes
by, is true of every reading later on. -/
theorem Server.reading_invariant {T : Nat → ι → Nat → Prop} (hq : Server.Reaches env ok p q)
    (h₀ : ∀ i t, p.reading i = some t → T p.world.now i t)
    (hread : ∀ q i, Server.Reaches env ok p q → T q.world.now i q.world.now)
    (hmono : ∀ now now' i t, now ≤ now' → T now i t → T now' i t) :
    ∀ i t, q.reading i = some t → T q.world.now i t := by
  apply hq.phases_invariant (P := clock)
    (J := fun (w : World) i s ↦ ∀ t, s = some t → T w.now i t) h₀
  · intro q i s op hreach hT t ht
    rw [exec_now]
    rcases clockReading_exec env q.world s op with h | h
    · exact hT t (h.symm.trans ht)
    · cases h.symm.trans ht
      exact hread q i hreach
  · intro w i s op hT t ht
    rw [exec_now]
    exact hT t ht
  · intro w i s op e hT t ht
    exact hT t ((clockReading_error s op e).symm.trans ht)
  · intro w i s ms hT t ht
    exact hmono _ _ i t (Nat.le_add_right _ _) (hT t ht)

/-- A request that had not started has read no time before. -/
theorem Server.le_reading (hq : Server.Reaches env ok p q) {i : ι} (hi : p.NotStarted i) {t : Nat}
    (ht : q.reading i = some t) : p.world.now ≤ t := by
  apply Server.reading_invariant (T := fun _ i t ↦ p.NotStarted i → p.world.now ≤ t) hq ?_ ?_ ?_
    i t ht hi
  · intro i t ht hi
    rw [Server.reading, Pool.phase_of_notStarted _ hi] at ht
    cases ht
  · intro q i hreach _
    exact Server.now_le hreach
  · intro now now' i t _ h
    exact h

/-- No request has read a time that is still to come. -/
theorem Server.reading_le {w : World} {rest : ι → Program Response}
    (hq : Server.Reaches env ok (Pool.start w rest) q) (i : ι) (t : Nat)
    (ht : q.reading i = some t) : t ≤ q.world.now := by
  apply Server.reading_invariant (T := fun now _ t ↦ t ≤ now) hq ?_ ?_ ?_ i t ht
  · intro i t ht
    cases ht
  · intro q i _
    exact Nat.le_refl _
  · intro now now' i t hle h
    exact Nat.le_trans h hle

end Bankos
