import Bankos.Base.Program

/-!
# Pauses and faults

Handlers made from another one: something passes before each call, any of the calls fails, or one
of the calls fails without being made. A program that lets failures escape ends with that fault or
as if there were none.
-/

namespace Effects
namespace Prog

variable {I : Interface} {ε α β γ W T : Type}

/-! ### Pauses -/

/-- Before each call something passes, the first of the schedule before the first call. -/
def pausing (exec : Handler I ε W) (pass : T → W → W) : Handler I ε (W × (Nat → T)) :=
  fun s op ↦
    let r := exec (pass (s.2 0) s.1) op
    (r.1, r.2, fun n ↦ s.2 (n + 1))

/-! ### Faults in any of the calls -/

/-- How a call fails: it is not made, or it is made and its reply is lost. -/
inductive Fault (ε : Type) where
  | refused (e : ε)
  | lost (e : ε)
  deriving DecidableEq, Repr

/-- The calls fail as the schedule says, the first of the schedule befalls the first call. -/
def faulting (exec : Handler I ε W) : Handler I ε (W × (Nat → Option (Fault ε))) :=
  fun s op ↦
    let later := fun n ↦ s.2 (n + 1)
    match s.2 0 with
    | none => ((exec s.1 op).1, (exec s.1 op).2, later)
    | some (.refused e) => (.error e, s.1, later)
    | some (.lost e) => (.error e, (exec s.1 op).2, later)

section Faulting

variable {exec : Handler I ε W} {op : I.Op} {w : W} {faults : Nat → Option (Fault ε)} {e : ε}

/-- A call without a fault. -/
theorem faulting_none (h : faults 0 = none) : faulting exec (w, faults) op =
    ((exec w op).1, (exec w op).2, fun n ↦ faults (n + 1)) := by
  simp only [faulting, h]

/-- A call that is not made. -/
theorem faulting_refused (h : faults 0 = some (.refused e)) :
    faulting exec (w, faults) op = (.error e, w, fun n ↦ faults (n + 1)) := by
  simp only [faulting, h]

/-- A call whose reply is lost. -/
theorem faulting_lost (h : faults 0 = some (.lost e)) :
    faulting exec (w, faults) op = (.error e, (exec w op).2, fun n ↦ faults (n + 1)) := by
  simp only [faulting, h]

end Faulting

/-! ### A fault in one call -/

/-- One call among the affected ones fails with `e`, the one that as many of them precede as the
counter says. -/
def failing (exec : Handler I ε W) (affected : I.Op → Bool) (e : ε) :
    Handler I ε (W × Option Nat) :=
  fun s op ↦
    match affected op, s.2 with
    | true, some 0 => (.error e, s.1, none)
    | true, some (k + 1) => ((exec s.1 op).1, (exec s.1 op).2, some k)
    | _, k => ((exec s.1 op).1, (exec s.1 op).2, k)

/-- How many affected calls a program makes when it runs alone. -/
def affectedCalls (exec : Handler I ε W) (affected : I.Op → Bool) (p : Prog I ε α) (w : W) : Nat :=
  (p.trace exec w).countP fun e ↦ affected e.1

/-- The program ends with the failure of an affected call. -/
def Escapes (affected : I.Op → Bool) : Prog I ε α → Prop
  | done _ => True
  | call op next =>
    (affected op = true → ∀ e, next (.error e) = done (.error e)) ∧ ∀ r, (next r).Escapes affected

section Failing

variable {exec : Handler I ε W} {affected : I.Op → Bool} {e : ε}

/-- A call that is not affected is made. -/
theorem failing_other {op : I.Op} (hop : affected op = false) (w : W) (k : Option Nat) :
    failing exec affected e (w, k) op = ((exec w op).1, (exec w op).2, k) := by
  unfold failing
  simp only [hop]

/-- An affected call before the fault is made and counted. -/
theorem failing_counts {op : I.Op} (hop : affected op = true) (w : W) (k : Nat) :
    failing exec affected e (w, some (k + 1)) op = ((exec w op).1, (exec w op).2, some k) := by
  unfold failing
  simp only [hop]

/-- The call that the fault meets is not made. -/
theorem failing_strikes {op : I.Op} (hop : affected op = true) (w : W) :
    failing exec affected e (w, some 0) op = (.error e, w, none) := by
  unfold failing
  simp only [hop]

@[simp] theorem affectedCalls_done (r : Except ε α) (w : W) :
    affectedCalls exec affected (done r : Prog I ε α) w = 0 := rfl

@[simp] theorem affectedCalls_call (op : I.Op) (next : Except ε (I.Reply op) → Prog I ε α) (w : W) :
    affectedCalls exec affected (call op next) w =
      affectedCalls exec affected (next (exec w op).1) (exec w op).2 +
        if affected op then 1 else 0 := List.countP_cons

/-- A sequence makes the calls of its first part, and those of its second part if the first
returned. -/
theorem affectedCalls_bind (p : Prog I ε α) (f : α → Prog I ε β) (w : W) :
    affectedCalls exec affected (p >>= f) w = affectedCalls exec affected p w +
      match p.run exec w with
      | (.ok a, w') => affectedCalls exec affected (f a) w'
      | (.error _, _) => 0 := by
  unfold affectedCalls
  rw [trace_bind, List.countP_append]
  rcases p.run exec w with ⟨_ | a, w'⟩
  · rfl
  · rfl

/-- One affected call, and what is made of its reply. -/
theorem affectedCalls_lookup {op : I.Op} (hop : affected op = true) (g : I.Reply op → α) (w : W) :
    affectedCalls exec affected (perform op >>= fun r ↦ pure (g r) : Prog I ε α) w = 1 := by
  have hcall : (perform op : Prog I ε (I.Reply op)) = call op done := rfl
  rw [affectedCalls_bind, hcall, affectedCalls_call, affectedCalls_done, hop]
  rcases (call op done : Prog I ε (I.Reply op)).run exec w with ⟨_ | a, w'⟩
  · rfl
  · rfl

/-- A program without affected calls. -/
theorem Uses.affectedCalls_eq_zero {p : Prog I ε α} (hp : p.Uses fun op ↦ affected op = false)
    (w : W) : affectedCalls exec affected p w = 0 := by
  unfold affectedCalls
  rw [List.countP_eq_zero]
  intro entry hentry
  rw [hp.of_mem_trace hentry]
  exact Bool.false_ne_true

/-- A program whose calls run out before the counter does runs as without the fault. -/
theorem run_failing_spared {p : Prog I ε α} {w : W} {k : Nat}
    (h : affectedCalls exec affected p w ≤ k) :
    p.run (failing exec affected e) (w, some k) =
      ((p.run exec w).1, (p.run exec w).2, some (k - affectedCalls exec affected p w)) := by
  induction p generalizing w k with
  | done r => rfl
  | call op next ih =>
    rw [affectedCalls_call] at h ⊢
    rw [run_call, run_call]
    cases hop : affected op with
    | false =>
      rw [hop, if_neg Bool.false_ne_true, Nat.add_zero] at h
      rw [failing_other hop, if_neg Bool.false_ne_true, Nat.add_zero]
      exact ih _ h
    | true =>
      rw [hop, if_pos rfl] at h
      cases k with
      | zero => exact absurd h (Nat.not_succ_le_zero _)
      | succ k =>
        rw [failing_counts hop, if_pos rfl, Nat.add_sub_add_right]
        exact ih _ (Nat.le_of_succ_le_succ h)

/-- A program that the fault meets ends with it. -/
theorem Escapes.run_failing_struck {p : Prog I ε α} (hp : p.Escapes affected) {w : W} {k : Nat}
    (h : k < affectedCalls exec affected p w) :
    ∃ w', p.run (failing exec affected e) (w, some k) = (.error e, w', none) := by
  induction p generalizing w k with
  | done r => exact absurd h (Nat.not_lt_zero k)
  | call op next ih =>
    rw [affectedCalls_call] at h
    rw [run_call]
    cases hop : affected op with
    | false =>
      rw [hop, if_neg Bool.false_ne_true, Nat.add_zero] at h
      rw [failing_other hop]
      exact ih _ (hp.2 _) h
    | true =>
      rw [hop, if_pos rfl] at h
      cases k with
      | zero =>
        rw [failing_strikes hop, hp.1 hop e]
        exact ⟨w, rfl⟩
      | succ k =>
        rw [failing_counts hop]
        exact ih _ (hp.2 _) (Nat.lt_of_succ_lt_succ h)

/-- What a call keeps it keeps when it may fail. -/
theorem failing_keeps {J : W → Prop} {op : I.Op} (h : ∀ w, J w → J (exec w op).2)
    (s : W × Option Nat) (hs : J s.1) : J (failing exec affected e s op).2.1 := by
  unfold failing
  split
  · exact hs
  · exact h _ hs
  · exact h _ hs

/-! ### Programs that let failures escape -/

/-- A program that catches nothing lets every failure escape. -/
theorem Straight.escapes {p : Prog I ε α} (hp : p.Straight) : p.Escapes affected := by
  induction p with
  | done r => exact trivial
  | call op next ih =>
    refine ⟨fun _ ↦ hp.1, fun r ↦ ?_⟩
    cases r with
    | ok a => exact ih _ (hp.2 a)
    | error e =>
      rw [hp.1 e]
      exact trivial

/-- A program without affected calls, whatever it does with failures. -/
theorem Uses.escapes {p : Prog I ε α} (hp : p.Uses fun op ↦ affected op = false) :
    p.Escapes affected := by
  induction p with
  | done r => exact trivial
  | call op next ih =>
    refine ⟨fun hop ↦ ?_, fun r ↦ ih r (hp.2 r)⟩
    rw [hp.1] at hop
    cases hop

/-! ### Where a fault leaves a program -/

variable (exec affected e) in
/-- Wherever the fault meets the program, the program ends with it, and what it leaves satisfies
`J`. -/
def Struck (J : W → Prop) (p : Prog I ε α) (w : W) : Prop :=
  ∀ k < affectedCalls exec affected p w,
    ∃ w', p.run (failing exec affected e) (w, some k) = (.error e, w', none) ∧ J w'

variable (exec affected e) in
/-- After `n` affected calls the program goes on as `q` from other surroundings; a fault that meets
one of them ends it, and what is left satisfies `J`. -/
structure Proceeds (J : W → Prop) (n : Nat) (p : Prog I ε α) (w : W) (q : Prog I ε α) (w' : W) :
    Prop where
  calls : affectedCalls exec affected p w = n + affectedCalls exec affected q w'
  spared : ∀ k, p.run (failing exec affected e) (w, some (n + k)) =
    q.run (failing exec affected e) (w', some k)
  struck : ∀ k < n, ∃ w'',
    p.run (failing exec affected e) (w, some k) = (.error e, w'', none) ∧ J w''

/-- No call is made any more. -/
theorem struck_done (J : W → Prop) (r : Except ε α) (w : W) :
    Struck exec affected e J (done r : Prog I ε α) w := fun k hk ↦ absurd hk (Nat.not_lt_zero k)

/-- One call. -/
theorem struck_perform {J : W → Prop} {w : W} (hw : J w) (op : I.Op) :
    Struck exec affected e J (perform op : Prog I ε (I.Reply op)) w := by
  intro k hk
  have hcall : (perform op : Prog I ε (I.Reply op)) = call op done := rfl
  rw [hcall, affectedCalls_call, affectedCalls_done, Nat.zero_add] at hk
  cases hop : affected op with
  | false =>
    rw [hop, if_neg Bool.false_ne_true] at hk
    exact absurd hk (Nat.not_lt_zero k)
  | true =>
    rw [hop, if_pos rfl, Nat.lt_one_iff] at hk
    rw [hk, hcall, run_call, failing_strikes hop]
    exact ⟨w, rfl, hw⟩

/-- A program whose calls keep `J`. -/
theorem Escapes.struck {allowed : I.Op → Prop} {J : W → Prop} {p : Prog I ε α}
    (hp : p.Escapes affected) (huses : p.Uses allowed)
    (hkeep : ∀ w op, allowed op → J w → J (exec w op).2) {w : W} (hw : J w) :
    Struck exec affected e J p w := by
  intro k hk
  obtain ⟨w', hrun⟩ := hp.run_failing_struck (e := e) hk
  have hkept : J (p.run (failing exec affected e) (w, some k)).2.1 :=
    huses.run_keeps (J := fun s ↦ J s.1)
      (fun s op hop hs ↦ failing_keeps (fun w ↦ hkeep w op hop) s hs) (w, some k) hw
  rw [hrun] at hkept
  exact ⟨w', hrun, hkept⟩

/-- A first part that returns leads to the second. -/
theorem Struck.proceeds {J : W → Prop} {p : Prog I ε α} {w w' : W} {a : α}
    (hp : Struck exec affected e J p w) (hrun : p.run exec w = (.ok a, w')) (f : α → Prog I ε β) :
    Proceeds exec affected e J (affectedCalls exec affected p w) (p >>= f) w (f a) w' where
  calls := by rw [affectedCalls_bind, hrun]
  spared k := by rw [run_bind, run_failing_spared (Nat.le_add_right _ k), hrun,
    Nat.add_sub_cancel_left]
  struck k hk := by
    obtain ⟨w'', hstruck, hw''⟩ := hp k hk
    exact ⟨w'', by rw [run_bind, hstruck], hw''⟩

/-- Nothing has happened yet. -/
theorem Proceeds.refl {J : W → Prop} (p : Prog I ε α) (w : W) :
    Proceeds exec affected e J 0 p w p w where
  calls := (Nat.zero_add _).symm
  spared k := by rw [Nat.zero_add]
  struck k hk := absurd hk (Nat.not_lt_zero k)

/-- One after the other. -/
theorem Proceeds.trans {J : W → Prop} {n m : Nat} {p q r : Prog I ε α} {w w' w'' : W}
    (h : Proceeds exec affected e J n p w q w') (h' : Proceeds exec affected e J m q w' r w'') :
    Proceeds exec affected e J (n + m) p w r w'' where
  calls := by rw [h.calls, h'.calls, Nat.add_assoc]
  spared k := by rw [Nat.add_assoc, h.spared, h'.spared]
  struck k hk := by
    rcases Nat.lt_or_ge k n with hlt | hge
    · exact h.struck k hlt
    · obtain ⟨j, rfl⟩ := Nat.exists_eq_add_of_le hge
      rw [h.spared]
      exact h'.struck j (Nat.lt_of_add_lt_add_left hk)

/-- A program is struck before it goes on, or after it. -/
theorem Proceeds.then_struck {J : W → Prop} {n : Nat} {p q : Prog I ε α} {w w' : W}
    (h : Proceeds exec affected e J n p w q w') (hq : Struck exec affected e J q w') :
    Struck exec affected e J p w := by
  intro k hk
  rcases Nat.lt_or_ge k n with hlt | hge
  · exact h.struck k hlt
  · obtain ⟨j, rfl⟩ := Nat.exists_eq_add_of_le hge
    rw [h.calls] at hk
    rw [h.spared]
    exact hq j (Nat.lt_of_add_lt_add_left hk)

/-- A sequence. -/
theorem Struck.bind {J : W → Prop} {p : Prog I ε α} {f : α → Prog I ε β} {w : W}
    (hp : Struck exec affected e J p w)
    (hf : ∀ a w', p.run exec w = (.ok a, w') → Struck exec affected e J (f a) w') :
    Struck exec affected e J (p >>= f) w := by
  rcases hrun : p.run exec w with ⟨e' | a, w'⟩
  · intro k hk
    rw [affectedCalls_bind, hrun, Nat.add_zero] at hk
    obtain ⟨w'', hstruck, hw''⟩ := hp k hk
    exact ⟨w'', by rw [run_bind, hstruck], hw''⟩
  · exact (hp.proceeds hrun f).then_struck (hf a w' hrun)

/-- A first part whose calls keep `J`, in front of a program. -/
theorem Escapes.struck_bind {allowed : I.Op → Prop} {J : W → Prop} {p : Prog I ε α}
    {f : α → Prog I ε β} {w : W} (hp : p.Escapes affected) (huses : p.Uses allowed)
    (hkeep : ∀ w op, allowed op → J w → J (exec w op).2) (hw : J w)
    (hf : ∀ a w', p.run exec w = (.ok a, w') → J w' → Struck exec affected e J (f a) w') :
    Struck exec affected e J (p >>= f) w := by
  apply (hp.struck huses hkeep hw).bind
  intro a w' hrun
  have hkept := huses.run_keeps hkeep w hw
  rw [hrun] at hkept
  exact hf a w' hrun hkept

end Failing
end Prog
end Effects
