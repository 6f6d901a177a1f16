import Mathlib.Tactic.Common

/-!
# Programs over an interface of calls

A program either has finished, with a result or an exception, or makes one call and goes
on with the reply. A call may also be answered by an exception. The tree is the common
source of two readings: `run` executes it alone against a handler, and the pools of
`Base/Pool.lean` interleave many of them call by call.
One logic asks what a program returns if its calls are answered within bounds; the other, at the
end, follows the calls of a program through the phases of a protocol.
-/

namespace Effects

/-- The calls a program may make, and the type of the reply to each. -/
structure Interface where
  Op : Type
  Reply : Op → Type

/-- A finished program, or a call together with the continuation of its reply. -/
inductive Prog (I : Interface) (ε α : Type) where
  | done (result : Except ε α)
  | call (op : I.Op) (next : Except ε (I.Reply op) → Prog I ε α)

namespace Prog

variable {I : Interface} {ε α β γ W : Type}

/-- Sequencing: an exception ends the whole program. -/
def bind : Prog I ε α → (α → Prog I ε β) → Prog I ε β
  | done (.ok a), f => f a
  | done (.error e), _ => done (.error e)
  | call op next, f => call op fun r ↦ (next r).bind f

/-- Exception handling: the handler continues where the exception was raised. -/
def tryCatch : Prog I ε α → (ε → Prog I ε α) → Prog I ε α
  | done (.ok a), _ => done (.ok a)
  | done (.error e), h => h e
  | call op next, h => call op fun r ↦ (next r).tryCatch h

/-- Programs are written in `do` notation. -/
instance : Monad (Prog I ε) where
  pure a := done (.ok a)
  bind := bind

/-- `throw` and `try` are those of the programs themselves. -/
instance : MonadExceptOf ε (Prog I ε) where
  throw e := done (.error e)
  tryCatch := tryCatch

/-- The program that makes one call and returns its reply. -/
def perform (op : I.Op) : Prog I ε (I.Reply op) := call op done

/-- `for (const x of xs) await f(x)`, with the results in order. -/
def each (xs : List β) (f : β → Prog I ε γ) : Prog I ε (List γ) :=
  match xs with
  | [] => pure []
  | x :: xs => do
    let y ← f x
    let ys ← each xs f
    pure (y :: ys)

@[simp] theorem isOk_ok (a : α) : (Except.ok a : Except ε α).isOk = true := rfl

@[simp] theorem isOk_error (e : ε) : (Except.error e : Except ε α).isOk = false := rfl

@[simp] theorem pure_eq (a : α) : (pure a : Prog I ε α) = done (.ok a) := rfl

@[simp] theorem throw_eq (e : ε) : (throw e : Prog I ε α) = done (.error e) := rfl

@[simp] theorem done_ok_bind (a : α) (f : α → Prog I ε β) : (done (.ok a) >>= f) = f a := rfl

@[simp] theorem done_error_bind (e : ε) (f : α → Prog I ε β) :
    (done (.error e) >>= f) = done (.error e) := rfl

@[simp] theorem call_bind (op : I.Op) (next : Except ε (I.Reply op) → Prog I ε α)
    (f : α → Prog I ε β) : (call op next >>= f) = call op fun r ↦ next r >>= f := rfl

@[simp] theorem done_ok_tryCatch (a : α) (h : ε → Prog I ε α) :
    (MonadExcept.tryCatch (done (.ok a)) h : Prog I ε α) = done (.ok a) := rfl

@[simp] theorem done_error_tryCatch (e : ε) (h : ε → Prog I ε α) :
    (MonadExcept.tryCatch (done (.error e)) h : Prog I ε α) = h e := rfl

@[simp] theorem call_tryCatch (op : I.Op) (next : Except ε (I.Reply op) → Prog I ε α)
    (h : ε → Prog I ε α) :
    (MonadExcept.tryCatch (call op next) h : Prog I ε α) =
      call op fun r ↦ MonadExcept.tryCatch (next r) h := rfl

/-! ### Running alone -/

/-- How the surroundings answer a call, and what it does to them. -/
abbrev Handler (I : Interface) (ε W : Type) :=
  W → (op : I.Op) → Except ε (I.Reply op) × W

/-- Run a program to its end with nothing else in between. -/
def run (exec : Handler I ε W) : Prog I ε α → W → Except ε α × W
  | done r, w => (r, w)
  | call op next, w => (next (exec w op).1).run exec (exec w op).2

@[simp] theorem run_done (exec : Handler I ε W) (r : Except ε α) (w : W) :
    (done r : Prog I ε α).run exec w = (r, w) := rfl

@[simp] theorem run_call (exec : Handler I ε W) (op : I.Op)
    (next : Except ε (I.Reply op) → Prog I ε α) (w : W) :
    (call op next).run exec w = (next (exec w op).1).run exec (exec w op).2 := rfl

/-- One call is answered by the surroundings. -/
theorem run_perform (exec : Handler I ε W) (op : I.Op) (w : W) :
    (perform op : Prog I ε (I.Reply op)).run exec w = exec w op := rfl

/-- A sequence runs its first part, and its second part if the first returned. -/
theorem run_bind (exec : Handler I ε W) (p : Prog I ε α) (f : α → Prog I ε β) (w : W) :
    (p >>= f).run exec w =
      match p.run exec w with
      | (.ok a, w') => (f a).run exec w'
      | (.error e, w') => (.error e, w') := by
  induction p generalizing w with
  | done r => cases r <;> rfl
  | call op next ih =>
    rw [call_bind, run_call, run_call]
    exact ih _ _

/-- A guarded program runs its body, and its handler if the body threw. -/
theorem run_tryCatch (exec : Handler I ε W) (p : Prog I ε α) (h : ε → Prog I ε α) (w : W) :
    (MonadExcept.tryCatch p h : Prog I ε α).run exec w =
      match p.run exec w with
      | (.ok a, w') => (.ok a, w')
      | (.error e, w') => (h e).run exec w' := by
  induction p generalizing w with
  | done r => cases r <;> rfl
  | call op next ih =>
    rw [call_tryCatch, run_call, run_call]
    exact ih _ _

/-- A loop whose passes return without an effect. -/
theorem run_each (exec : Handler I ε W) {xs : List β} {f : β → Prog I ε γ} {g : β → γ} {w : W}
    (h : ∀ x ∈ xs, (f x).run exec w = (.ok (g x), w)) :
    (each xs f).run exec w = (.ok (xs.map g), w) := by
  induction xs with
  | nil => rfl
  | cons x xs ih =>
    unfold each
    rw [run_bind, h x (by simp)]
    dsimp only
    rw [run_bind, ih fun x hx ↦ h x (by simp [hx])]
    rfl

/-- The calls of a program that runs alone, with the replies to them. -/
def trace (exec : Handler I ε W) :
    Prog I ε α → W → List ((op : I.Op) × Except ε (I.Reply op))
  | done _, _ => []
  | call op next, w => ⟨op, (exec w op).1⟩ :: (next (exec w op).1).trace exec (exec w op).2

@[simp] theorem trace_done (exec : Handler I ε W) (r : Except ε α) (w : W) :
    (done r : Prog I ε α).trace exec w = [] := rfl

/-- A sequence makes the calls of its first part, and those of its second part if the first
returned. -/
theorem trace_bind (exec : Handler I ε W) (p : Prog I ε α) (f : α → Prog I ε β) (w : W) :
    (p >>= f).trace exec w = p.trace exec w ++
      match p.run exec w with
      | (.ok a, w') => (f a).trace exec w'
      | (.error _, _) => [] := by
  induction p generalizing w with
  | done r => cases r <;> rfl
  | call op next ih =>
    have hcall : ∀ q : Except ε (I.Reply op) → Prog I ε β, (call op q).trace exec w =
        ⟨op, (exec w op).1⟩ :: (q (exec w op).1).trace exec (exec w op).2 := fun _ ↦ rfl
    rw [call_bind, hcall, ih]
    rfl

/-! ### Running one after the other -/

section Sequence

variable {κ T : Type}

/-- The programs of a sequence, each with the surroundings that it starts in; before each of them
something passes. -/
def visits (exec : Handler I ε W) (pass : T → W → W) (program : κ → Prog I ε α) :
    W → List (T × κ) → List (W × κ)
  | _, [] => []
  | w, (t, c) :: calls =>
    (pass t w, c) :: visits exec pass program ((program c).run exec (pass t w)).2 calls

/-- The surroundings after a sequence. -/
def runAll (exec : Handler I ε W) (pass : T → W → W) (program : κ → Prog I ε α) :
    W → List (T × κ) → W
  | w, [] => w
  | w, (t, c) :: calls => runAll exec pass program ((program c).run exec (pass t w)).2 calls

variable {exec : Handler I ε W} {pass : T → W → W} {program : κ → Prog I ε α}

/-- The visits of a sequence in two parts. -/
theorem visits_append (calls calls' : List (T × κ)) (w : W) :
    visits exec pass program w (calls ++ calls') = visits exec pass program w calls ++
      visits exec pass program (runAll exec pass program w calls) calls' := by
  induction calls generalizing w with
  | nil => rfl
  | cons call calls ih => exact congrArg (List.cons _) (ih _)

/-- A sequence in two parts. -/
theorem runAll_append (calls calls' : List (T × κ)) (w : W) :
    runAll exec pass program w (calls ++ calls') =
      runAll exec pass program (runAll exec pass program w calls) calls' := by
  induction calls generalizing w with
  | nil => rfl
  | cons call calls ih => exact ih _

/-- What a program and the passing keep is kept by a sequence. -/
theorem runAll_keeps {J : W → Prop} (hpass : ∀ t w, J w → J (pass t w))
    (hrun : ∀ w c, J w → J ((program c).run exec w).2) (calls : List (T × κ)) {w : W} (h : J w) :
    J (runAll exec pass program w calls) := by
  induction calls generalizing w with
  | nil => exact h
  | cons call calls ih => exact ih (hrun _ _ (hpass _ _ h))

end Sequence

/-! ### Programs restricted to some of the calls -/

/-- Every call the program may make, whatever it was told before, is an allowed one. -/
def Uses (allowed : I.Op → Prop) : Prog I ε α → Prop
  | done _ => True
  | call op next => allowed op ∧ ∀ r, (next r).Uses allowed

/-- A finished program makes no call. -/
theorem uses_done (allowed : I.Op → Prop) (r : Except ε α) : (done r : Prog I ε α).Uses allowed :=
  trivial

/-- One allowed call. -/
theorem uses_perform {allowed : I.Op → Prop} {op : I.Op} (h : allowed op) :
    (perform op : Prog I ε (I.Reply op)).Uses allowed :=
  ⟨h, fun _ ↦ trivial⟩

/-- A sequence uses what its parts use. -/
theorem uses_bind {allowed : I.Op → Prop} {p : Prog I ε α} {f : α → Prog I ε β}
    (hp : p.Uses allowed) (hf : ∀ a, (f a).Uses allowed) : (p >>= f).Uses allowed := by
  induction p with
  | done r =>
    cases r with
    | ok a => exact hf a
    | error e => exact trivial
  | call op next ih => exact ⟨hp.1, fun r ↦ ih r (hp.2 r)⟩

/-- A guarded program uses what its body and its handler use. -/
theorem uses_tryCatch {allowed : I.Op → Prop} {p : Prog I ε α} {h : ε → Prog I ε α}
    (hp : p.Uses allowed) (hh : ∀ e, (h e).Uses allowed) :
    (MonadExcept.tryCatch p h : Prog I ε α).Uses allowed := by
  induction p with
  | done r =>
    cases r with
    | ok a => exact trivial
    | error e => exact hh e
  | call op next ih => exact ⟨hp.1, fun r ↦ ih r (hp.2 r)⟩

/-- A loop uses what its body uses. -/
theorem uses_each {allowed : I.Op → Prop} {xs : List β} {f : β → Prog I ε γ}
    (hf : ∀ x ∈ xs, (f x).Uses allowed) : (each xs f).Uses allowed := by
  induction xs with
  | nil => exact trivial
  | cons x xs ih =>
    apply uses_bind (hf x (by simp))
    intro y
    exact uses_bind (ih fun x hx ↦ hf x (by simp [hx])) fun ys ↦ trivial

/-- Allowing more calls keeps a program within bounds. -/
theorem Uses.mono {allowed allowed' : I.Op → Prop} {p : Prog I ε α} (hp : p.Uses allowed)
    (h : ∀ op, allowed op → allowed' op) : p.Uses allowed' := by
  induction p with
  | done r => exact trivial
  | call op next ih => exact ⟨h op hp.1, fun r ↦ ih r (hp.2 r)⟩

/-- A property of the surroundings that every allowed call keeps is kept by a run. -/
theorem Uses.run_keeps {allowed : I.Op → Prop} {exec : Handler I ε W} {J : W → Prop}
    {p : Prog I ε α} (hp : p.Uses allowed)
    (hstep : ∀ w op, allowed op → J w → J (exec w op).2) (w : W) (h : J w) :
    J (p.run exec w).2 := by
  induction p generalizing w with
  | done r => exact h
  | call op next ih => exact ih _ (hp.2 _) _ (hstep w op hp.1 h)

/-- The calls that a program makes when it runs alone are allowed ones. -/
theorem Uses.of_mem_trace {allowed : I.Op → Prop} {exec : Handler I ε W} {p : Prog I ε α}
    (hp : p.Uses allowed) {w : W} {e : (op : I.Op) × Except ε (I.Reply op)}
    (he : e ∈ p.trace exec w) : allowed e.1 := by
  induction p generalizing w with
  | done r => cases he
  | call op next ih =>
    rcases List.mem_cons.mp he with rfl | he
    · exact hp.1
    · exact ih _ (hp.2 _) he

/-! ### Going on -/

/-- After some calls, each of which satisfies `C`, the run of the program is that of another one
from other surroundings. -/
structure GoesOn (exec : Handler I ε W) (C : I.Op → Prop) (p : Prog I ε α) (w : W) (q : Prog I ε α)
    (w' : W) : Prop where
  run : p.run exec w = q.run exec w'
  trace : ∃ before, p.trace exec w = before ++ q.trace exec w' ∧ ∀ e ∈ before, C e.1

section GoesOn

variable {exec : Handler I ε W} {C : I.Op → Prop} {p q r : Prog I ε α} {w w' w'' : W}

/-- Nothing has happened yet. -/
theorem GoesOn.refl (p : Prog I ε α) (w : W) : GoesOn exec C p w p w := ⟨rfl, [], rfl, by simp⟩

/-- Going on twice. -/
theorem GoesOn.trans (h : GoesOn exec C p w q w') (h' : GoesOn exec C q w' r w'') :
    GoesOn exec C p w r w'' := by
  obtain ⟨before, htrace, hbefore⟩ := h.trace
  obtain ⟨after, htrace', hafter⟩ := h'.trace
  refine ⟨h.run.trans h'.run, before ++ after, ?_, ?_⟩
  · rw [htrace, htrace', List.append_assoc]
  · intro e he
    rcases List.mem_append.mp he with he | he
    · exact hbefore e he
    · exact hafter e he

/-- A sequence goes on with its second part when the first one returns. -/
theorem Uses.goesOn {p : Prog I ε β} (hp : p.Uses C) {f : β → Prog I ε α} {b : β}
    (h : p.run exec w = (.ok b, w')) : GoesOn exec C (p >>= f) w (f b) w' := by
  refine ⟨by rw [run_bind, h], p.trace exec w, ?_, fun e he ↦ hp.of_mem_trace he⟩
  rw [trace_bind, h]

end GoesOn

/-! ### Programs whose calls are answered within bounds -/

/-- If every reply satisfies `H`, the program returns only what satisfies `Q`. Nothing is said of
exceptions. -/
def Told (H : (op : I.Op) → Except ε (I.Reply op) → Prop) : Prog I ε α → (α → Prop) → Prop
  | done r, Q => ∀ a, r = .ok a → Q a
  | call op next, Q => ∀ r, H op r → (next r).Told H Q

section Told

variable {H H' : (op : I.Op) → Except ε (I.Reply op) → Prop}

/-- A program that returns at once. -/
theorem told_pure {a : α} {Q : α → Prop} (h : Q a) : (pure a : Prog I ε α).Told H Q := by
  rintro _ ⟨rfl⟩
  exact h

/-- A program that throws returns nothing. -/
theorem told_throw {e : ε} {Q : α → Prop} : (throw e : Prog I ε α).Told H Q := by
  rintro _ ⟨⟩

/-- One call. -/
theorem told_perform {op : I.Op} {Q : I.Reply op → Prop} (h : ∀ a, H op (.ok a) → Q a) :
    (perform op : Prog I ε (I.Reply op)).Told H Q := by
  rintro r hr a rfl
  exact h a hr

/-- A weaker end condition is met as well. -/
theorem Told.mono {p : Prog I ε α} {Q Q' : α → Prop} (hp : p.Told H Q) (h : ∀ a, Q a → Q' a) :
    p.Told H Q' := by
  induction p with
  | done r => exact fun a ha ↦ h a (hp a ha)
  | call op next ih => exact fun r hr ↦ ih r (hp r hr)

/-- Nothing is asked of what is returned. -/
theorem told_any (p : Prog I ε α) : p.Told H fun _ ↦ True := by
  induction p with
  | done r => exact fun _ _ ↦ trivial
  | call op next ih => exact fun r _ ↦ ih r

/-- The rule for a sequence. -/
theorem Told.bind {p : Prog I ε α} {f : α → Prog I ε β} {Q : β → Prop}
    (hp : p.Told H fun a ↦ (f a).Told H Q) : (p >>= f).Told H Q := by
  induction p with
  | done r =>
    cases r with
    | ok a => exact hp a rfl
    | error e => exact told_throw
  | call op next ih => exact fun r hr ↦ ih r (hp r hr)

/-- The rule for a sequence, with a condition `R` that holds between the two parts. -/
theorem Told.seq {p : Prog I ε α} {f : α → Prog I ε β} {R : α → Prop} {Q : β → Prop}
    (hp : p.Told H R) (hf : ∀ a, R a → (f a).Told H Q) : (p >>= f).Told H Q :=
  Told.bind (hp.mono hf)

/-- A program that makes only some of the calls needs bounds for these only. -/
theorem Told.within {allowed : I.Op → Prop} {p : Prog I ε α} {Q : α → Prop} (hp : p.Told H Q)
    (hu : p.Uses allowed) (h : ∀ op r, allowed op → H' op r → H op r) : p.Told H' Q := by
  induction p with
  | done r => exact hp
  | call op next ih => exact fun r hr ↦ ih r (hp r (h op r hu.1 hr)) (hu.2 r)

/-- Any program in front of a program. -/
theorem told_then {p : Prog I ε α} {f : α → Prog I ε β} {Q : β → Prop}
    (hf : ∀ a, (f a).Told H Q) : (p >>= f).Told H Q :=
  (told_any p).seq fun a _ ↦ hf a

/-- A guarded program returns what its body or its handler returns. -/
theorem told_tryCatch {p : Prog I ε α} {h : ε → Prog I ε α} {Q : α → Prop} (hp : p.Told H Q)
    (hh : ∀ e, (h e).Told H Q) : (MonadExcept.tryCatch p h : Prog I ε α).Told H Q := by
  induction p with
  | done r =>
    cases r with
    | ok a => exact hp
    | error e => exact hh e
  | call op next ih => exact fun r hr ↦ ih r (hp r hr)

/-- A loop whose passes return the values of a function. -/
theorem told_each {xs : List β} {f : β → Prog I ε γ} {g : β → γ}
    (hf : ∀ x ∈ xs, (f x).Told H fun y ↦ y = g x) :
    (each xs f).Told H fun ys ↦ ys = xs.map g := by
  induction xs with
  | nil => exact told_pure rfl
  | cons x xs ih =>
    apply Told.seq (hf x (by simp))
    rintro _ rfl
    apply Told.seq (ih fun x hx ↦ hf x (by simp [hx]))
    rintro _ rfl
    exact told_pure rfl

end Told

/-! ### Programs that throw nothing of their own -/

/-- The program throws nothing of its own and catches nothing: it ends with the error of the first
call that fails, and returns if none does. -/
def Straight : Prog I ε α → Prop
  | done (.ok _) => True
  | done (.error _) => False
  | call _ next => (∀ e, next (.error e) = done (.error e)) ∧ ∀ a, (next (.ok a)).Straight

/-- A program that returns at once. -/
theorem straight_pure (a : α) : (pure a : Prog I ε α).Straight := trivial

/-- One call. -/
theorem straight_perform (op : I.Op) : (perform op : Prog I ε (I.Reply op)).Straight :=
  ⟨fun _ ↦ rfl, fun _ ↦ trivial⟩

/-- A sequence. -/
theorem Straight.bind {p : Prog I ε α} {f : α → Prog I ε β} (hp : p.Straight)
    (hf : ∀ a, (f a).Straight) : (p >>= f).Straight := by
  induction p with
  | done r =>
    cases r with
    | ok a => exact hf a
    | error e => exact hp.elim
  | call op next ih =>
    refine ⟨fun e ↦ ?_, fun a ↦ ih _ (hp.2 a)⟩
    show (next (.error e)).bind f = done (.error e)
    rw [hp.1 e]
    rfl

/-- A loop. -/
theorem straight_each {xs : List β} {f : β → Prog I ε γ} (hf : ∀ x ∈ xs, (f x).Straight) :
    (each xs f).Straight := by
  induction xs with
  | nil => exact straight_pure []
  | cons x xs ih =>
    apply (hf x (by simp)).bind
    intro y
    apply (ih fun x hx ↦ hf x (by simp [hx])).bind
    exact fun ys ↦ straight_pure (y :: ys)

/-! ### How a program ends when its calls are answered within bounds -/

/-- If every reply satisfies `H`, the program ends with what satisfies `Q`. -/
def Ends (H : (op : I.Op) → Except ε (I.Reply op) → Prop) :
    Prog I ε α → (Except ε α → Prop) → Prop
  | done r, Q => Q r
  | call op next, Q => ∀ r, H op r → (next r).Ends H Q

/-- If every reply satisfies `H`, the program returns. -/
def Returns (H : (op : I.Op) → Except ε (I.Reply op) → Prop) (p : Prog I ε α) : Prop :=
  p.Ends H fun r ↦ ∃ a, r = .ok a

/-- Every reply to the program, run alone, satisfies `H`. -/
def Answers (exec : Handler I ε W) (H : (op : I.Op) → Except ε (I.Reply op) → Prop) :
    Prog I ε α → W → Prop
  | done _, _ => True
  | call op next, w =>
    H op (exec w op).1 ∧ (next (exec w op).1).Answers exec H (exec w op).2

section Ends

variable {H : (op : I.Op) → Except ε (I.Reply op) → Prop} {exec : Handler I ε W}

/-- Whether the replies satisfy a decidable condition can be computed. -/
instance decidableAnswers [∀ op r, Decidable (H op r)] :
    (p : Prog I ε α) → (w : W) → Decidable (p.Answers exec H w)
  | done _, _ => isTrue trivial
  | call op next, w =>
    have := decidableAnswers (next (exec w op).1) (exec w op).2
    inferInstanceAs
      (Decidable (H op (exec w op).1 ∧ (next (exec w op).1).Answers exec H (exec w op).2))

/-- A weaker end condition is met as well. -/
theorem Ends.mono {p : Prog I ε α} {Q Q' : Except ε α → Prop} (hp : p.Ends H Q)
    (h : ∀ r, Q r → Q' r) : p.Ends H Q' := by
  induction p with
  | done r => exact h r hp
  | call op next ih => exact fun r hr ↦ ih r (hp r hr)

/-- The rule for a sequence: the second part starts where the first one returned. -/
theorem ends_bind {p : Prog I ε α} {f : α → Prog I ε β} {Q : Except ε β → Prop}
    (hp : p.Ends H fun r ↦
      match r with
      | .ok a => (f a).Ends H Q
      | .error e => Q (.error e)) : (p >>= f).Ends H Q := by
  induction p with
  | done r => cases r <;> exact hp
  | call op next ih => exact fun r hr ↦ ih r (hp r hr)

/-- A program that returns, in front of a program. -/
theorem Returns.then {p : Prog I ε α} {f : α → Prog I ε β} {Q : Except ε β → Prop}
    (hp : p.Returns H) (hf : ∀ a, (f a).Ends H Q) : (p >>= f).Ends H Q := by
  apply ends_bind
  apply Ends.mono hp
  rintro _ ⟨a, rfl⟩
  exact hf a

/-- A program that returns at once. -/
theorem returns_pure (a : α) : (pure a : Prog I ε α).Returns H := ⟨a, rfl⟩

/-- One call that is answered. -/
theorem returns_perform {op : I.Op} (h : ∀ r, H op r → ∃ a, r = .ok a) :
    (perform op : Prog I ε (I.Reply op)).Returns H := h

/-- A sequence of programs that return. -/
theorem Returns.bind {p : Prog I ε α} {f : α → Prog I ε β} (hp : p.Returns H)
    (hf : ∀ a, (f a).Returns H) : (p >>= f).Returns H := hp.then hf

/-- A loop whose passes return. -/
theorem returns_each {xs : List β} {f : β → Prog I ε γ} (hf : ∀ x ∈ xs, (f x).Returns H) :
    (each xs f).Returns H := by
  induction xs with
  | nil => exact returns_pure []
  | cons x xs ih =>
    apply (hf x (by simp)).bind
    intro y
    apply (ih fun x hx ↦ hf x (by simp [hx])).bind
    exact fun ys ↦ returns_pure (y :: ys)

/-- A guarded program whose handler returns. -/
theorem returns_tryCatch {p : Prog I ε α} {h : ε → Prog I ε α} (hh : ∀ e, (h e).Returns H) :
    (MonadExcept.tryCatch p h : Prog I ε α).Returns H := by
  induction p with
  | done r =>
    cases r with
    | ok a => exact returns_pure a
    | error e => exact hh e
  | call op next ih => exact fun r _ ↦ ih r

/-- A program that throws nothing of its own returns, if all its calls are answered. -/
theorem Straight.returns {p : Prog I ε α} (hp : p.Straight)
    (huses : p.Uses fun op ↦ ∀ r, H op r → ∃ a, r = .ok a) : p.Returns H := by
  induction p with
  | done r =>
    cases r with
    | ok a => exact returns_pure a
    | error e => exact hp.elim
  | call op next ih =>
    intro r hr
    obtain ⟨a, rfl⟩ := huses.1 r hr
    exact ih _ (hp.2 a) (huses.2 _)

/-- The calls of a sequence are answered within bounds when those of its parts are. -/
theorem answers_bind {p : Prog I ε α} {f : α → Prog I ε β} {w : W} :
    (p >>= f).Answers exec H w ↔ p.Answers exec H w ∧
      match p.run exec w with
      | (.ok a, w') => (f a).Answers exec H w'
      | (.error _, _) => True := by
  induction p generalizing w with
  | done r =>
    cases r with
    | ok a => exact (and_iff_right trivial).symm
    | error e => exact (and_iff_right trivial).symm
  | call op next ih =>
    rw [call_bind, run_call]
    exact (and_congr_right fun _ ↦ ih _).trans and_assoc.symm

/-- The second part of a sequence whose calls are answered within bounds. -/
theorem Answers.after {p : Prog I ε α} {f : α → Prog I ε β} {a : α} {w w' : W}
    (h : (p >>= f).Answers exec H w) (hp : p.run exec w = (.ok a, w')) :
    (f a).Answers exec H w' := by
  have hrest := (answers_bind.mp h).2
  rw [hp] at hrest
  exact hrest

/-- Bounds that the surroundings keep to are kept to in every run. -/
theorem answers_of_forall (h : ∀ w op, H op (exec w op).1) (p : Prog I ε α) (w : W) :
    p.Answers exec H w := by
  induction p generalizing w with
  | done r => exact trivial
  | call op next ih => exact ⟨h w op, ih _ _⟩

/-- The replies of a run are those that it leaves in its trace. -/
theorem answers_iff_trace {p : Prog I ε α} {w : W} :
    p.Answers exec H w ↔ ∀ e ∈ p.trace exec w, H e.1 e.2 := by
  induction p generalizing w with
  | done r => exact iff_of_true trivial (by simp)
  | call op next ih =>
    have htrace : (call op next).trace exec w =
        ⟨op, (exec w op).1⟩ :: (next (exec w op).1).trace exec (exec w op).2 := rfl
    rw [htrace, List.forall_mem_cons]
    exact and_congr_right fun _ ↦ ih _

/-- What a program within bounds goes on with is within them. -/
theorem GoesOn.answers {C : I.Op → Prop} {p q : Prog I ε α} {w w' : W}
    (h : GoesOn exec C p w q w') (hp : p.Answers exec H w) : q.Answers exec H w' := by
  obtain ⟨before, htrace, -⟩ := h.trace
  rw [answers_iff_trace, htrace] at hp
  exact answers_iff_trace.mpr fun e he ↦ hp e (List.mem_append_right _ he)

/-- Two bounds at once. -/
theorem Answers.and {H' : (op : I.Op) → Except ε (I.Reply op) → Prop} {p : Prog I ε α} {w : W}
    (h : p.Answers exec H w) (h' : p.Answers exec H' w) :
    p.Answers exec (fun op r ↦ H op r ∧ H' op r) w := by
  induction p generalizing w with
  | done r => exact trivial
  | call op next ih => exact ⟨⟨h.1, h'.1⟩, ih _ h.2 h'.2⟩

/-- How a program ends within bounds is how it ends within narrower ones. -/
theorem Ends.narrow {H' : (op : I.Op) → Except ε (I.Reply op) → Prop} {p : Prog I ε α}
    {Q : Except ε α → Prop} (hp : p.Ends H Q) (h : ∀ op r, H' op r → H op r) : p.Ends H' Q := by
  induction p with
  | done r => exact hp
  | call op next ih => exact fun r hr ↦ ih r (hp r (h op r hr))

/-- A program that runs alone and is answered within bounds ends as it does then. -/
theorem Ends.run {p : Prog I ε α} {Q : Except ε α → Prop} (hp : p.Ends H Q) {w : W}
    (hw : p.Answers exec H w) : Q (p.run exec w).1 := by
  induction p generalizing w with
  | done r => exact hp
  | call op next ih => exact ih _ (hp _ hw.1) hw.2

end Ends

/-! ### Protocols -/

/-- An abstract view of one program's calls: where it stands, what it may call there, and
where each reply takes it. -/
structure Protocol (I : Interface) (ε : Type) where
  Phase : Type
  allows : Phase → I.Op → Prop
  next : Phase → (op : I.Op) → Except ε (I.Reply op) → Phase

variable {P : Protocol I ε}

/-- From phase `q` the program keeps to the protocol, and it ends in a phase and with a
result that satisfy `post`. -/
def Obeys (P : Protocol I ε) (q : P.Phase) :
    Prog I ε α → (P.Phase → Except ε α → Prop) → Prop
  | done r, post => post q r
  | call op next, post => P.allows q op ∧ ∀ r, (next r).Obeys P (P.next q op r) post

@[simp] theorem obeys_done (q : P.Phase) (r : Except ε α) (post : P.Phase → Except ε α → Prop) :
    (done r : Prog I ε α).Obeys P q post ↔ post q r := Iff.rfl

/-- The rule for a sequence: the second part starts where the first one returned. -/
theorem obeys_bind {q : P.Phase} {p : Prog I ε α} {f : α → Prog I ε β}
    {post : P.Phase → Except ε β → Prop}
    (hp : p.Obeys P q fun q' r ↦
      match r with
      | .ok a => (f a).Obeys P q' post
      | .error e => post q' (.error e)) :
    (p >>= f).Obeys P q post := by
  induction p generalizing q with
  | done r =>
    cases r with
    | ok a => exact hp
    | error e => exact hp
  | call op next ih => exact ⟨hp.1, fun r ↦ ih r (hp.2 r)⟩

/-- The rule for a guarded program: the handler starts where the exception was raised. -/
theorem obeys_tryCatch {q : P.Phase} {p : Prog I ε α} {h : ε → Prog I ε α}
    {post : P.Phase → Except ε α → Prop}
    (hp : p.Obeys P q fun q' r ↦
      match r with
      | .ok a => post q' (.ok a)
      | .error e => (h e).Obeys P q' post) :
    (MonadExcept.tryCatch p h : Prog I ε α).Obeys P q post := by
  induction p generalizing q with
  | done r =>
    cases r with
    | ok a => exact hp
    | error e => exact hp
  | call op next ih => exact ⟨hp.1, fun r ↦ ih r (hp.2 r)⟩

/-- A weaker end condition is met as well. -/
theorem Obeys.mono {q : P.Phase} {p : Prog I ε α} {post post' : P.Phase → Except ε α → Prop}
    (hp : p.Obeys P q post) (h : ∀ q' r, post q' r → post' q' r) : p.Obeys P q post' := by
  induction p generalizing q with
  | done r => exact h _ _ hp
  | call op next ih => exact ⟨hp.1, fun r ↦ ih r (hp.2 r)⟩

/-- A program whose calls are allowed throughout a set of phases that they do not leave. -/
theorem Uses.obeys {allowed : I.Op → Prop} {p : Prog I ε α} (hp : p.Uses allowed)
    (stay : P.Phase → Prop)
    (hstep : ∀ q op, stay q → allowed op → P.allows q op ∧ ∀ r, stay (P.next q op r))
    {q : P.Phase} (hq : stay q) : p.Obeys P q fun q' _ ↦ stay q' := by
  induction p generalizing q with
  | done r => exact hq
  | call op next ih =>
    have h := hstep q op hq hp.1
    exact ⟨h.1, fun r ↦ ih r (hp.2 r) (h.2 r)⟩

/-- A program whose calls are allowed in phase `q` and leave it. -/
theorem Uses.stays {allowed : I.Op → Prop} {p : Prog I ε α} (hp : p.Uses allowed) {q : P.Phase}
    (hstep : ∀ op, allowed op → P.allows q op ∧ ∀ r, P.next q op r = q) :
    p.Obeys P q fun q' _ ↦ q' = q := by
  apply hp.obeys (fun q' ↦ q' = q)
  · intro q' op hq' hop
    rw [hq']
    exact hstep op hop
  · rfl

/-- Fewer calls allowed, the same phases: a program that keeps to the stricter protocol keeps
to the other one. -/
theorem Obeys.allowing {allows : P.Phase → I.Op → Prop} {q : P.Phase} {p : Prog I ε α}
    {post : P.Phase → Except ε α → Prop}
    (hp : p.Obeys { P with allows := allows } q post)
    (h : ∀ q op, allows q op → P.allows q op) : p.Obeys P q post := by
  induction p generalizing q with
  | done r => exact hp
  | call op next ih => exact ⟨h q op hp.1, fun r ↦ ih r (hp.2 r)⟩

/-! ### What a program ensures when it returns -/

/-- From phase `q` the program keeps to the protocol, and if it returns it does so in a phase
and with a result that satisfy `Q`. Nothing is said of exceptions. -/
def Ensures (P : Protocol I ε) (q : P.Phase) (p : Prog I ε α) (Q : P.Phase → α → Prop) : Prop :=
  p.Obeys P q fun q' r ↦ ∀ a, r = .ok a → Q q' a

variable {q : P.Phase} {p : Prog I ε α} {Q Q' : P.Phase → α → Prop}

/-- A finished program. -/
theorem ensures_done {r : Except ε α} (h : ∀ a, r = .ok a → Q q a) :
    Ensures P q (done r : Prog I ε α) Q := h

/-- A program that returns at once. -/
theorem ensures_pure {a : α} (h : Q q a) : Ensures P q (pure a : Prog I ε α) Q := by
  rintro b ⟨rfl⟩
  exact h

/-- A program that throws returns nothing. -/
theorem ensures_throw {e : ε} : Ensures P q (throw e : Prog I ε α) Q := by
  rintro a ⟨⟩

/-- One call. -/
theorem ensures_perform {op : I.Op} {Q : P.Phase → I.Reply op → Prop} (hop : P.allows q op)
    (h : ∀ a, Q (P.next q op (.ok a)) a) : Ensures P q (perform op : Prog I ε (I.Reply op)) Q := by
  constructor
  · exact hop
  · rintro r a rfl
    exact h a

/-- The rule for a sequence. -/
theorem Ensures.bind {f : α → Prog I ε β} {R : P.Phase → β → Prop}
    (h : Ensures P q p fun q' a ↦ Ensures P q' (f a) R) : Ensures P q (p >>= f) R := by
  apply obeys_bind
  apply Obeys.mono h
  rintro q' (e | a) h'
  · rintro b ⟨⟩
  · exact h' a rfl

/-- A weaker end condition is met as well. -/
theorem Ensures.mono (hp : Ensures P q p Q) (h : ∀ q' a, Q q' a → Q' q' a) :
    Ensures P q p Q' :=
  Obeys.mono hp fun q' _ hr a ha ↦ h q' a (hr a ha)

/-- The rule for a sequence, with a condition `Q` that holds between the two parts. -/
theorem Ensures.seq {f : α → Prog I ε β} {R : P.Phase → β → Prop} (hp : Ensures P q p Q)
    (hf : ∀ q' a, Q q' a → Ensures P q' (f a) R) : Ensures P q (p >>= f) R :=
  Ensures.bind (hp.mono hf)

/-- The rule for a loop: every pass keeps the invariant. -/
theorem ensures_each {xs : List β} {f : β → Prog I ε γ} (Inv : P.Phase → Prop) (hq : Inv q)
    (hf : ∀ x ∈ xs, ∀ q, Inv q → Ensures P q (f x) fun q' _ ↦ Inv q') :
    Ensures P q (each xs f) fun q' _ ↦ Inv q' := by
  induction xs generalizing q with
  | nil => exact ensures_pure hq
  | cons x xs ih =>
    apply Ensures.seq (hf x (by simp) q hq)
    intro q' _ hq'
    apply Ensures.seq (ih hq' fun x hx ↦ hf x (by simp [hx]))
    intro q'' _ hq''
    exact ensures_pure hq''

/-- A program whose calls are allowed throughout a set of phases ends in that set. -/
theorem Uses.ensures {allowed : I.Op → Prop} (hp : p.Uses allowed) (stay : P.Phase → Prop)
    (hstep : ∀ q op, stay q → allowed op → P.allows q op ∧ ∀ r, stay (P.next q op r))
    (hq : stay q) : Ensures P q p fun q' _ ↦ stay q' :=
  Obeys.mono (hp.obeys stay hstep hq) fun _ _ h _ _ ↦ h

/-- A program whose calls leave phase `q` ends there. -/
theorem Uses.ensures_stay {allowed : I.Op → Prop} (hp : p.Uses allowed)
    (hstep : ∀ op, allowed op → P.allows q op ∧ ∀ r, P.next q op r = q) (hQ : ∀ a, Q q a) :
    Ensures P q p Q := by
  apply Obeys.mono (hp.stays hstep)
  intro q' r hq' a _
  rw [hq']
  exact hQ a

/-- A program whose calls leave phase `q`, in front of a program. -/
theorem Uses.ensures_bind {allowed : I.Op → Prop} {f : α → Prog I ε β} {R : P.Phase → β → Prop}
    (hp : p.Uses allowed) (hstep : ∀ op, allowed op → P.allows q op ∧ ∀ r, P.next q op r = q)
    (hf : ∀ a, Ensures P q (f a) R) : Ensures P q (p >>= f) R := by
  apply Ensures.bind
  exact hp.ensures_stay hstep hf

/-! ### How a program ends, with exceptions -/

/-- From phase `q` the program keeps to the protocol; it returns in a phase and with a result that
satisfy `Q`, or throws in a phase that satisfies `E`. -/
def Settles (P : Protocol I ε) (q : P.Phase) (p : Prog I ε α) (Q : P.Phase → α → Prop)
    (E : P.Phase → Prop) : Prop :=
  p.Obeys P q fun q' r ↦
    match r with
    | .ok a => Q q' a
    | .error _ => E q'

section Settles

variable {E : P.Phase → Prop}

/-- A program that returns at once. -/
theorem settles_pure {a : α} (h : Q q a) : Settles P q (pure a : Prog I ε α) Q E := h

/-- A program that throws. -/
theorem settles_throw {e : ε} (h : E q) : Settles P q (throw e : Prog I ε α) Q E := h

/-- One call. -/
theorem settles_perform {op : I.Op} {Q : P.Phase → I.Reply op → Prop} (hop : P.allows q op)
    (h : ∀ a, Q (P.next q op (.ok a)) a) (he : ∀ e, E (P.next q op (.error e))) :
    Settles P q (perform op : Prog I ε (I.Reply op)) Q E := by
  refine ⟨hop, fun r ↦ ?_⟩
  cases r with
  | ok a => exact h a
  | error e => exact he e

/-- The rule for a sequence, with a condition `Q` that holds between the two parts. -/
theorem Settles.seq {f : α → Prog I ε β} {R : P.Phase → β → Prop} (hp : Settles P q p Q E)
    (hf : ∀ q' a, Q q' a → Settles P q' (f a) R E) : Settles P q (p >>= f) R E := by
  apply obeys_bind
  apply Obeys.mono hp
  rintro q' (e | a) h
  · exact h
  · exact hf q' a h

/-- The rule for a loop: every pass keeps the invariant. -/
theorem settles_each {xs : List β} {f : β → Prog I ε γ} (Inv : P.Phase → Prop) (hq : Inv q)
    (hf : ∀ x ∈ xs, ∀ q, Inv q → Settles P q (f x) (fun q' _ ↦ Inv q') E) :
    Settles P q (each xs f) (fun q' _ ↦ Inv q') E := by
  induction xs generalizing q with
  | nil => exact settles_pure hq
  | cons x xs ih =>
    apply Settles.seq (hf x (by simp) q hq)
    intro q' _ hq'
    apply Settles.seq (ih hq' fun x hx ↦ hf x (by simp [hx]))
    intro q'' _ hq''
    exact settles_pure hq''

/-- A program that throws nothing of its own, and whose calls leave phase `q`, ends in `q`, or in
the phase after a call that has failed. -/
theorem Straight.settles (hp : p.Straight)
    (huses : p.Uses fun op ↦ P.allows q op ∧ ∀ a, P.next q op (.ok a) = q)
    (he : ∀ op e, E (P.next q op (.error e))) : Settles P q p (fun q' _ ↦ q' = q) E := by
  induction p with
  | done r =>
    cases r with
    | ok a => exact settles_pure rfl
    | error e => exact hp.elim
  | call op next ih =>
    refine ⟨huses.1.1, fun r ↦ ?_⟩
    cases r with
    | ok a =>
      rw [huses.1.2 a]
      exact ih _ (hp.2 a) (huses.2 _)
    | error e =>
      rw [hp.1 e]
      exact he op e

end Settles
end Prog
end Effects
