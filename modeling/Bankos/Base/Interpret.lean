import Bankos.Base.Images

/-!
# Programs that run on other programs

A program over one interface is interpreted by programs over another one, a call by a call, with a
state that is handed on. What fails below ends the whole; what a call answers above is up to the
interpretation. Interpretation by calls that need nothing below is running against a handler.
-/

namespace Effects.Prog

variable {I J : Interface} {ε ε' α S : Type}

/-- How the calls of `I` are made by programs over `J`. -/
abbrev Interpretation (I J : Interface) (ε ε' S : Type) :=
  S → (op : I.Op) → Prog J ε' (Except ε (I.Reply op) × S)

/-- The program with each of its calls made below. -/
def interpret (f : Interpretation I J ε ε' S) : Prog I ε α → S → Prog J ε' (Except ε α × S)
  | done r, s => done (.ok (r, s))
  | call op next, s => f s op >>= fun reply ↦ (next reply.1).interpret f reply.2

variable {f : Interpretation I J ε ε' S}

@[simp] theorem interpret_done (r : Except ε α) (s : S) :
    (done r : Prog I ε α).interpret f s = done (.ok (r, s)) := rfl

@[simp] theorem interpret_call (op : I.Op) (next : Except ε (I.Reply op) → Prog I ε α) (s : S) :
    (call op next).interpret f s =
      f s op >>= fun reply ↦ (next reply.1).interpret f reply.2 := rfl

/-- Sequences may be regrouped. -/
theorem bind_assoc {β γ : Type} (p : Prog I ε α) (g : α → Prog I ε β) (h : β → Prog I ε γ) :
    (p >>= g) >>= h = p >>= fun a ↦ g a >>= h := by
  induction p with
  | done r => cases r <;> rfl
  | call op next ih => exact congrArg (call op) (funext ih)

/-- Where nothing is called below, a program ends as it does against a handler. -/
theorem interpret_of_handler {exec : Handler I ε S}
    (h : ∀ s op, f s op = done (.ok (exec s op))) (p : Prog I ε α) (s : S) :
    p.interpret f s = done (.ok (p.run exec s)) := by
  induction p generalizing s with
  | done r => rfl
  | call op next ih =>
    rw [interpret_call, h, done_ok_bind, run_call]
    exact ih _ _

/-- The rule for what every call keeps of the state. -/
theorem told_interpret {H : (op : J.Op) → Except ε' (J.Reply op) → Prop} {Q : S → Prop}
    (hstep : ∀ s op, Q s → (f s op).Told H fun reply ↦ Q reply.2) (p : Prog I ε α) {s : S}
    (hs : Q s) : (p.interpret f s).Told H fun reply ↦ Q reply.2 := by
  induction p generalizing s with
  | done r => exact told_pure hs
  | call op next ih =>
    rw [interpret_call]
    apply Told.seq (hstep s op hs)
    intro reply hreply
    exact ih reply.1 hreply

end Effects.Prog
