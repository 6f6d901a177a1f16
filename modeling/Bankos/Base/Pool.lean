import Bankos.Base.Program
import Mathlib.Algebra.Ring.Nat
import Mathlib.Data.List.Basic
import Mathlib.Data.List.Induction
import Mathlib.Data.List.Nodup
import Mathlib.Logic.Function.Basic

/-!
# Interleaved runs of many programs

A pool holds one program for each name in `ι`, all sharing one world. A turn lets one
program make its next call, or makes that call fail without effect, or lets the world
change by itself. Every interleaving of the runs is one sequence of turns, and the log
keeps each answered call with the name of its program, oldest first.
A program that has not had a turn yet has not started.
-/

namespace Effects

open Prog

/-- One answered call of the program `who`. -/
structure Entry (I : Interface) (ε ι : Type) where
  who : ι
  op : I.Op
  reply : Except ε (I.Reply op)

/-- The shared world, what is left of each program, and the calls answered so far. -/
structure Pool (I : Interface) (ε ι α W : Type) where
  world : W
  rest : ι → Prog I ε α
  log : List (Entry I ε ι)

/-- What happens next: a program's call is answered, its call fails, or time goes by. -/
inductive Turn (ε ι T : Type) where
  | act (i : ι)
  | fail (i : ι) (e : ε)
  | pass (t : T)

namespace Pool

variable {I : Interface} {ε ι α W T : Type} [DecidableEq ι]

/-- The pool in which no program has started. -/
def start (w : W) (rest : ι → Prog I ε α) : Pool I ε ι α W := ⟨w, rest, []⟩

/-- The program `i` receives the reply `r` to its call `op`, and the world becomes `w`. -/
def record (p : Pool I ε ι α W) (i : ι) (op : I.Op) (r : Except ε (I.Reply op))
    (next : Except ε (I.Reply op) → Prog I ε α) (w : W) : Pool I ε ι α W :=
  ⟨w, Function.update p.rest i (next r), p.log ++ [⟨i, op, r⟩]⟩

/-- One turn. A finished program lets its turn go by. -/
def step (exec : Handler I ε W) (pass : T → W → W) (p : Pool I ε ι α W) :
    Turn ε ι T → Pool I ε ι α W
  | .act i =>
    match p.rest i with
    | .done _ => p
    | .call op next => p.record i op (exec p.world op).1 next (exec p.world op).2
  | .fail i e =>
    match p.rest i with
    | .done _ => p
    | .call op next => p.record i op (.error e) next p.world
  | .pass t => ⟨pass t p.world, p.rest, p.log⟩

/-- A schedule is run turn by turn. -/
def play (exec : Handler I ε W) (pass : T → W → W) (p : Pool I ε ι α W)
    (schedule : List (Turn ε ι T)) : Pool I ε ι α W :=
  schedule.foldl (step exec pass) p

/-- The pool `q` comes out of `p` by turns that each satisfy `ok` in the pool before it. -/
inductive Reaches (exec : Handler I ε W) (pass : T → W → W)
    (ok : Pool I ε ι α W → Turn ε ι T → Prop) (p : Pool I ε ι α W) : Pool I ε ι α W → Prop
  | refl : Reaches exec pass ok p p
  | step {q : Pool I ε ι α W} (t : Turn ε ι T) :
      Reaches exec pass ok p q → ok q t → Reaches exec pass ok p (q.step exec pass t)

/-- Program `i` has had no call answered. -/
def NotStarted (p : Pool I ε ι α W) (i : ι) : Prop := ∀ e ∈ p.log, e.who ≠ i

/-- Program `i` has returned `a`. -/
def Returned (p : Pool I ε ι α W) (i : ι) (a : α) : Prop := p.rest i = .done (.ok a)

/-- How program `i` has ended, if it has. -/
def result (p : Pool I ε ι α W) (i : ι) : Option (Except ε α) :=
  match p.rest i with
  | .done r => some r
  | .call _ _ => none

omit [DecidableEq ι] in
/-- Having returned is a way to have ended. -/
theorem result_eq_ok {p : Pool I ε ι α W} {i : ι} {a : α} :
    p.result i = some (.ok a) ↔ p.Returned i a := by
  unfold result Returned
  cases h : p.rest i <;> simp

/-- Whether a program has returned a value can be computed. -/
instance [DecidableEq (Except ε α)] (p : Pool I ε ι α W) (i : ι) (a : α) :
    Decidable (p.Returned i a) := decidable_of_iff _ result_eq_ok

/-- Whether a program has not started can be computed. -/
instance (p : Pool I ε ι α W) (i : ι) : Decidable (p.NotStarted i) :=
  inferInstanceAs (Decidable (∀ e ∈ p.log, e.who ≠ i))

/-- Whether program `i` has returned. -/
def hasReturned (p : Pool I ε ι α W) (i : ι) : Bool :=
  (p.result i).any fun r ↦ r.toBool

omit [DecidableEq ι] in
/-- A program that has returned has returned something. -/
theorem hasReturned_iff {p : Pool I ε ι α W} {i : ι} :
    p.hasReturned i = true ↔ ∃ a, p.Returned i a := by
  unfold hasReturned
  simp only [← result_eq_ok]
  rcases p.result i with _ | (_ | _) <;> simp [Except.toBool]

/-- The call that program `i` is about to make. -/
def pending (p : Pool I ε ι α W) (i : ι) : Option I.Op :=
  match p.rest i with
  | .done _ => none
  | .call op _ => some op

omit [DecidableEq ι] in
/-- What is pending is the first call of what is left. -/
theorem pending_of_rest {p : Pool I ε ι α W} {i : ι} {op : I.Op}
    {next : Except ε (I.Reply op) → Prog I ε α} (h : p.rest i = .call op next) :
    p.pending i = some op := by
  simp only [pending, h]

omit [DecidableEq ι] in
/-- A program with a pending call has this call and what follows it left. -/
theorem rest_of_pending {p : Pool I ε ι α W} {i : ι} {op : I.Op} (h : p.pending i = some op) :
    ∃ next, p.rest i = .call op next := by
  unfold pending at h
  split at h
  · cases h
  · next next hi =>
    cases h
    exact ⟨next, hi⟩

/-- Program `i` has had a call answered and has another one to make. -/
def InProgress (p : Pool I ε ι α W) (i : ι) : Prop := ¬ p.NotStarted i ∧ (p.pending i).isSome = true

/-- Whether a program is in progress can be computed. -/
instance (p : Pool I ε ι α W) (i : ι) : Decidable (p.InProgress i) :=
  inferInstanceAs (Decidable (_ ∧ _))

variable {exec : Handler I ε W} {pass : T → W → W}
  {ok ok' : Pool I ε ι α W → Turn ε ι T → Prop} {p q q' : Pool I ε ι α W}

/-! ### Runs -/

/-- Runs compose. -/
theorem Reaches.trans (h : Reaches exec pass ok p q) (h' : Reaches exec pass ok q q') :
    Reaches exec pass ok p q' := by
  induction h' with
  | refl => exact h
  | step t _ ht ih => exact .step t ih ht

/-- A run under a stronger condition is a run under a weaker one. -/
theorem Reaches.mono (h : Reaches exec pass ok p q) (himp : ∀ q t, ok q t → ok' q t) :
    Reaches exec pass ok' p q := by
  induction h with
  | refl => exact .refl
  | step t _ ht ih => exact .step t ih (himp _ _ ht)

/-- The turns of a schedule meet the condition, each in the pool it is taken in. -/
def Meets (exec : Handler I ε W) (pass : T → W → W) (ok : Pool I ε ι α W → Turn ε ι T → Prop) :
    Pool I ε ι α W → List (Turn ε ι T) → Prop
  | _, [] => True
  | p, t :: ts => ok p t ∧ Meets exec pass ok (p.step exec pass t) ts

/-- Whether the turns of a schedule meet a decidable condition can be computed. -/
instance decidableMeets [∀ q t, Decidable (ok q t)] :
    ∀ (p : Pool I ε ι α W) (ts : List (Turn ε ι T)), Decidable (Meets exec pass ok p ts)
  | _, [] => isTrue trivial
  | p, t :: ts => @instDecidableAnd (ok p t) _ _ (decidableMeets (p.step exec pass t) ts)

/-- A schedule whose turns meet the condition is a run. -/
theorem reaches_play (schedule : List (Turn ε ι T)) (h : Meets exec pass ok p schedule) :
    Reaches exec pass ok p (p.play exec pass schedule) := by
  induction schedule generalizing p with
  | nil => exact .refl
  | cons t ts ih => exact (Reaches.step t .refl h.1).trans (ih h.2)

/-- Every schedule is a run when nothing is asked of its turns. -/
theorem reaches_play_any (p : Pool I ε ι α W) (schedule : List (Turn ε ι T)) :
    Reaches exec pass (fun _ _ ↦ True) p (p.play exec pass schedule) := by
  induction schedule generalizing p with
  | nil => exact .refl
  | cons t ts ih => exact (Reaches.step t .refl trivial).trans (ih _)

/-- The invariant rule. A turn that answers a call is one `record` step, whatever the
answer; the other turns leave the programs and the log alone. -/
theorem Reaches.invariant {J : Pool I ε ι α W → Prop} (h : Reaches exec pass ok p q) (h₀ : J p)
    (hact : ∀ q i op next, Reaches exec pass ok p q → J q → ok q (.act i) →
      q.rest i = .call op next →
      J (q.record i op (exec q.world op).1 next (exec q.world op).2))
    (hfail : ∀ q i e op next, Reaches exec pass ok p q → J q → ok q (.fail i e) →
      q.rest i = .call op next → J (q.record i op (.error e) next q.world))
    (hpass : ∀ (q : Pool I ε ι α W) t, J q → ok q (.pass t) → J ⟨pass t q.world, q.rest, q.log⟩) :
    J q := by
  induction h with
  | refl => exact h₀
  | @step q t hq ht ih =>
    cases t with
    | act i =>
      simp only [Pool.step]
      split
      · exact ih
      · next op next hi => exact hact q i op next hq ih ht hi
    | fail i e =>
      simp only [Pool.step]
      split
      · exact ih
      · next op next hi => exact hfail q i e op next hq ih ht hi
    | pass t => exact hpass q t ih ht

/-- A property of the world alone, kept by every call and by the passing of time. -/
theorem Reaches.world_invariant {J : W → Prop} (h : Reaches exec pass ok p q) (h₀ : J p.world)
    (hexec : ∀ w op, J w → J (exec w op).2) (hpass : ∀ w t, J w → J (pass t w)) : J q.world :=
  h.invariant (J := fun q ↦ J q.world) h₀
    (fun q _ op _ _ hq _ _ ↦ hexec q.world op hq) (fun _ _ _ _ _ _ hq _ _ ↦ hq)
    (fun q t hq _ ↦ hpass q.world t hq)

/-- An answered call starts its own program and no other. -/
theorem notStarted_record (p : Pool I ε ι α W) (i j : ι) (op : I.Op) (r : Except ε (I.Reply op))
    (next : Except ε (I.Reply op) → Prog I ε α) (w : W) :
    (p.record i op r next w).NotStarted j ↔ p.NotStarted j ∧ i ≠ j := by
  simp [NotStarted, record, or_imp, forall_and]

/-- A program that has not started is whole. -/
theorem Reaches.rest_of_notStarted {w : W} {rest : ι → Prog I ε α} {i : ι}
    (h : Reaches exec pass ok (start w rest) q) (hi : q.NotStarted i) : q.rest i = rest i := by
  refine h.invariant (J := fun q ↦ q.NotStarted i → q.rest i = rest i) (fun _ ↦ rfl) ?_ ?_ ?_ hi
  · intro q j op next _ hq _ _ hn
    obtain ⟨hn, hne⟩ := (notStarted_record _ _ _ _ _ _ _).mp hn
    simpa [record, Function.update_of_ne (Ne.symm hne)] using hq hn
  · intro q j e op next _ hq _ _ hn
    obtain ⟨hn, hne⟩ := (notStarted_record _ _ _ _ _ _ _).mp hn
    simpa [record, Function.update_of_ne (Ne.symm hne)] using hq hn
  · intro q t hq _ hn
    exact hq hn

/-! ### What is seen along a schedule -/

/-- What the turns of a schedule show, each in the pool it is taken in. -/
def observe {β : Type} (exec : Handler I ε W) (pass : T → W → W)
    (shows : Pool I ε ι α W → Turn ε ι T → List β) : Pool I ε ι α W → List (Turn ε ι T) → List β
  | _, [] => []
  | p, t :: ts => shows p t ++ observe exec pass shows (p.step exec pass t) ts

/-- One more turn shows what it shows after the others. -/
theorem observe_concat {β : Type} {shows : Pool I ε ι α W → Turn ε ι T → List β}
    (ts : List (Turn ε ι T)) (t : Turn ε ι T) (p : Pool I ε ι α W) :
    observe exec pass shows p (ts ++ [t]) =
      observe exec pass shows p ts ++ shows (p.play exec pass ts) t := by
  induction ts generalizing p with
  | nil => exact List.append_nil _
  | cons u ts ih =>
    show shows p u ++ observe exec pass shows _ (ts ++ [t]) = _
    rw [ih]
    exact (List.append_assoc _ _ _).symm

/-- The invariant rule for a pool and what has been seen so far. -/
theorem observe_invariant {β : Type} {shows : Pool I ε ι α W → Turn ε ι T → List β}
    {A : Turn ε ι T → Prop} {J : List β → Pool I ε ι α W → Prop} (h₀ : J [] p)
    (hstep : ∀ seen q t, A t → J seen q → J (seen ++ shows q t) (q.step exec pass t))
    {schedule : List (Turn ε ι T)} (h : ∀ t ∈ schedule, A t) :
    J (observe exec pass shows p schedule) (p.play exec pass schedule) := by
  induction schedule using List.reverseRecOn with
  | nil => exact h₀
  | append_singleton ts t ih =>
    have hlast : A t := h t (by simp)
    have hplay : p.play exec pass (ts ++ [t]) = (p.play exec pass ts).step exec pass t := by
      unfold play
      rw [List.foldl_append]
      rfl
    rw [observe_concat, hplay]
    exact hstep _ _ _ hlast (ih fun u hu ↦ h u (by simp [hu]))

/-! ### The log of a run -/

/-- The log of a run goes on from the log it started with, each further entry made by a turn of the
run. -/
theorem Reaches.log_later {H : ι → (op : I.Op) → Except ε (I.Reply op) → Prop}
    (h : Reaches exec pass ok p q)
    (hact : ∀ q i op next, Reaches exec pass ok p q → ok q (.act i) →
      q.rest i = .call op next → H i op (exec q.world op).1)
    (hfail : ∀ q i e op next, Reaches exec pass ok p q → ok q (.fail i e) →
      q.rest i = .call op next → H i op (.error e)) :
    ∃ later, q.log = p.log ++ later ∧ ∀ e ∈ later, H e.who e.op e.reply := by
  have hrecord : ∀ (q : Pool I ε ι α W) i op (r : Except ε (I.Reply op)) next w, H i op r →
      (∃ later, q.log = p.log ++ later ∧ ∀ e ∈ later, H e.who e.op e.reply) →
      ∃ later, (q.record i op r next w).log = p.log ++ later ∧
        ∀ e ∈ later, H e.who e.op e.reply := by
    rintro q i op r next w hr ⟨later, hlog, hlater⟩
    refine ⟨later ++ [⟨i, op, r⟩], ?_, ?_⟩
    · unfold record
      rw [hlog, List.append_assoc]
    · intro e he
      rcases List.mem_append.mp he with he | he
      · exact hlater e he
      · rw [List.mem_singleton.mp he]
        exact hr
  apply h.invariant
    (J := fun q : Pool I ε ι α W ↦
      ∃ later, q.log = p.log ++ later ∧ ∀ e ∈ later, H e.who e.op e.reply)
  · exact ⟨[], (List.append_nil _).symm, fun _ he ↦ absurd he List.not_mem_nil⟩
  · exact fun q i op next hq hJ ht hi ↦ hrecord q i op _ next _ (hact q i op next hq ht hi) hJ
  · exact fun q i e op next hq hJ ht hi ↦ hrecord q i op _ next _ (hfail q i e op next hq ht hi) hJ
  · exact fun q t hJ _ ↦ hJ

/-- The entries of the log, each of them made by a turn of the run. -/
theorem Reaches.log_invariant {H : ι → (op : I.Op) → Except ε (I.Reply op) → Prop}
    (h : Reaches exec pass ok p q) (h₀ : ∀ e ∈ p.log, H e.who e.op e.reply)
    (hact : ∀ q i op next, Reaches exec pass ok p q → ok q (.act i) →
      q.rest i = .call op next → H i op (exec q.world op).1)
    (hfail : ∀ q i e op next, Reaches exec pass ok p q → ok q (.fail i e) →
      q.rest i = .call op next → H i op (.error e)) :
    ∀ e ∈ q.log, H e.who e.op e.reply := by
  obtain ⟨later, hlog, hlater⟩ := h.log_later hact hfail
  intro e he
  rw [hlog] at he
  rcases List.mem_append.mp he with he | he
  · exact h₀ e he
  · exact hlater e he

/-- A program whose calls have been answered within bounds returns as it does then. -/
theorem Reaches.told {w : W} {rest : ι → Prog I ε α} {i : ι}
    {H : (op : I.Op) → Except ε (I.Reply op) → Prop} {Q : α → Prop}
    (h : Reaches exec pass ok (start w rest) q) (hrest : (rest i).Told H Q)
    (hlog : ∀ e ∈ q.log, e.who = i → H e.op e.reply) : (q.rest i).Told H Q := by
  have hrecord : ∀ (q : Pool I ε ι α W) j op (r : Except ε (I.Reply op))
      (next : Except ε (I.Reply op) → Prog I ε α) w,
      ((∀ e ∈ q.log, e.who = i → H e.op e.reply) → (q.rest i).Told H Q) →
      q.rest j = .call op next →
      (∀ e ∈ (q.record j op r next w).log, e.who = i → H e.op e.reply) →
      ((q.record j op r next w).rest i).Told H Q := by
    intro q j op r next w hq hj hlog
    have hrest := hq fun e he ↦ hlog e (List.mem_append_left _ he)
    by_cases hij : i = j
    · subst hij
      rw [hj] at hrest
      simpa [record] using
        hrest r (hlog ⟨i, op, r⟩ (List.mem_append_right _ (List.mem_singleton.mpr rfl)) rfl)
    · simpa [record, Function.update_of_ne hij] using hrest
  refine h.invariant
    (J := fun q ↦ (∀ e ∈ q.log, e.who = i → H e.op e.reply) → (q.rest i).Told H Q)
    (fun _ ↦ hrest) ?_ ?_ ?_ hlog
  · exact fun q j op next _ hq _ hj ↦ hrecord q j op _ next _ hq hj
  · exact fun q j e op next _ hq _ hj ↦ hrecord q j op _ next _ hq hj
  · exact fun q t hq _ ↦ hq

/-! ### One program without interruption -/

/-- Program `i`, of which `prog` is left, gets every turn until it has finished. -/
def finish (exec : Handler I ε W) (i : ι) : Prog I ε α → Pool I ε ι α W → Pool I ε ι α W
  | .done _, p => p
  | .call op next, p =>
    finish exec i (next (exec p.world op).1)
      (p.record i op (exec p.world op).1 next (exec p.world op).2)

/-- An uninterrupted program does to the world what it does alone. -/
theorem world_finish (exec : Handler I ε W) (i : ι) (prog : Prog I ε α) (p : Pool I ε ι α W) :
    (finish exec i prog p).world = (prog.run exec p.world).2 := by
  induction prog generalizing p with
  | done r => rfl
  | call op next ih => exact ih _ _

/-- An uninterrupted program ends as it does alone. -/
theorem rest_finish (exec : Handler I ε W) (i : ι) (prog : Prog I ε α) (p : Pool I ε ι α W)
    (h : p.rest i = prog) : (finish exec i prog p).rest i = .done (prog.run exec p.world).1 := by
  induction prog generalizing p with
  | done r => exact h
  | call op next ih => exact ih _ _ (by simp [record])

/-- An uninterrupted program is one of the interleavings. -/
theorem reaches_finish (i : ι) (prog : Prog I ε α) (h : p.rest i = prog)
    (hok : ∀ q, ok q (.act i)) : Reaches exec pass ok p (finish exec i prog p) := by
  induction prog generalizing p with
  | done r => exact .refl
  | call op next ih =>
    have hstep : p.step exec pass (.act i) =
        p.record i op (exec p.world op).1 next (exec p.world op).2 := by
      simp only [Pool.step, h]
    have h₁ : Reaches exec pass ok p (p.step exec pass (.act i)) := .step _ .refl (hok p)
    rw [hstep] at h₁
    exact h₁.trans (ih _ (by simp [record]))

/-! ### Protocols along a run -/

variable {P : Protocol I ε}

/-- Where the log leaves program `i` in the protocol. -/
def phase (P : Protocol I ε) (q₀ : P.Phase) (log : List (Entry I ε ι)) (i : ι) : P.Phase :=
  log.foldl (fun q e ↦ if e.who = i then P.next q e.op e.reply else q) q₀

/-- One more entry moves its own program and no other. -/
theorem phase_append (q₀ : P.Phase) (log : List (Entry I ε ι)) (e : Entry I ε ι) (i : ι) :
    phase P q₀ (log ++ [e]) i =
      if e.who = i then P.next (phase P q₀ log i) e.op e.reply else phase P q₀ log i := by
  simp [phase]

/-- The program that made the call moves on. -/
theorem phase_append_self (q₀ : P.Phase) (log : List (Entry I ε ι)) (i : ι) (op : I.Op)
    (r : Except ε (I.Reply op)) :
    phase P q₀ (log ++ [⟨i, op, r⟩]) i = P.next (phase P q₀ log i) op r := by
  simp [phase_append]

/-- A call leaves the phases of the programs that have not made it. -/
theorem phase_append_ne (q₀ : P.Phase) (log : List (Entry I ε ι)) {i j : ι} (h : j ≠ i)
    (op : I.Op) (r : Except ε (I.Reply op)) :
    phase P q₀ (log ++ [⟨i, op, r⟩]) j = phase P q₀ log j := by
  simp [phase_append, Ne.symm h]

/-- An answered call moves its own program in the family of phases. -/
theorem phase_record (q₀ : P.Phase) (p : Pool I ε ι α W) (i : ι) (op : I.Op)
    (r : Except ε (I.Reply op)) (next : Except ε (I.Reply op) → Prog I ε α) (w : W) :
    phase P q₀ (p.record i op r next w).log =
      Function.update (phase P q₀ p.log) i (P.next (phase P q₀ p.log i) op r) := by
  funext j
  by_cases hj : j = i
  · subst hj
    rw [Function.update_self]
    exact phase_append_self ..
  · rw [Function.update_of_ne hj]
    exact phase_append_ne _ _ hj ..

/-- A property that a phase has and the first one has not was brought about by an entry. -/
theorem exists_of_phase {J : P.Phase → Prop} {q₀ : P.Phase} {log : List (Entry I ε ι)} {i : ι}
    (h₀ : ¬ J q₀) (h : J (phase P q₀ log i)) :
    ∃ e ∈ log, e.who = i ∧ ∃ q, ¬ J q ∧ J (P.next q e.op e.reply) := by
  induction log using List.reverseRecOn with
  | nil => exact absurd h h₀
  | append_singleton log e ih =>
    by_cases hlog : J (phase P q₀ log i)
    · obtain ⟨e', he', hnext⟩ := ih hlog
      exact ⟨e', List.mem_append_left _ he', hnext⟩
    · rw [phase_append] at h
      by_cases hwho : e.who = i
      · rw [if_pos hwho] at h
        exact ⟨e, List.mem_append_right _ (List.mem_singleton.mpr rfl), hwho, _, hlog, h⟩
      · rw [if_neg hwho] at h
        exact absurd h hlog

/-- A program that has not started is in its first phase. -/
theorem phase_of_notStarted (q₀ : P.Phase) {i : ι} (h : p.NotStarted i) :
    phase P q₀ p.log i = q₀ := by
  unfold phase
  have : ∀ e ∈ p.log, ¬ e.who = i := h
  generalize p.log = log at this
  induction log with
  | nil => rfl
  | cons e log ih =>
    rw [List.foldl_cons, if_neg (this e (by simp))]
    exact ih fun e he ↦ this e (by simp [he])

/-- A program that keeps to the protocol from its first phase does, in every pool of a run,
keep to it from where the log leaves it. -/
theorem Reaches.obeys {w : W} {rest : ι → Prog I ε α} {q₀ : P.Phase} {i : ι}
    {post : P.Phase → Except ε α → Prop} (h : Reaches exec pass ok (start w rest) q)
    (hrest : (rest i).Obeys P q₀ post) : (q.rest i).Obeys P (phase P q₀ q.log i) post := by
  have hrecord : ∀ (q : Pool I ε ι α W) j op (r : Except ε (I.Reply op))
      (next : Except ε (I.Reply op) → Prog I ε α) w,
      (q.rest i).Obeys P (phase P q₀ q.log i) post → q.rest j = .call op next →
      ((q.record j op r next w).rest i).Obeys P (phase P q₀ (q.record j op r next w).log i)
        post := by
    intro q j op r next w hq hj
    rw [phase_record]
    by_cases hij : i = j
    · subst hij
      rw [hj] at hq
      simpa [record] using hq.2 r
    · simpa [record, Function.update_of_ne hij] using hq
  refine h.invariant (J := fun q ↦ (q.rest i).Obeys P (phase P q₀ q.log i) post) hrest ?_ ?_ ?_
  · exact fun q j op next _ hq _ hj ↦ hrecord q j op _ next _ hq hj
  · exact fun q j e op next _ hq _ hj ↦ hrecord q j op _ next _ hq hj
  · exact fun q t hq _ ↦ hq

/-- The next call of a program that keeps to the protocol is one the protocol allows. -/
theorem Reaches.allows {w : W} {rest : ι → Prog I ε α} {q₀ : P.Phase} {i : ι}
    {post : P.Phase → Except ε α → Prop} (h : Reaches exec pass ok (start w rest) q)
    (hrest : (rest i).Obeys P q₀ post) {op : I.Op}
    {next : Except ε (I.Reply op) → Prog I ε α} (hi : q.rest i = .call op next) :
    P.allows (phase P q₀ q.log i) op := by
  have h := h.obeys hrest
  rw [hi] at h
  exact h.1

/-- The next call of a program that makes only allowed calls is an allowed one. -/
theorem Reaches.uses_call {w : W} {rest : ι → Prog I ε α} {i : ι} {allowed : I.Op → Prop}
    (h : Reaches exec pass ok (start w rest) q) (hrest : (rest i).Uses allowed) {op : I.Op}
    {next : Except ε (I.Reply op) → Prog I ε α} (hi : q.rest i = .call op next) : allowed op := by
  -- the protocol with a single phase
  have hobeys : (rest i).Obeys ⟨Unit, fun _ ↦ allowed, fun _ _ _ ↦ ()⟩ () fun _ _ ↦ True :=
    hrest.obeys (fun _ ↦ True) (fun _ _ _ h ↦ ⟨h, fun _ ↦ trivial⟩) trivial
  exact h.allows hobeys hi

/-- A property of phases that every allowed call keeps holds wherever the log leaves a program
that keeps to the protocol. -/
theorem Reaches.phase_keeps {w : W} {rest : ι → Prog I ε α} {q₀ : P.Phase} {i : ι}
    {post : P.Phase → Except ε α → Prop} {J : P.Phase → Prop}
    (h : Reaches exec pass ok (start w rest) q) (hrest : (rest i).Obeys P q₀ post) (h₀ : J q₀)
    (hstep : ∀ s op r, J s → P.allows s op → J (P.next s op r)) : J (phase P q₀ q.log i) := by
  have hrecord : ∀ (q : Pool I ε ι α W) j op (r : Except ε (I.Reply op))
      (next : Except ε (I.Reply op) → Prog I ε α) w', Reaches exec pass ok (start w rest) q →
      J (phase P q₀ q.log i) → q.rest j = .call op next →
      J (phase P q₀ (q.record j op r next w').log i) := by
    intro q j op r next w' hq hJ hj
    rw [phase_record]
    by_cases hij : i = j
    · subst hij
      rw [Function.update_self]
      exact hstep _ op r hJ (hq.allows hrest hj)
    · rw [Function.update_of_ne hij]
      exact hJ
  apply h.invariant (J := fun q ↦ J (phase P q₀ q.log i))
  · exact h₀
  · exact fun q j op next hq hJ _ hj ↦ hrecord q j op _ next _ hq hJ hj
  · exact fun q j e op next hq hJ _ hj ↦ hrecord q j op _ next _ hq hJ hj
  · exact fun q t hJ _ ↦ hJ

/-- The invariant rule for phases: `J` relates the world to the phase of each program, and is kept
when a program makes a call, when others do, when a call fails and when time goes by. -/
theorem Reaches.phases_invariant {q₀ : P.Phase} {J : W → ι → P.Phase → Prop}
    (h : Reaches exec pass ok p q) (h₀ : ∀ i, J p.world i (phase P q₀ p.log i))
    (hself : ∀ q i s op, Reaches exec pass ok p q → J q.world i s →
      J (exec q.world op).2 i (P.next s op (exec q.world op).1))
    (hother : ∀ w i s op, J w i s → J (exec w op).2 i s)
    (hfail : ∀ w i s op e, J w i s → J w i (P.next s op (.error e)))
    (hpass : ∀ w i s t, J w i s → J (pass t w) i s) : ∀ i, J q.world i (phase P q₀ q.log i) := by
  apply h.invariant (J := fun q ↦ ∀ i, J q.world i (phase P q₀ q.log i))
  · exact h₀
  · intro q j op next hq hJ _ _ i
    rw [phase_record]
    by_cases hij : i = j
    · subst hij
      rw [Function.update_self]
      exact hself q i _ op hq (hJ i)
    · rw [Function.update_of_ne hij]
      exact hother _ i _ op (hJ i)
  · intro q j e op next _ hJ _ _ i
    rw [phase_record]
    by_cases hij : i = j
    · subst hij
      rw [Function.update_self]
      exact hfail _ i _ op e (hJ i)
    · rw [Function.update_of_ne hij]
      exact hJ i
  · intro q t hJ _ i
    exact hpass _ i _ t (hJ i)

/-- A program that has finished ended as the protocol says. -/
theorem Reaches.post_of_done {w : W} {rest : ι → Prog I ε α} {q₀ : P.Phase} {i : ι}
    {post : P.Phase → Except ε α → Prop} (h : Reaches exec pass ok (start w rest) q)
    (hrest : (rest i).Obeys P q₀ post) {r : Except ε α} (hi : q.rest i = .done r) :
    post (phase P q₀ q.log i) r := by
  have h := h.obeys hrest
  rwa [hi] at h

end Pool
end Effects
