import Bankos.Base.Promises
import Bankos.Gateway.Retry

/-!
# Attempts on one response

`gateway/src/middlewares/resilience.ts:16–31` and `gateway/src/routes/proxy.ts:36–66`. The attempts
at one request share the response: `res.locals.proxyReject` is that of the attempt that started
last, and every attempt listens for the one `finish`. A fire that times out is given up by the
breaker, but its exchange with the downstream service goes on.
-/

namespace Bankos.Gateway

open Effects

/-- What has settled the promise of an attempt: an error of an exchange, the completion of the
response by an exchange, or the answer of the gateway itself. -/
inductive Settlement where
  | rejectedBy (exchange : Nat)
  | resolvedBy (exchange : Nat)
  | resolvedByAnswer
  deriving DecidableEq, Repr

/-- Where `executeWithRetry` stands. -/
inductive RetryLoop where
  | firing
  | waiting
  | returned
  | threw
  deriving DecidableEq, Repr

/-- One request: the attempts that have started, the promises of `executeProxy`, the shared parts
of the response, and the loop. -/
structure Attempts where
  started : Nat
  promises : Promises Nat Settlement
  proxyReject : Option Nat
  listeners : List Nat
  ended : List Nat
  headersSent : Bool
  answered : Bool
  finished : Bool
  loop : RetryLoop
  attempt : Nat

namespace Attempts

/-- The exchange has started, and it has neither failed nor completed. -/
def goesOn (s : Attempts) (i : Nat) : Bool := decide (i < s.started) && !s.ended.contains i

/-- `resilience.ts:16–31`: the next attempt starts. -/
def executeProxy (s : Attempts) : Attempts :=
  { s with
    started := s.started + 1
    proxyReject := some s.started
    listeners := s.listeners ++ [s.started]
    loop := .firing }

/-- The first attempt has started. -/
def first : Attempts :=
  executeProxy
    { started := 0
      promises := Promises.pending
      proxyReject := none
      listeners := []
      ended := []
      headersSent := false
      answered := false
      finished := false
      loop := .waiting
      attempt := 0 }

/-- `resilience.ts:106–142` and `proxy.ts:54–66`: unless the headers have been sent, the gateway
answers. -/
def answer (s : Attempts) : Attempts :=
  if s.headersSent then s else { s with headersSent := true, answered := true }

/-- `resilience.ts:52–84`: the fire of the loop has failed with `error`. -/
def failed (maxRetries : Nat) (s : Attempts) (error : ProxyError) : Attempts :=
  if error.refused then answer { s with loop := .threw }
  else if maxRetries ≤ s.attempt then answer { s with loop := .threw }
  else if s.headersSent then answer { s with loop := .threw }
  else { s with loop := .waiting }

/-- `proxy.ts:36–66`: the error handler of the proxy. -/
def onError (maxRetries : Nat) (s : Attempts) (i : Nat) (error : ProxyError) : Attempts :=
  match s.proxyReject with
  | none => answer s
  | some j =>
    let s' := { s with promises := s.promises.settle j (.rejectedBy i) }
    -- The fire of an attempt that has timed out has been given up before.
    if s.promises j = none ∧ s.loop = .firing then failed maxRetries s' error else s'

/-- The response is finished, and every attempt that listens is resolved. -/
def onFinish (s : Attempts) (x : Settlement) : Attempts :=
  { s with
    promises := s.promises.settleAll s.listeners x
    listeners := []
    headersSent := true
    finished := true
    loop := if s.loop = .firing then .returned else s.loop }

/-- What happens next around a request. -/
inductive Event where
  | timeout (i : Nat)
  | error (i : Nat) (error : ProxyError)
  | head (i : Nat)
  | complete (i : Nat)
  | wake
  | reject (error : ProxyError)
  | flush
  deriving DecidableEq, Repr

/-- The error with which the breaker gives up a fire. -/
def timedOut : ProxyError := { code := some "ETIMEDOUT" }

/-- Whether the event can happen: the breaker times out the attempt that it fires; an exchange that
goes on fails, sends its headers or completes the response; a wait ends, with the next attempt or
with a rejection by the breaker; the answer of the gateway is flushed. -/
def enabled (s : Attempts) : Event → Bool
  | .timeout i => decide (s.loop = .firing) && decide (i + 1 = s.started)
  | .error i _ => s.goesOn i
  | .head i => s.goesOn i && !s.headersSent
  | .complete i => s.goesOn i && !s.answered && !s.finished
  | .wake => decide (s.loop = .waiting)
  | .reject _ => decide (s.loop = .waiting)
  | .flush => s.answered && !s.finished

/-- What the event does. -/
def apply (maxRetries : Nat) (s : Attempts) : Event → Attempts
  | .timeout _ => failed maxRetries s timedOut
  | .error i error => onError maxRetries { s with ended := i :: s.ended } i error
  | .head _ => { s with headersSent := true }
  | .complete i => onFinish { s with ended := i :: s.ended } (.resolvedBy i)
  | .wake => executeProxy { s with attempt := s.attempt + 1 }
  | .reject error => failed maxRetries { s with attempt := s.attempt + 1 } error
  | .flush => onFinish s .resolvedByAnswer

/-- An event that cannot happen is passed over. -/
def step (maxRetries : Nat) (s : Attempts) (e : Event) : Attempts :=
  if s.enabled e then s.apply maxRetries e else s

/-- The events happen in their order. -/
def play (maxRetries : Nat) (s : Attempts) (events : List Event) : Attempts :=
  events.foldl (step maxRetries) s

/-- The settlement of attempt `j` comes from an error or from the completion of its own exchange. -/
def Own (j : Nat) (x : Settlement) : Prop := x = .rejectedBy j ∨ x = .resolvedBy j

/-- Every promise is settled by its own exchange. -/
def Isolated (s : Attempts) : Prop := s.promises.Respects Own

/-- The event meets no pending promise but that of its own attempt: an exchange fails while its
attempt is the last one, or after the last one has settled; it completes the response when every
other attempt has settled; and the answer of the gateway is flushed when all have. -/
def Clean (s : Attempts) : Event → Prop
  | .error i _ => i + 1 = s.started ∨ s.promises (s.started - 1) ≠ none
  | .complete i => ∀ j < s.started, j ≠ i → s.promises j ≠ none
  | .flush => ∀ j < s.started, s.promises j ≠ none
  | _ => True

/-- The events that happen are clean, each in the state in which it happens. -/
def CleanRun (maxRetries : Nat) : Attempts → List Event → Prop
  | _, [] => True
  | s, e :: events =>
    (s.enabled e = true → s.Clean e) ∧ CleanRun maxRetries (s.step maxRetries e) events

variable {maxRetries : Nat} {s : Attempts} {e : Event}

/-! ### What the attempts share -/

/-- The handler of errors rejects the attempt that started last, and until the response is finished
every attempt listens for that. -/
structure Shared (s : Attempts) : Prop where
  latest : ∃ n, s.started = n + 1 ∧ s.proxyReject = some n
  listening : s.finished = false → ∀ j, j ∈ s.listeners ↔ j < s.started

/-- The first attempt. -/
theorem shared_first : first.Shared := by
  constructor
  · exact ⟨0, rfl, rfl⟩
  · intro _ j
    simp [first, executeProxy]

/-- What the loop and the promises do is not shared. -/
theorem Shared.of_eq {s' : Attempts} (h : s.Shared) (hstarted : s'.started = s.started)
    (hreject : s'.proxyReject = s.proxyReject) (hlisteners : s'.listeners = s.listeners)
    (hfinished : s'.finished = s.finished) : s'.Shared := by
  constructor
  · rw [hstarted, hreject]
    exact h.latest
  · rw [hstarted, hlisteners, hfinished]
    exact h.listening

/-- One more attempt. -/
theorem Shared.executeProxy (h : s.Shared) : (executeProxy s).Shared := by
  constructor
  · exact ⟨s.started, rfl, rfl⟩
  · intro hfinished j
    have hlistening := h.listening hfinished j
    unfold Attempts.executeProxy
    dsimp only
    rw [List.mem_append, List.mem_singleton, hlistening]
    omega

/-- An answer. -/
theorem Shared.answer (h : s.Shared) : (answer s).Shared := by
  unfold Attempts.answer
  split
  · exact h
  · exact h.of_eq rfl rfl rfl rfl

/-- A failed fire. -/
theorem Shared.failed {error : ProxyError} (h : s.Shared) : (failed maxRetries s error).Shared := by
  have hthrew : Shared { s with loop := .threw } := h.of_eq rfl rfl rfl rfl
  unfold Attempts.failed
  split
  · exact hthrew.answer
  · split
    · exact hthrew.answer
    · split
      · exact hthrew.answer
      · exact h.of_eq rfl rfl rfl rfl

/-- A finished response. -/
theorem Shared.onFinish {x : Settlement} (h : s.Shared) : (onFinish s x).Shared := by
  constructor
  · exact h.latest
  · rintro ⟨⟩

/-- An error. -/
theorem Shared.onError {i : Nat} {error : ProxyError} (h : s.Shared) :
    (onError maxRetries s i error).Shared := by
  unfold Attempts.onError
  split
  · exact h.answer
  · rename_i j hj
    have hsettled : Shared { s with promises := s.promises.settle j (.rejectedBy i) } :=
      h.of_eq rfl rfl rfl rfl
    dsimp only
    split
    · exact hsettled.failed
    · exact hsettled

/-- Every step. -/
theorem Shared.step (h : s.Shared) (e : Event) : (s.step maxRetries e).Shared := by
  unfold Attempts.step
  split
  · cases e with
    | timeout i => exact h.failed
    | error i error =>
      have hended : Shared { s with ended := i :: s.ended } := h.of_eq rfl rfl rfl rfl
      exact hended.onError
    | head i => exact h.of_eq rfl rfl rfl rfl
    | complete i =>
      have hended : Shared { s with ended := i :: s.ended } := h.of_eq rfl rfl rfl rfl
      exact hended.onFinish
    | wake =>
      have hnext : Shared { s with attempt := s.attempt + 1 } := h.of_eq rfl rfl rfl rfl
      exact hnext.executeProxy
    | reject error =>
      have hnext : Shared { s with attempt := s.attempt + 1 } := h.of_eq rfl rfl rfl rfl
      exact hnext.failed
    | flush => exact h.onFinish
  · exact h

/-! ### One step -/

@[simp] theorem promises_answer : (answer s).promises = s.promises := by
  unfold answer
  split <;> rfl

/-- A failed fire settles nothing. -/
@[simp] theorem promises_failed {error : ProxyError} :
    (failed maxRetries s error).promises = s.promises := by
  unfold failed
  split
  · simp
  · split
    · simp
    · split <;> simp

/-- An error settles the promise of the attempt that started last. -/
theorem promises_onError {i : Nat} {error : ProxyError} :
    (onError maxRetries s i error).promises =
      match s.proxyReject with
      | none => s.promises
      | some j => s.promises.settle j (.rejectedBy i) := by
  unfold onError
  cases s.proxyReject with
  | none => simp
  | some j =>
    dsimp only
    split <;> simp

/-- The error of an exchange keeps the promises apart if it is clean. -/
theorem isolated_onError (h : s.Shared) {i : Nat} {error : ProxyError} :
    (onError maxRetries { s with ended := i :: s.ended } i error).Isolated ↔
      s.Isolated ∧ s.Clean (.error i error) := by
  obtain ⟨n, hstarted, hreject⟩ := h.latest
  unfold Isolated Clean
  rw [promises_onError]
  dsimp only
  rw [hreject]
  dsimp only
  rw [Promises.respects_settle, hstarted, Nat.add_sub_cancel]
  refine and_congr_right fun _ ↦ ?_
  constructor
  · intro hown
    by_cases hn : s.promises n = none
    · rcases hown hn with heq | heq
      · exact .inl (by rw [Settlement.rejectedBy.inj heq])
      · cases heq
    · exact .inr hn
  · rintro (heq | hsettled) hn
    · exact .inl (by rw [Nat.add_right_cancel heq])
    · exact absurd hn hsettled

/-- A finished response keeps the promises apart if each attempt that has not settled may settle
so. -/
theorem isolated_onFinish (h : s.Shared) (hfinished : s.finished = false) {x : Settlement} :
    (onFinish s x).Isolated ↔ s.Isolated ∧ ∀ j < s.started, s.promises j = none → Own j x := by
  unfold Isolated onFinish
  dsimp only
  rw [Promises.respects_settleAll]
  refine and_congr_right fun _ ↦ ?_
  simp only [h.listening hfinished]

/-- The promises stay apart in a step if and only if they are apart before it and the step is
clean. -/
theorem isolated_step (h : s.Shared) :
    (s.step maxRetries e).Isolated ↔ s.Isolated ∧ (s.enabled e = true → s.Clean e) := by
  unfold step
  by_cases henabled : s.enabled e = true
  · rw [if_pos henabled]
    simp only [henabled, forall_const]
    cases e with
    | timeout i => simp [apply, Clean, Isolated]
    | head i => simp [apply, Clean, Isolated]
    | wake => simp [apply, Clean, Isolated, executeProxy]
    | reject error => simp [apply, Clean, Isolated]
    | error i error => exact isolated_onError h
    | complete i =>
      have hended : Shared { s with ended := i :: s.ended } := h.of_eq rfl rfl rfl rfl
      have hfinished : s.finished = false := by
        simp only [enabled, Bool.and_eq_true, Bool.not_eq_true'] at henabled
        exact henabled.2
      have hiff := isolated_onFinish hended hfinished (x := .resolvedBy i)
      unfold apply Clean
      rw [hiff]
      refine and_congr_right fun _ ↦ forall₂_congr fun j hj ↦ ?_
      constructor
      · intro hown hne hnone
        rcases hown hnone with heq | heq
        · cases heq
        · exact hne (Settlement.resolvedBy.inj heq).symm
      · intro hsettled hnone
        by_cases heq : j = i
        · exact .inr (by rw [heq])
        · exact absurd hnone (hsettled heq)
    | flush =>
      have hfinished : s.finished = false := by
        simp only [enabled, Bool.and_eq_true, Bool.not_eq_true'] at henabled
        exact henabled.2
      have hiff := isolated_onFinish h hfinished (x := .resolvedByAnswer)
      unfold apply Clean
      rw [hiff]
      refine and_congr_right fun _ ↦ forall₂_congr fun j hj ↦ ?_
      constructor
      · intro hown hnone
        rcases hown hnone with heq | heq <;> cases heq
      · exact fun hsettled hnone ↦ absurd hnone hsettled
  · rw [if_neg henabled]
    simp [henabled]

/-! ### A run -/

/-- The promises stay apart in a run if and only if they are apart at its start and every step is
clean. -/
theorem isolated_play (h : s.Shared) (events : List Event) :
    (s.play maxRetries events).Isolated ↔ s.Isolated ∧ CleanRun maxRetries s events := by
  induction events generalizing s with
  | nil => simp [play, CleanRun]
  | cons e events ih =>
    have hcons : s.play maxRetries (e :: events) =
        (s.step maxRetries e).play maxRetries events := rfl
    rw [hcons, ih (h.step e), isolated_step h, and_assoc]
    rfl

/-- Before anything has happened, no promise has settled. -/
theorem isolated_first : first.Isolated := Promises.respects_pending _

end Attempts
end Bankos.Gateway

namespace Bankos

open Gateway Attempts

/-- The attempts at one request are isolated in a run if and only if every step of it is clean. -/
theorem attempts_isolated_iff (maxRetries : Nat) (events : List Event) :
    (first.play maxRetries events).Isolated ↔ CleanRun maxRetries first events := by
  rw [isolated_play shared_first]
  exact and_iff_right isolated_first

/-- The late error of a first attempt that has timed out rejects the second one. -/
theorem attempts_not_isolated :
    ¬ ∀ (maxRetries : Nat) (events : List Event), (first.play maxRetries events).Isolated := by
  intro h
  have hown := h 3 [.timeout 0, .wake, .error 0 { code := some "ECONNRESET" }] 1
    (.rejectedBy 0) rfl
  rcases hown with hown | hown <;> cases hown

end Bankos
