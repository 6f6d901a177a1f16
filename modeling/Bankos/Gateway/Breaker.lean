import Bankos.Gateway.Retry

/-!
# Rejections by the breaker

`gateway/src/middlewares/resilience.ts:52–61`, `104–144`. The breaker library marks its errors by
their `code`, while the loop and the answer look at the `type` and the message for all of them but a
time-out.
-/

namespace Bankos.Gateway

open Effects Prog Settings

/-- The code of a rejection while the circuit is open. -/
def openBreaker : String := "EOPENBREAKER"

/-- The code of a rejection without a free slot. -/
def semaphoreLocked : String := "ESEMLOCKED"

/-- The code of a fire that took too long. -/
def timedOutCode : String := "ETIMEDOUT"

/-- The status that a client is to get for an error of the breaker. -/
def statusFor (code : Option String) : Option Nat :=
  if code = some openBreaker then some 503
  else if code = some semaphoreLocked then some 429
  else if code = some timedOutCode then some 504
  else none

/-- What is promised of the breaker: a rejection ends the loop, and an error of the breaker at the
end, before the headers were sent, is answered with its status. -/
structure BreakerContract (ex : Exchanges) (progress : Progress) : Prop where
  not_retried : ∀ i e, i < progress.fires.length → ex.outcome i = .error e →
    e.code = some openBreaker ∨ e.code = some semaphoreLocked → i + 1 = progress.fires.length
  reported : ∀ last e status, progress.fires.length = last + 1 → ex.outcome last = .error e →
    ex.sentAfter last = false → statusFor e.code = some status →
    ∃ error message, progress.answers = [(status, error, message)]

/-- An error of the breaker has the type or the message that the code looks for. -/
structure ProxyError.Recognised (e : ProxyError) : Prop where
  isOpen : e.code = some openBreaker → e.type = some "open"
  isLocked : e.code = some semaphoreLocked → e.type ≠ some "open" ∧ e.type ≠ some "timeout" ∧
    (e.type = some "system-overload" ∨ e.namesBulkhead = true)
  isTimeout : e.code = some timedOutCode → e.type ≠ some "open"

/-- How many retries the loop may make. -/
def retriesOf (c : GatewayService.Config) (method : String) : Option Int :=
  if IDEMPOTENT_METHODS.contains method then c.retryCount else some 0

namespace Exchanges

variable {ex : Exchanges} {c : GatewayService.Config} {name method : String} {n last i : Nat}
  {e : ProxyError}

/-- The attempt is made: it is allowed, and after each one before it the loop goes on. -/
def Reached (ex : Exchanges) (retries : Option Int) (i : Nat) : Prop :=
  numLe (some i) retries = true ∧ ∀ j < i, ex.goesOn j = true

/-- Every error that is reached before the headers were sent is recognised. -/
def AllRecognised (ex : Exchanges) (retries : Option Int) : Prop :=
  ∀ i e, ex.Reached retries i → ex.outcome i = .error e → ex.sentAfter i = false → e.Recognised

/-! ### How an error is answered -/

/-- An open circuit is answered as such if and only if the error has the type. -/
theorem degraded_open (h : e.code = some openBreaker) :
    (degraded name e).1 = 503 ↔ e.type = some "open" := by
  have hcodes : e.code ≠ some "ECONNREFUSED" ∧ e.code ≠ some "ETIMEDOUT" := by
    rw [h]
    decide
  unfold degraded
  rw [if_neg hcodes.1]
  by_cases hopen : e.type = some "open"
  · simp [hopen]
  · simp only [hopen, hcodes.2, if_false, iff_false]
    split <;> simp
    split <;> simp

/-- A missing slot is answered as such if and only if the error has the type or the message, and not
the type of another answer. -/
theorem degraded_locked (h : e.code = some semaphoreLocked) :
    (degraded name e).1 = 429 ↔ e.type ≠ some "open" ∧ e.type ≠ some "timeout" ∧
      (e.type = some "system-overload" ∨ e.namesBulkhead = true) := by
  have hcodes : e.code ≠ some "ECONNREFUSED" ∧ e.code ≠ some "ETIMEDOUT" := by
    rw [h]
    decide
  unfold degraded
  rw [if_neg hcodes.1]
  by_cases hopen : e.type = some "open"
  · simp [hopen]
  · by_cases htimeout : e.type = some "timeout"
    · simp [htimeout]
    · by_cases hoverload : e.type = some "system-overload" ∨ e.namesBulkhead = true
      · simp [hopen, htimeout, hcodes.2, hoverload]
      · simp [hopen, htimeout, hcodes.2, hoverload]

/-- A time-out is answered as such if and only if the error does not have the type of an open
circuit. -/
theorem degraded_timedOut (h : e.code = some timedOutCode) :
    (degraded name e).1 = 504 ↔ e.type ≠ some "open" := by
  have hcode : e.code ≠ some "ECONNREFUSED" := by
    rw [h]
    decide
  have htimeout : e.code = some "ETIMEDOUT" := h
  unfold degraded
  rw [if_neg hcode]
  by_cases hopen : e.type = some "open"
  · simp [hopen]
  · simp [hopen, htimeout]

/-- Each error of the breaker is answered with its status if and only if it is recognised. -/
theorem recognised_iff (name : String) : e.Recognised ↔
    ∀ status, statusFor e.code = some status → (degraded name e).1 = status := by
  constructor
  · intro h status hstatus
    unfold statusFor at hstatus
    split at hstatus
    · next hcode =>
      rw [← Option.some.inj hstatus]
      exact (degraded_open hcode).mpr (h.isOpen hcode)
    · split at hstatus
      · next hcode =>
        rw [← Option.some.inj hstatus]
        exact (degraded_locked hcode).mpr (h.isLocked hcode)
      · split at hstatus
        · next hcode =>
          rw [← Option.some.inj hstatus]
          exact (degraded_timedOut hcode).mpr (h.isTimeout hcode)
        · cases hstatus
  · intro h
    constructor
    · intro hcode
      exact (degraded_open hcode).mp (h 503 (by rw [hcode]; decide))
    · intro hcode
      exact (degraded_locked hcode).mp (h 429 (by rw [hcode]; decide))
    · intro hcode
      exact (degraded_timedOut hcode).mp (h 504 (by rw [hcode]; decide))

/-- The loop goes on only after an error that is not refused, before the headers were sent. -/
theorem goesOn_error (h : ex.goesOn i = true) (he : ex.outcome i = .error e) :
    e.refused = false ∧ ex.sentAfter i = false := by
  unfold goesOn at h
  rw [he] at h
  simpa using h

/-- A rejection by the breaker that is recognised is refused. -/
theorem refused_of_recognised (h : e.Recognised)
    (hcode : e.code = some openBreaker ∨ e.code = some semaphoreLocked) : e.refused = true := by
  unfold ProxyError.refused
  rcases hcode with hopen | hlocked
  · simp [h.isOpen hopen]
  · obtain ⟨-, -, htype | hmessage⟩ := h.isLocked hlocked
    · simp [htype]
    · simp [hmessage]

/-- An error that is not refused is recognised unless it is a rejection by the breaker. -/
theorem recognised_of_not_refused (h : e.refused = false)
    (hcode : ¬ (e.code = some openBreaker ∨ e.code = some semaphoreLocked)) : e.Recognised := by
  constructor
  · exact fun hopen ↦ absurd (.inl hopen) hcode
  · exact fun hlocked ↦ absurd (.inr hlocked) hcode
  · intro _ htype
    simp [ProxyError.refused, htype] at h

/-- The attempts that are made are those up to the last one. -/
theorem reached_iff (hlast : last ≤ n) (hbefore : ∀ i < last, ex.goesOn i = true)
    (hend : ex.goesOn last = true → last = n) : ex.Reached (some n) i ↔ i ≤ last := by
  constructor
  · rintro ⟨hle, hgo⟩
    have hle : i ≤ n := by simpa [numLe] using hle
    by_contra hlt
    have heq := hend (hgo last (by omega))
    omega
  · intro hle
    exact ⟨by simp [numLe]; omega, fun j hj ↦ hbefore j (by omega)⟩

/-- Attempts up to a last one keep the promise if and only if the errors among them, before the
headers were sent, are recognised. -/
theorem breakerContract_iff_of_last (name : String) {progress : Progress} (hlast : last ≤ n)
    (hbefore : ∀ i < last, ex.goesOn i = true) (hend : ex.goesOn last = true → last = n)
    (hlength : progress.fires.length = last + 1)
    (hanswers : ∀ e, ex.outcome last = .error e → ex.sentAfter last = false →
      progress.answers = [degraded name e]) :
    BreakerContract ex progress ↔ ex.AllRecognised (some n) := by
  have hreached : ∀ i, ex.Reached (some n) i ↔ i ≤ last := fun i ↦ reached_iff hlast hbefore hend
  constructor
  · intro hcontract i e hi he hsent
    have hi : i ≤ last := (hreached i).mp hi
    rw [recognised_iff name]
    intro status hstatus
    by_cases heq : i = last
    · subst heq
      obtain ⟨error, message, hreported⟩ := hcontract.reported i e status hlength he hsent hstatus
      rw [hanswers e he hsent] at hreported
      rw [(List.cons.inj hreported).1]
    · -- an error before the last one has been retried
      have hgo := goesOn_error (hbefore i (by omega)) he
      have hnot : ¬ (e.code = some openBreaker ∨ e.code = some semaphoreLocked) := by
        intro hcode
        have hlen := hcontract.not_retried i e (by omega) he hcode
        omega
      exact (recognised_iff name).mp (recognised_of_not_refused hgo.1 hnot) status hstatus
  · intro hall
    constructor
    · intro i e hi he hcode
      by_contra hne
      have hgo := goesOn_error (hbefore i (by omega)) he
      have hrecognised := hall i e ((hreached i).mpr (by omega)) he hgo.2
      rw [refused_of_recognised hrecognised hcode] at hgo
      exact Bool.noConfusion hgo.1
    · intro last' e status hlen he hsent hstatus
      obtain rfl : last' = last := by omega
      have hrecognised := hall last' e ((hreached last').mpr (Nat.le_refl _)) he hsent
      have hanswer := (recognised_iff name).mp hrecognised status hstatus
      exact ⟨(degraded name e).2.1, (degraded name e).2.2, by rw [hanswers e he hsent, ← hanswer]⟩

end Exchanges

end Bankos.Gateway

namespace Bankos

open Effects Prog Settings Gateway GatewayService

/-- For every request and every sequence of outcomes, the breaker is not fired again after its
rejections and its errors are answered with their statuses if and only if each error that is reached
before the headers were sent has the type or the message that the code looks for. -/
theorem resilientProxy_breakerContract_iff (c : GatewayService.Config) (name method : String)
    (ex : Exchanges) :
    BreakerContract ex ((resilientProxy c name method).run ex.exec {}).2 ↔
      ex.AllRecognised (retriesOf c method) := by
  by_cases hnumber : ∃ n : Nat, retriesOf c method = some (n : Int)
  · obtain ⟨n, hn⟩ := hnumber
    obtain ⟨last, hlast, hbefore, hend, hrun⟩ := Exchanges.run_executeWithRetry_last ex hn
    rw [Exchanges.run_resilientProxy_of_last hrun, hn]
    apply Exchanges.breakerContract_iff_of_last name hlast hbefore hend
    · simp
    · intro e he hsent
      simp [he, hsent]
  · have hnone : ∀ n : Nat, retriesOf c method ≠ some (n : Int) := fun n hn ↦ hnumber ⟨n, hn⟩
    rw [Exchanges.run_resilientProxy_none rfl hnone]
    constructor
    · -- no attempt is allowed
      intro _ i e hi
      obtain ⟨hle, -⟩ := hi
      cases hretries : retriesOf c method with
      | none =>
        rw [hretries] at hle
        cases hle
      | some r =>
        rw [hretries] at hle
        have hr : (i : Int) ≤ r := by simpa [numLe] using hle
        exact absurd (by rw [hretries, Int.toNat_of_nonneg (by omega)]) (hnone r.toNat)
    · intro _
      constructor
      · exact fun i e hi ↦ absurd hi (Nat.not_lt_zero i)
      · exact fun last e status hlen ↦ absurd hlen (by simp)

/-! ### An open circuit -/

namespace Sample

/-- A breaker whose circuit is open, with the error of the library. -/
def openCircuit : Exchanges where
  outcome _ := .error { code := some "EOPENBREAKER", message := some "Breaker is open" }
  sentBefore _ := false
  sentAfter _ := false
  stays_in_attempt _ h := h
  stays_in_wait _ h := h

end Sample

/-- While the circuit is open a `GET` is fired four times, and answered with status 502. -/
theorem resilientProxy_retries_open_circuit :
    ¬ ∀ (platform : Platform) (settings : Settings.Environment) (c : GatewayService.Config)
        (name method : String) (ex : Exchanges), envSchema platform settings = .ok c →
      BreakerContract ex ((resilientProxy c name method).run ex.exec {}).2 := by
  intro h
  obtain ⟨c, hc, hretries⟩ : ∃ c, envSchema Sample.platform Sample.gatewayEnv = .ok c ∧
      retriesOf c "GET" = some ((3 : Nat) : Int) := ⟨_, rfl, rfl⟩
  have hcontract := h Sample.platform Sample.gatewayEnv c "identity" "GET" Sample.openCircuit hc
  obtain ⟨last, -, -, hend, hrun⟩ := Exchanges.run_executeWithRetry_last Sample.openCircuit hretries
  obtain rfl : last = 3 := hend rfl
  rw [Exchanges.run_resilientProxy_of_last hrun] at hcontract
  exact absurd (hcontract.not_retried 0 _ (by decide) rfl (.inl rfl)) (by decide)

end Bankos
