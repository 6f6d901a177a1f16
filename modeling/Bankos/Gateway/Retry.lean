import Bankos.Auth.Engine
import Bankos.Base.Program
import Bankos.Config.Gateway
import Bankos.Tokens.Agreement

/-!
# Retries at the gateway

`gateway/src/middlewares/resilience.ts:42–144`. Between two fires of the breaker the loop waits, and
the answer of an earlier attempt may arrive while it does. What the breaker and the response do is
given for each attempt.
-/

namespace Bankos.Gateway

open Effects Prog Settings

/-- What the code reads of an error. -/
structure ProxyError where
  type : Option String := none
  code : Option String := none
  message : Option String := none
  deriving DecidableEq, Repr

/-- What the code asks of the breaker, of the response and of the clock. -/
inductive RetryOp where
  | fire
  | headersSent
  | wait (delay : Option Int)
  | respond (answer : Nat × String × String)
  deriving DecidableEq, Repr

/-- What comes back. -/
def RetryOp.Reply : RetryOp → Type
  | headersSent => Bool
  | _ => Unit

/-- The calls of the module. -/
abbrev RetryApi : Interface := ⟨RetryOp, RetryOp.Reply⟩

/-- A piece of the module. -/
abbrev RetryProgram := Prog RetryApi ProxyError

/-- A comparison of numbers, false for NaN. -/
def numLe : Option Int → Option Int → Bool
  | some a, some b => decide (a ≤ b)
  | _, _ => false

/-- `resilience.ts:65`, `135`. -/
def ProxyError.namesBulkhead (error : ProxyError) : Bool :=
  error.message.any (PolicyEngine.occursIn "Bulkhead")

/-- `resilience.ts:55–59`: the breaker is open, or the bulkhead exhausted. -/
def ProxyError.refused (error : ProxyError) : Bool :=
  error.type = some "open" || error.type = some "system-overload" || error.namesBulkhead

/-- `resilience.ts:43`. -/
def IDEMPOTENT_METHODS : List String := ["GET", "HEAD", "OPTIONS"]

/-- `res.headersSent`. -/
def headersSent : RetryProgram Bool := perform (I := RetryApi) .headersSent

/-- `await new Promise((r) => setTimeout(r, delay))`. -/
def wait (delay : Option Int) : RetryProgram Unit := perform (I := RetryApi) (.wait delay)

/-- `res.status(…).json(…)`. -/
def respond (answer : Nat × String × String) : RetryProgram Unit :=
  perform (I := RetryApi) (.respond answer)

/-- `await breaker.fire(req, res)`. -/
def fire : RetryProgram Unit := perform (I := RetryApi) .fire

/-- The fire in its `try`, with what was caught. -/
def fireCaught : RetryProgram (Option ProxyError) :=
  try
    fire
    pure none
  catch error => pure (some error)

/-- `resilience.ts:48–85`: the loop from the given attempt on. -/
def retryFrom (c : GatewayService.Config) (maxRetries : Option Int) (attempt : Nat) :
    RetryProgram Unit :=
  if _h : numLe (some attempt) maxRetries = true then do
    let caught ← fireCaught
    match caught with
    | none => pure ()
    | some error =>
      if error.refused then throw error
      else if numLe maxRetries (some attempt) then throw error
      else do
        let sent ← headersSent
        if sent then throw error
        else do
          wait (c.retryDelayMs.map (· * 2 ^ attempt))
          retryFrom c maxRetries (attempt + 1)
  else pure ()
termination_by (maxRetries.getD 0 + 1 - attempt).toNat
decreasing_by
  cases maxRetries with
  | none => cases _h
  | some n =>
    have hle : (attempt : Int) ≤ n := by simpa [numLe] using _h
    simp only [Option.getD_some]
    omega

/-- `resilience.ts:45–86`. -/
def executeWithRetry (c : GatewayService.Config) (method : String) : RetryProgram Unit :=
  retryFrom c (if IDEMPOTENT_METHODS.contains method then c.retryCount else some 0) 0

/-- `resilience.ts:111–141`: status, error and message of the answer to a failure. -/
def degraded (name : String) (err : ProxyError) : Nat × String × String :=
  if err.type = some "open" then
    (503, "Service Unavailable",
      "Circuit breaker is open for " ++ name ++ ". Downstream is unavailable.")
  else if err.code = some "ECONNREFUSED" then
    (503, "Service Unavailable", "Downstream service " ++ name ++ " refused connection.")
  else if err.code = some "ETIMEDOUT" || err.type = some "timeout" then
    (504, "Gateway Timeout", "Request to " ++ name ++ " timed out.")
  else if err.type = some "system-overload" || err.namesBulkhead then
    (429, "Too Many Requests", "Bulkhead exhausted for " ++ name ++ ". Try again later.")
  else
    (502, "Bad Gateway", "Unexpected error communicating with " ++ name ++ ".")

/-- `resilience.ts:104–144`. -/
def resilientProxy (c : GatewayService.Config) (name method : String) : RetryProgram Unit :=
  try executeWithRetry c method
  catch err => do
    let sent ← headersSent
    if sent then pure () else respond (degraded name err)

/-! ### The breaker and the response -/

/-- How the fire of each attempt ends, and whether the headers of the response have been sent when
it starts and when its error is handled. Headers that have been sent stay sent. -/
structure Exchanges where
  outcome : Nat → Except ProxyError Unit
  sentBefore : Nat → Bool
  sentAfter : Nat → Bool
  stays_in_attempt : ∀ i, sentBefore i = true → sentAfter i = true
  stays_in_wait : ∀ i, sentAfter i = true → sentBefore (i + 1) = true

/-- A fire of the breaker: whether the headers had been sent, and whether it succeeded. -/
structure Firing where
  headersSent : Bool
  succeeded : Bool
  deriving DecidableEq, Repr

/-- What has been done for the request. -/
structure Progress where
  fires : List Firing := []
  answers : List (Nat × String × String) := []
  deriving DecidableEq, Repr

namespace Exchanges

/-- The fire of the given attempt. -/
def firing (ex : Exchanges) (i : Nat) : Firing := ⟨ex.sentBefore i, (ex.outcome i).isOk⟩

/-- Each fire ends as the exchanges say. -/
def exec (ex : Exchanges) : Handler RetryApi ProxyError Progress
  | p, .fire =>
    (ex.outcome p.fires.length, { p with fires := p.fires ++ [ex.firing p.fires.length] })
  | p, .headersSent => (.ok (ex.sentAfter (p.fires.length - 1)), p)
  | p, .wait _ => (.ok (), p)
  | p, .respond answer => (.ok (), { p with answers := p.answers ++ [answer] })

/-- The attempt fails in such a way that another one may follow. -/
def goesOn (ex : Exchanges) (i : Nat) : Bool :=
  match ex.outcome i with
  | .ok () => false
  | .error error => !error.refused && !ex.sentAfter i

/-- The headers are sent during the wait before a retry: by an attempt that was given up. -/
def SentWhileWaiting (ex : Exchanges) (retries : Nat) : Prop :=
  ∃ k < retries, (∀ i ≤ k, ex.goesOn i = true) ∧ ex.sentBefore (k + 1) = true

variable {ex : Exchanges} {c : GatewayService.Config} {p : Progress} {n : Nat}

/-! ### The last attempt -/

/-- A fire ends as its attempt does. -/
theorem run_fire : fire.run ex.exec p =
    (ex.outcome p.fires.length,
      { p with fires := p.fires ++ [ex.firing p.fires.length] }) := rfl

/-- The headers have been sent or not when the last fire has failed. -/
theorem run_headersSent : headersSent.run ex.exec p =
    (.ok (ex.sentAfter (p.fires.length - 1)), p) := rfl

/-- The error of a fire is caught. -/
theorem run_fireCaught : fireCaught.run ex.exec p =
    (.ok (match ex.outcome p.fires.length with
      | .ok () => none
      | .error error => some error),
      { p with fires := p.fires ++ [ex.firing p.fires.length] }) := by
  unfold fireCaught
  rw [run_tryCatch, run_bind, run_fire]
  cases ex.outcome p.fires.length <;> rfl

/-- One pass of the loop. -/
theorem run_retryFrom {attempt : Nat} (hle : attempt ≤ n) (hfires : p.fires.length = attempt) :
    (retryFrom c (some n) attempt).run ex.exec p =
      if ex.goesOn attempt = true ∧ attempt < n then
        (retryFrom c (some n) (attempt + 1)).run ex.exec
          { p with fires := p.fires ++ [ex.firing attempt] }
      else (ex.outcome attempt, { p with fires := p.fires ++ [ex.firing attempt] }) := by
  have hpass : numLe (some attempt) (some n) = true := by simpa [numLe] using hle
  rw [retryFrom, dif_pos hpass, run_bind, run_fireCaught, hfires]
  dsimp only
  unfold goesOn
  cases houtcome : ex.outcome attempt with
  | ok u => simp
  | error error =>
    dsimp only
    by_cases hrefused : error.refused = true
    · simp [hrefused]
    · rw [if_neg hrefused]
      by_cases hlast : numLe (some n) (some attempt) = true
      · have hnot : ¬ attempt < n := by simpa [numLe] using hlast
        rw [if_pos hlast, if_neg fun h ↦ hnot h.2]
        rfl
      · have hmore : attempt < n := by simpa [numLe] using hlast
        rw [if_neg hlast, run_bind, run_headersSent]
        have hlength : (p.fires ++ [ex.firing attempt]).length - 1 = attempt := by simp [hfires]
        dsimp only
        rw [hlength]
        cases hafter : ex.sentAfter attempt with
        | true => simp
        | false =>
          rw [if_neg Bool.false_ne_true, if_pos ⟨by simp [hrefused], hmore⟩, run_bind]
          rfl

/-- The loop makes its attempts in order up to a last one and ends as that one does. Each attempt
before it is one after which the loop goes on; it is the last allowed, or the loop does not go on
after it. -/
theorem run_retryFrom_last (ex : Exchanges) (c : GatewayService.Config) {attempt : Nat}
    (hle : attempt ≤ n) (hfires : p.fires.length = attempt) :
    ∃ last, attempt ≤ last ∧ last ≤ n ∧ (∀ i, attempt ≤ i → i < last → ex.goesOn i = true) ∧
      (ex.goesOn last = true → last = n) ∧
      (retryFrom c (some n) attempt).run ex.exec p =
        (ex.outcome last, { p with
          fires := p.fires ++ (List.range' attempt (last + 1 - attempt)).map ex.firing }) := by
  induction hleft : n - attempt generalizing attempt p with
  | zero =>
    have hlast : ¬ attempt < n := by omega
    refine ⟨attempt, Nat.le_refl _, hle, ?_, ?_, ?_⟩
    · intro i _ _
      omega
    · intro _
      omega
    · rw [run_retryFrom hle hfires, if_neg fun h ↦ hlast h.2]
      simp
  | succ left ih =>
    by_cases hgo : ex.goesOn attempt = true
    · have hfires' : (p.fires ++ [ex.firing attempt]).length = attempt + 1 := by simp [hfires]
      obtain ⟨last, hfrom, hto, hbefore, hend, hrun⟩ :=
        ih (p := { p with fires := p.fires ++ [ex.firing attempt] })
          (by omega) hfires' (by omega)
      refine ⟨last, by omega, hto, ?_, hend, ?_⟩
      · intro i hi hlt
        by_cases heq : i = attempt
        · rw [heq, hgo]
        · exact hbefore i (by omega) hlt
      · rw [run_retryFrom hle hfires, if_pos ⟨hgo, by omega⟩, hrun]
        have hcount : last + 1 - attempt = last + 1 - (attempt + 1) + 1 := by omega
        rw [hcount, List.range'_succ]
        simp
    · refine ⟨attempt, Nat.le_refl _, hle, ?_, fun h ↦ absurd h hgo, ?_⟩
      · intro i _ _
        omega
      · rw [run_retryFrom hle hfires, if_neg fun h ↦ hgo h.1]
        simp

/-- The retries that the loop may make for a method. -/
theorem run_executeWithRetry {method : String} {retries : Option Int}
    (h : (if IDEMPOTENT_METHODS.contains method then c.retryCount else some 0) = retries) :
    (executeWithRetry c method).run ex.exec {} = (retryFrom c retries 0).run ex.exec {} := by
  unfold executeWithRetry
  rw [h]

/-- With a number of retries to make, there is a last attempt. -/
theorem run_executeWithRetry_last (ex : Exchanges) {method : String}
    (h : (if IDEMPOTENT_METHODS.contains method then c.retryCount else some 0) = some (n : Int)) :
    ∃ last, last ≤ n ∧ (∀ i < last, ex.goesOn i = true) ∧ (ex.goesOn last = true → last = n) ∧
      (executeWithRetry c method).run ex.exec {} =
        (ex.outcome last, { fires := (List.range (last + 1)).map ex.firing }) := by
  obtain ⟨last, -, hto, hbefore, hend, hrun⟩ :=
    run_retryFrom_last ex c (p := {}) (Nat.zero_le n) rfl
  refine ⟨last, hto, fun i hi ↦ hbefore i (Nat.zero_le i) hi, hend, ?_⟩
  rw [run_executeWithRetry h, hrun, List.range_eq_range']
  rfl

/-- Without a number of retries, or with a negative one, the loop is not entered. -/
theorem run_executeWithRetry_none {method : String} {retries : Option Int}
    (h : (if IDEMPOTENT_METHODS.contains method then c.retryCount else some 0) = retries)
    (hnone : ∀ n : Nat, retries ≠ some (n : Int)) :
    (executeWithRetry c method).run ex.exec {} = (.ok (), {}) := by
  have hpass : ¬ numLe (some (0 : Nat)) retries = true := by
    intro hle
    cases retries with
    | none => cases hle
    | some r =>
      have hr : 0 ≤ r := by simpa [numLe] using hle
      exact hnone r.toNat (by rw [Int.toNat_of_nonneg hr])
  rw [run_executeWithRetry h, retryFrom, dif_neg hpass]
  rfl

/-- The request is answered with the error of the last attempt, if that failed before the headers
were sent. -/
theorem run_resilientProxy_of_last {name method : String} {last : Nat}
    (hrun : (executeWithRetry c method).run ex.exec {} =
      (ex.outcome last, { fires := (List.range (last + 1)).map ex.firing })) :
    (resilientProxy c name method).run ex.exec {} =
      (.ok (), { fires := (List.range (last + 1)).map ex.firing
                 answers := match ex.outcome last with
                   | .ok () => []
                   | .error err => if ex.sentAfter last then [] else [degraded name err] }) := by
  unfold resilientProxy
  rw [run_tryCatch, hrun]
  cases houtcome : ex.outcome last with
  | ok u => rfl
  | error err =>
    dsimp only
    rw [run_bind, run_headersSent]
    simp only [List.length_map, List.length_range, Nat.add_sub_cancel]
    cases ex.sentAfter last <;> rfl

/-- Without a number of retries nothing is fired and nothing answered. -/
theorem run_resilientProxy_none {name method : String} {retries : Option Int}
    (h : (if IDEMPOTENT_METHODS.contains method then c.retryCount else some 0) = retries)
    (hnone : ∀ n : Nat, retries ≠ some (n : Int)) :
    (resilientProxy c name method).run ex.exec {} = (.ok (), {}) := by
  unfold resilientProxy
  rw [run_tryCatch, run_executeWithRetry_none h hnone]

/-- An attempt after which the loop goes on has failed. -/
theorem isOk_of_goesOn {i : Nat} (h : ex.goesOn i = true) : (ex.outcome i).isOk = false := by
  unfold goesOn at h
  cases houtcome : ex.outcome i with
  | ok u =>
    rw [houtcome] at h
    cases h
  | error e => rfl

end Exchanges

/-! ### What is promised -/

/-- The promises of the loop: it fires at least once, at most once for a method that is not
idempotent and at most `RETRY_COUNT + 1` times for the others, not again after a success or after
the headers were sent, and it returns if and only if its last fire succeeded. -/
structure RetryContract (method : String) (retryCount : Option Int) (fires : List Firing)
    (result : Except ProxyError Unit) : Prop where
  fires_once : fires ≠ []
  fires_alone : method ∉ IDEMPOTENT_METHODS → fires.length ≤ 1
  fires_within : method ∈ IDEMPOTENT_METHODS →
    ∃ retries : Int, retryCount = some retries ∧ (fires.length : Int) ≤ retries + 1
  not_after_success : ∀ i firing, fires[i]? = some firing → i + 1 < fires.length →
    firing.succeeded = false
  not_after_headers : ∀ i firing, fires[i + 1]? = some firing → firing.headersSent = false
  returns : result.isOk = true ↔ ∃ firing, fires.getLast? = some firing ∧ firing.succeeded = true

/-- `RETRY_COUNT`, as it is read from the environment. -/
def retryCountOf (settings : Environment) : Option Int :=
  parseInt ((settings "RETRY_COUNT").getD "3")

/-- The method is not idempotent, or `RETRY_COUNT` is a number that is not negative and the headers
are not sent while the loop waits. -/
def RetriesInTime (method : String) (settings : Environment) (ex : Exchanges) : Prop :=
  method ∉ IDEMPOTENT_METHODS ∨
    ∃ retries : Nat, retryCountOf settings = some (retries : Int) ∧ ¬ ex.SentWhileWaiting retries

variable {ex : Exchanges} {n : Nat}

/-- The firings are those of the attempts, in their order. -/
theorem getElem?_firings {i : Nat} {firing : Firing}
    (h : ((List.range n).map ex.firing)[i]? = some firing) : i < n ∧ firing = ex.firing i := by
  rw [List.getElem?_map] at h
  obtain ⟨j, hj, hfiring⟩ := Option.map_eq_some_iff.mp h
  obtain ⟨hlt, hij⟩ := List.getElem?_eq_some_iff.mp hj
  rw [List.length_range] at hlt
  rw [List.getElem_range] at hij
  exact ⟨hlt, by rw [← hfiring, hij]⟩

/-- Attempts that break no promise on the headers do not start after these were sent in a wait. -/
theorem not_sentWhileWaiting {last : Nat}
    (hend : ex.goesOn last = true → last = n)
    (hheaders : ∀ i firing, ((List.range (last + 1)).map ex.firing)[i + 1]? = some firing →
      firing.headersSent = false) : ¬ ex.SentWhileWaiting n := by
  rintro ⟨k, hk, hgo, hsent⟩
  have hklast : k < last := by
    by_cases hlt : k < last
    · exact hlt
    · have heq := hend (hgo last (by omega))
      omega
  have hget : ((List.range (last + 1)).map ex.firing)[k + 1]? = some (ex.firing (k + 1)) := by
    rw [List.getElem?_map, List.getElem?_range (by omega)]
    rfl
  have hnot : ex.sentBefore (k + 1) = false := hheaders k _ hget
  rw [hsent] at hnot
  cases hnot

/-- The promises hold of attempts up to a last one if and only if no later one starts after the
headers were sent. -/
theorem contract_of_last {method : String} {retryCount : Option Int} {last : Nat}
    (hlast : last ≤ n) (hbefore : ∀ i < last, ex.goesOn i = true)
    (hend : ex.goesOn last = true → last = n)
    (halone : method ∉ IDEMPOTENT_METHODS → n = 0)
    (hcount : method ∈ IDEMPOTENT_METHODS → retryCount = some (n : Int)) :
    RetryContract method retryCount ((List.range (last + 1)).map ex.firing) (ex.outcome last) ↔
      ¬ ex.SentWhileWaiting n := by
  have hlength : ((List.range (last + 1)).map ex.firing).length = last + 1 := by
    rw [List.length_map, List.length_range]
  constructor
  · exact fun hcontract ↦ not_sentWhileWaiting hend hcontract.not_after_headers
  · intro hwait
    constructor
    · simp
    · intro hmethod
      have hzero := halone hmethod
      omega
    · intro hmethod
      exact ⟨n, hcount hmethod, by omega⟩
    · intro i firing hfiring hi
      obtain ⟨-, rfl⟩ := getElem?_firings hfiring
      exact Exchanges.isOk_of_goesOn (hbefore i (by omega))
    · intro i firing hfiring
      obtain ⟨hi, rfl⟩ := getElem?_firings hfiring
      by_cases hsent : ex.sentBefore (i + 1) = true
      · exact absurd ⟨i, by omega, fun j hj ↦ hbefore j (by omega), hsent⟩ hwait
      · exact Bool.eq_false_iff.mpr hsent
    · rw [List.range_succ, List.map_append, List.map_singleton, List.getLast?_concat]
      constructor
      · intro hok
        exact ⟨_, rfl, hok⟩
      · rintro ⟨firing, hfiring, hsucceeded⟩
        cases hfiring
        exact hsucceeded

end Bankos.Gateway

namespace Bankos

open Effects Prog Settings Gateway GatewayService

/-- The configuration holds the `RETRY_COUNT` of its environment. -/
theorem retryCount_read {platform : Platform} {settings : Environment} {c : GatewayService.Config}
    (hc : envSchema platform settings = .ok c) : c.retryCount = retryCountOf settings := by
  have hretry := (envSchema_yields platform settings c hc).retryCount
  unfold retryCountOf
  cases hset : settings "RETRY_COUNT" with
  | none =>
    rw [hset] at hretry
    exact (Except.ok.inj hretry).symm
  | some val =>
    rw [hset] at hretry
    exact (Except.ok.inj hretry).symm

/-- For every accepted environment the loop keeps its promises if and only if the method is not
idempotent, or `RETRY_COUNT` is a number that is not negative and the headers are not sent while
the loop waits. -/
theorem executeWithRetry_contract_iff (platform : Platform) (settings : Environment)
    (c : GatewayService.Config) (hc : envSchema platform settings = .ok c) (method : String)
    (ex : Exchanges) :
    RetryContract method c.retryCount ((executeWithRetry c method).run ex.exec {}).2.fires
        ((executeWithRetry c method).run ex.exec {}).1 ↔
      RetriesInTime method settings ex := by
  have hread : c.retryCount = retryCountOf settings := retryCount_read hc
  unfold RetriesInTime
  by_cases hmethod : method ∈ IDEMPOTENT_METHODS
  · have hretries : (if IDEMPOTENT_METHODS.contains method then c.retryCount else some 0) =
        retryCountOf settings := by
      rw [if_pos (by simpa using hmethod), hread]
    by_cases hnumber : ∃ n : Nat, retryCountOf settings = some (n : Int)
    · obtain ⟨n, hn⟩ := hnumber
      rw [hn] at hretries
      obtain ⟨last, hlast, hbefore, hend, hrun⟩ :=
        Exchanges.run_executeWithRetry_last ex hretries
      rw [hrun, contract_of_last hlast hbefore hend (fun h ↦ absurd hmethod h)
        (fun _ ↦ by rw [hread, hn])]
      constructor
      · exact fun hwait ↦ .inr ⟨n, hn, hwait⟩
      · rintro (hnot | ⟨m, hm, hwait⟩)
        · exact absurd hmethod hnot
        · have heq : n = m := by
            rw [hn] at hm
            exact Int.ofNat.inj (Option.some.inj hm)
          rw [heq]
          exact hwait
    · have hnone : ∀ n : Nat, retryCountOf settings ≠ some (n : Int) :=
        fun n hn ↦ hnumber ⟨n, hn⟩
      rw [Exchanges.run_executeWithRetry_none hretries hnone]
      constructor
      · exact fun hcontract ↦ absurd rfl hcontract.fires_once
      · rintro (hnot | ⟨m, hm, -⟩)
        · exact absurd hmethod hnot
        · exact absurd hm (hnone m)
  · have hretries : (if IDEMPOTENT_METHODS.contains method then c.retryCount else some 0) =
        some ((0 : Nat) : Int) := by
      rw [if_neg (by simpa using hmethod)]
      rfl
    obtain ⟨last, hlast, hbefore, hend, hrun⟩ :=
      Exchanges.run_executeWithRetry_last ex hretries
    rw [hrun, contract_of_last hlast hbefore hend (fun _ ↦ rfl) (fun h ↦ absurd h hmethod)]
    constructor
    · exact fun _ ↦ .inl hmethod
    · rintro - ⟨k, hk, -⟩
      exact absurd hk (Nat.not_lt_zero k)

/-! ### A gateway with a misspelt retry count -/

namespace Sample

/-- The environment of the gateway, with a text that is not a number as `RETRY_COUNT`. -/
def misspeltEnv : Settings.Environment := fun name ↦
  if name = "RETRY_COUNT" then some "three" else gatewayEnv name

/-- A downstream service that answers every attempt. -/
def answering : Exchanges where
  outcome _ := .ok ()
  sentBefore i := decide (0 < i)
  sentAfter _ := true
  stays_in_attempt _ _ := rfl
  stays_in_wait _ _ := by simp

end Sample

/-- The case of a `GET` under that environment. -/
theorem executeWithRetry_contract_iff_misspelt :
    ∃ c, envSchema Sample.platform Sample.misspeltEnv = .ok c ∧
      (RetryContract "GET" c.retryCount
          ((executeWithRetry c "GET").run Sample.answering.exec {}).2.fires
          ((executeWithRetry c "GET").run Sample.answering.exec {}).1 ↔
        RetriesInTime "GET" Sample.misspeltEnv Sample.answering) :=
  ⟨_, rfl, executeWithRetry_contract_iff Sample.platform Sample.misspeltEnv _ rfl "GET"
    Sample.answering⟩

/-- The gateway starts with `RETRY_COUNT=three`, and a `GET` is then not sent at all. -/
theorem executeWithRetry_never_fires :
    ¬ ∀ (platform : Platform) (settings : Settings.Environment) (c : GatewayService.Config)
        (method : String) (ex : Exchanges), envSchema platform settings = .ok c →
      RetryContract method c.retryCount ((executeWithRetry c method).run ex.exec {}).2.fires
        ((executeWithRetry c method).run ex.exec {}).1 := by
  intro h
  have hcontract := h Sample.platform Sample.misspeltEnv _ "GET" Sample.answering rfl
  have hnone : ∀ n : Nat, (none : Option Int) ≠ some (n : Int) := fun _ h ↦ by cases h
  rw [Exchanges.run_executeWithRetry_none (by exact rfl) hnone] at hcontract
  exact hcontract.fires_once rfl

end Bankos
