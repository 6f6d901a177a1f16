import Bankos.Http.Passage

/-!
# Both services in flight

Requests to the identity service and requests through the gateway, over one world. A request through
the gateway takes part with a call exactly when it may pass, gets there and is admitted there, and
then with that call once, whatever becomes of its attempts: both services are an image of the
controllers.
-/

namespace Bankos.Gateway

open Js Jwt Effects Shapes Middleware Prog

/-! ### Attempts at a controller -/

section Attempts

variable {c : GatewayService.Config} {name method : String} {net : Delivery}
  {service : Program GatewayResponse} {response : GatewayResponse}

/-- A method that is not retried is fired once. -/
theorem executeWithRetry_once (h : method ∉ IDEMPOTENT_METHODS) :
    executeWithRetry c method = fire := by
  have hpass : numLe (some ((0 : Nat) : Int)) (some 0) = true := rfl
  unfold executeWithRetry
  rw [if_neg (by simpa using h), retryFrom, dif_pos hpass]
  refine congrArg (Prog.call (I := RetryApi) RetryOp.fire) (funext fun r ↦ ?_)
  cases r with
  | ok u => rfl
  | error error =>
    show (if error.refused = true then (throw error : RetryProgram Unit) else throw error) = _
    rw [ite_self]
    rfl

/-- What is left of the proxy behind its only fire. -/
def afterFire (name : String) :
    Except ProxyError (RetryApi.Reply RetryOp.fire) → RetryProgram Unit
  | .ok _ => pure ()
  | .error err => do
    let sent ← headersSent
    if sent then pure () else respond (degraded name err)

/-- For a method that is not retried, the proxy fires once and asks the service no more. -/
theorem resilientProxy_once (h : method ∉ IDEMPOTENT_METHODS) :
    resilientProxy c name method = Prog.call (I := RetryApi) RetryOp.fire (afterFire name) := by
  unfold resilientProxy
  rw [executeWithRetry_once h]
  refine congrArg (Prog.call (I := RetryApi) RetryOp.fire) (funext fun r ↦ ?_)
  cases r <;> rfl

/-- Behind the fire nothing is asked of the service. -/
theorem interpret_afterFire (r : Except ProxyError (RetryApi.Reply RetryOp.fire)) (s : Passage)
    (response : GatewayResponse) :
    (afterFire name r).interpret (net.interpretation service) s =
      done (.ok ((afterFire name r).run (net.handler response) s)) := by
  cases r with
  | ok u => rfl
  | error err =>
    show (call (I := RetryApi) .headersSent _).interpret _ _ = _
    rw [interpret_call]
    show (if net.exchanges.sentAfter (s.progress.fires.length - 1) then pure ()
      else respond (degraded name err) : RetryProgram Unit).interpret _ _ =
        done (.ok ((if net.exchanges.sentAfter (s.progress.fires.length - 1) then pure ()
          else respond (degraded name err) : RetryProgram Unit).run _ _))
    cases net.exchanges.sentAfter (s.progress.fires.length - 1) <;> rfl

/-- A request that is not retried asks the service once, if it gets there. -/
theorem interpret_once (h : method ∉ IDEMPOTENT_METHODS) (hdelivered : net.delivered 0 = true) :
    (resilientProxy c name method).interpret (net.interpretation service) {} =
      service >>= fun response ↦
        done (.ok ((resilientProxy c name method).run (net.handler response) {})) := by
  rw [resilientProxy_once h, interpret_call]
  have hfire : net.interpretation service {} .fire = service >>= fun response ↦
      (done (.ok (net.exchanges.outcome 0, ⟨(net.exchanges.exec {} .fire).2, [response]⟩)) :
        Prog Api JsError (Except ProxyError (RetryApi.Reply RetryOp.fire) × Passage)) :=
    if_pos hdelivered
  rw [hfire, bind_assoc]
  refine congrArg (service >>= ·) (funext fun response ↦ ?_)
  have hhandler : net.handler response {} .fire = (net.exchanges.outcome 0,
      (⟨(net.exchanges.exec {} .fire).2, [response]⟩ : Passage)) := by
    show (_, (⟨_, if net.delivered 0 then _ else _⟩ : Passage)) = _
    rw [if_pos hdelivered]
    rfl
  rw [done_ok_bind, interpret_afterFire _ _ response, run_call, hhandler]

/-- A request that is not retried asks the service for nothing, if it does not get there. -/
theorem interpret_undelivered (h : method ∉ IDEMPOTENT_METHODS)
    (hdelivered : net.delivered 0 = false) (response : GatewayResponse) :
    (resilientProxy c name method).interpret (net.interpretation service) {} =
      done (.ok ((resilientProxy c name method).run (net.handler response) {})) := by
  rw [resilientProxy_once h, interpret_call]
  have hfire : net.interpretation service {} .fire =
      (done (.ok (net.exchanges.outcome 0, ⟨(net.exchanges.exec {} .fire).2, []⟩)) :
        Prog Api JsError (Except ProxyError (RetryApi.Reply RetryOp.fire) × Passage)) :=
    if_neg (by simp [hdelivered])
  have hhandler : net.handler response {} .fire = (net.exchanges.outcome 0,
      (⟨(net.exchanges.exec {} .fire).2, []⟩ : Passage)) := by
    show (_, (⟨_, if net.delivered 0 then _ else _⟩ : Passage)) = _
    rw [if_neg (by simp [hdelivered])]
    rfl
  rw [hfire, done_ok_bind, interpret_afterFire _ _ response, run_call, hhandler]

/-- A service that answers at once makes no calls, however often it is asked. -/
theorem interpret_at_once (p : RetryProgram Unit) (response : GatewayResponse) (s : Passage) :
    p.interpret (net.interpretation (done (.ok response))) s =
      done (.ok (p.run (net.handler response) s)) := by
  apply interpret_of_handler
  intro s op
  cases op with
  | fire =>
    show (if net.delivered s.progress.fires.length then _ else _ :
      Prog Api JsError (Except ProxyError (RetryApi.Reply RetryOp.fire) × Passage)) =
        done (.ok (_, ⟨_, if net.delivered s.progress.fires.length then _ else _⟩))
    cases net.delivered s.progress.fires.length <;> rfl
  | _ => rfl

end Attempts

/-! ### The calls of both services -/

namespace Tiers

variable {tiers : Tiers} {req : GatewayRequest} {forwarded : Forwarded} {net : Delivery}
  {below : Below} {c : AuthCall}

/-- The call that a request arrives with at a controller, if it does. -/
def call (tiers : Tiers) : TierRequest → Option AuthCall
  | .direct req => tiers.identity.call req
  | .through req net below =>
    match tiers.gateway.arrive req with
    | .answered _ => none
    | .forwards _ forwarded =>
      if forwarded.service = .identity ∧ net.delivered 0 = true then
        tiers.identity.call (tiers.inner forwarded below)
      else none

/-- What the service answers when the controller, if one was reached, has ended. -/
def serviceAnswer (tiers : Tiers) (forwarded : Forwarded) (below : Below)
    (r : Except JsError (Option (HttpResponse AuthData))) : Except JsError GatewayResponse :=
  match forwarded.service with
  | .identity => (tiers.identity.answer (tiers.inner forwarded below) r).map ofIdentity
  | service => .ok ⟨(tiers.gateway.others forwarded).1, none,
      .service service (tiers.gateway.others forwarded).2⟩

/-- The answer to a request when the controller, if one was reached, has ended. -/
def answer (tiers : Tiers) (r : TierRequest)
    (result : Except JsError (Option (HttpResponse AuthData))) : Except JsError TierResponse :=
  match r with
  | .direct req => (tiers.identity.answer req result).map .direct
  | .through req net below =>
    match tiers.gateway.arrive req with
    | .answered response => .ok (.through response)
    | .forwards x forwarded =>
      (tiers.serviceAnswer forwarded below result).map fun response ↦
        .through (net.response x ((resilientProxy tiers.gateway.config forwarded.service.name
          forwarded.method).run (net.handler response) {}).2)

/-- A request through the gateway takes part with a call exactly if it may pass, its first attempt
gets to the identity service, and it is admitted there. -/
theorem call_through : tiers.call (.through req net below) = some c ↔
    ∃ forwarded, req.Passes tiers.gateway forwarded ∧ forwarded.service = .identity ∧
      net.delivered 0 = true ∧ (tiers.inner forwarded below).Admitted tiers.identity c := by
  have harrive := arrive_forwards_iff tiers.gateway req
  unfold call
  dsimp only
  cases h : tiers.gateway.arrive req with
  | answered response =>
    dsimp only
    constructor
    · intro hnone
      cases hnone
    · rintro ⟨forwarded, hpasses, -⟩
      have hforwards := (harrive _ forwarded).mpr ⟨hpasses, rfl⟩
      rw [h] at hforwards
      cases hforwards
  | forwards x forwarded =>
    obtain ⟨hpasses, rfl⟩ := (harrive x forwarded).mp h
    dsimp only
    constructor
    · intro hcall
      split_ifs at hcall with hreaches
      exact ⟨forwarded, hpasses, hreaches.1, hreaches.2, IdentityApp.call_eq_some.mp hcall⟩
    · rintro ⟨forwarded', hpasses', hservice, hdelivered, hadmitted⟩
      have hforwards := (harrive _ forwarded').mpr ⟨hpasses', rfl⟩
      rw [h] at hforwards
      cases hforwards
      rw [if_pos ⟨hservice, hdelivered⟩]
      exact IdentityApp.call_eq_some.mpr hadmitted

/-- What is not retried is a `POST`. -/
theorem post_of_call {req : IdentityRequest} (h : tiers.identity.call req = some c) :
    req.method ∉ IDEMPOTENT_METHODS := by
  rw [(IdentityApp.call_eq_some.mp h).method]
  decide

/-- Without a controller the identity service answers at once. -/
theorem serviceAnswer_none (tiers : Tiers) (forwarded : Forwarded) (below : Below) :
    ∃ response, tiers.serviceAnswer forwarded below (.ok none) = .ok response := by
  unfold serviceAnswer
  cases forwarded.service with
  | identity =>
    unfold IdentityApp.answer
    cases tiers.identity.arrive (tiers.inner forwarded below) with
    | answered response => exact ⟨ofIdentity response, rfl⟩
    | calls x c => exact ⟨_, rfl⟩
  | customer360 => exact ⟨_, rfl⟩
  | credit_risk => exact ⟨_, rfl⟩

/-- A service whose controllers are not reached answers at once. -/
theorem serve_of_call_none (h : forwarded.service = .identity →
      tiers.identity.call (tiers.inner forwarded below) = none) {response : GatewayResponse}
    (hresponse : tiers.serviceAnswer forwarded below (.ok none) = .ok response) :
    tiers.serve forwarded below = done (.ok response) := by
  unfold serviceAnswer at hresponse
  unfold serve
  cases hservice : forwarded.service with
  | identity =>
    rw [hservice] at hresponse
    dsimp only at hresponse ⊢
    rw [IdentityApp.handle_eq, h hservice]
    show Prog.done (tiers.identity.answer (tiers.inner forwarded below) (.ok none)) >>= _ = _
    cases hanswer : tiers.identity.answer (tiers.inner forwarded below) (.ok none) with
    | error e =>
      rw [hanswer] at hresponse
      cases hresponse
    | ok inner =>
      rw [hanswer] at hresponse
      cases hresponse
      rfl
  | customer360 =>
    rw [hservice] at hresponse
    cases hresponse
    rfl
  | credit_risk =>
    rw [hservice] at hresponse
    cases hresponse
    rfl

/-- A request that is handed over, and then reaches no controller, is answered at once. -/
theorem handle_at_once {x : GatewayExchange} {response : GatewayResponse}
    (harrive : tiers.gateway.arrive req = .forwards x forwarded)
    (hresponse : tiers.serviceAnswer forwarded below (.ok none) = .ok response)
    (h : (resilientProxy tiers.gateway.config forwarded.service.name forwarded.method).interpret
        (net.interpretation (tiers.serve forwarded below)) {} =
      done (.ok ((resilientProxy tiers.gateway.config forwarded.service.name
        forwarded.method).run (net.handler response) {}))) :
    tiers.handle (.through req net below) =
      done (tiers.answer (.through req net below) (.ok none)) := by
  unfold handle answer
  dsimp only
  rw [harrive]
  dsimp only
  rw [h, hresponse]
  rfl

/-- A request that reaches a controller asks it once. -/
theorem handle_once {x : GatewayExchange} {c : AuthCall}
    (harrive : tiers.gateway.arrive req = .forwards x forwarded)
    (hservice : forwarded.service = .identity) (hdelivered : net.delivered 0 = true)
    (hcall : tiers.identity.call (tiers.inner forwarded below) = some c) :
    tiers.handle (.through req net below) =
      (AuthCall.serve tiers.identity.env (some c)).mapResult
        (tiers.answer (.through req net below)) := by
  have hmethod : forwarded.method ∉ IDEMPOTENT_METHODS := post_of_call hcall
  have hserve : tiers.serve forwarded below =
      tiers.identity.handle (tiers.inner forwarded below) >>= fun response ↦
        done (.ok (ofIdentity response)) := by
    unfold serve
    rw [hservice]
    rfl
  have hanswer : tiers.serviceAnswer forwarded below = fun r ↦
      (tiers.identity.answer (tiers.inner forwarded below) r).map ofIdentity := by
    unfold serviceAnswer
    rw [hservice]
  unfold handle answer
  dsimp only
  rw [harrive]
  dsimp only
  rw [interpret_once hmethod hdelivered, hserve, hanswer, IdentityApp.handle_eq, hcall]
  generalize AuthCall.serve tiers.identity.env (some c) = p
  induction p with
  | done r =>
    rw [mapResult_done, mapResult_done]
    dsimp only
    cases tiers.identity.answer (tiers.inner forwarded below) r <;> rfl
  | call op next ih => exact congrArg (Prog.call op) (funext ih)

/-- The program of a request is that of its controller, with the answer in other words. -/
theorem handle_eq (tiers : Tiers) (r : TierRequest) :
    tiers.handle r = (AuthCall.serve tiers.identity.env (tiers.call r)).mapResult
      (tiers.answer r) := by
  cases r with
  | direct req =>
    unfold handle call answer
    dsimp only
    rw [IdentityApp.handle_eq]
    generalize AuthCall.serve tiers.identity.env (tiers.identity.call req) = p
    induction p with
    | done r =>
      rw [mapResult_done, mapResult_done]
      cases tiers.identity.answer req r <;> rfl
    | call op next ih => exact congrArg (Prog.call op) (funext ih)
  | through req net below =>
    cases harrive : tiers.gateway.arrive req with
    | answered response =>
      unfold handle call answer
      dsimp only
      rw [harrive]
      rfl
    | forwards x forwarded =>
      obtain ⟨response, hresponse⟩ := tiers.serviceAnswer_none forwarded below
      cases hcall : tiers.call (.through req net below) with
      | some c =>
        have hcall' := hcall
        unfold call at hcall'
        dsimp only at hcall'
        rw [harrive] at hcall'
        dsimp only at hcall'
        split_ifs at hcall' with hreaches
        exact handle_once harrive hreaches.1 hreaches.2 hcall'
      | none =>
        apply handle_at_once harrive hresponse
        unfold call at hcall
        dsimp only at hcall
        rw [harrive] at hcall
        dsimp only at hcall
        by_cases hreaches : forwarded.service = .identity →
            tiers.identity.call (tiers.inner forwarded below) = none
        · rw [serve_of_call_none hreaches hresponse]
          exact interpret_at_once _ _ _
        · rw [Classical.not_imp] at hreaches
          obtain ⟨hservice, hsome⟩ := hreaches
          obtain ⟨c, hc⟩ := Option.ne_none_iff_exists'.mp hsome
          rw [hc] at hcall
          have hundelivered : net.delivered 0 = false := by
            cases hdelivered : net.delivered 0 with
            | false => rfl
            | true =>
              rw [if_pos ⟨hservice, hdelivered⟩] at hcall
              cases hcall
          exact interpret_undelivered (post_of_call hc) hundelivered response

end Tiers

/-- The requests in flight, named by `ι`. -/
abbrev TierServer (ι : Type) := Pool Api JsError ι TierResponse World

/-- Both services over the world `w` before any request has arrived. -/
def Tiers.start {ι : Type} (tiers : Tiers) (reqs : ι → TierRequest) (w : World) : TierServer ι :=
  Pool.start w fun i ↦ tiers.handle (reqs i)

/-- Both services are the image of the controllers. -/
theorem Tiers.start_eq {ι : Type} (tiers : Tiers) (reqs : ι → TierRequest) (w : World) :
    tiers.start reqs w =
      (ControllerServer.start tiers.identity.env (fun i ↦ tiers.call (reqs i)) w).map
        fun i ↦ tiers.answer (reqs i) := by
  unfold start ControllerServer.start
  rw [Pool.map_start]
  exact congrArg (Pool.start w) (funext fun i ↦ tiers.handle_eq (reqs i))

variable {ι : Type} [DecidableEq ι]

/-- The runs of both services are exactly the images of the runs of the controllers, each called
once at most for a request, in the same world and with the same log. A request through the gateway
takes part with a call exactly if it may pass the gateway, its first attempt gets to the identity
service, and what the gateway hands over is admitted there for the call. By `run_authMiddleware` the
verdict that the gateway passes is that of its middleware. -/
theorem tiers_refine_controllers (tiers : Tiers) (reqs : ι → TierRequest) (w : World)
    (ok : TierServer ι → Turn JsError ι Nat → Prop) :
    (∀ q, Pool.Reaches (exec tiers.identity.env) World.pass ok (tiers.start reqs w) q ↔
      ∃ p, q = p.map (fun i ↦ tiers.answer (reqs i)) ∧
        Pool.Reaches (exec tiers.identity.env) World.pass
          (fun p t ↦ ok (p.map fun i ↦ tiers.answer (reqs i)) t)
          (ControllerServer.start tiers.identity.env (fun i ↦ tiers.call (reqs i)) w) p) ∧
    (∀ i req, reqs i = .direct req →
      ∀ c, tiers.call (reqs i) = some c ↔ req.Admitted tiers.identity c) ∧
    ∀ i req net below, reqs i = .through req net below →
      ∀ c, tiers.call (reqs i) = some c ↔
        ∃ forwarded, req.Passes tiers.gateway forwarded ∧ forwarded.service = .identity ∧
          net.delivered 0 = true ∧ (tiers.inner forwarded below).Admitted tiers.identity c := by
  refine ⟨fun q ↦ ?_, fun i req hreq c ↦ ?_, fun i req net below hreq c ↦ ?_⟩
  · rw [tiers.start_eq]
    exact Pool.reaches_map
  · rw [hreq]
    exact IdentityApp.call_eq_some
  · rw [hreq]
    exact Tiers.call_through

/-- A gateway in front of the identity service, whose target ends with the mount path. -/
def Sample.tiers : Tiers where
  gateway :=
    { env := Bankos.Sample.env
      config :=
        { port := some 3000, nodeEnv := .production
          identityServiceUrl := "http://identity/api/v1/auth"
          customer360ServiceUrl := "http://customer360"
          creditRiskServiceUrl := "http://credit-risk"
          jwtSecret := "a gateway secret of more than 32 characters"
          jwtIssuer := "bankos-identity", jwtAudience := "bankos-gateway", logLevel := .info
          proxyTimeoutMs := some 5000, corsAllowedOrigins := ["https://bank.example"]
          cbErrorThresholdPercent := some 50, cbResetTimeoutMs := some 30000
          cbMaxConcurrentRequests := some 100, retryCount := some 3, retryDelayMs := some 1000 }
      appVersion := none
      appBuildCommit := none
      matchesPath := fun pattern url ↦ decide (pattern = url)
      below := fun mount url ↦
        if mount.toList.isPrefixOf url.toList then
          some (String.ofList (url.toList.drop mount.length))
        else none
      others := fun _ ↦ (200, "") }
  identity := Bankos.Sample.app
  joined url := "/api/v1/auth" ++ url
  transmit _ body := .ok body
  address := some "10.0.0.254"

/-- The request for a login through the gateway, with a token that passes it. -/
def Sample.signInThrough : GatewayRequest where
  method := "POST"
  url := "/api/v1/auth/login"
  headers := Bankos.Sample.signIn.headers
  authorization := some [.plain "Bearer", Bankos.Sample.gatewayToken]
  body := Bankos.Sample.signIn.body
  freshId := "00000000-0000-4000-8000-000000000001"
  now := 0

/-- The first attempt gets there, and its answer comes back. -/
def Sample.delivery : Delivery where
  exchanges := Sample.answering
  delivered _ := true
  completes := some 0

/-- The identity service in good health. -/
def Sample.below : Below where
  freshId := "00000000-0000-4000-8000-000000000002"

example : Sample.tiers.call (.through Sample.signInThrough Sample.delivery Sample.below) =
    some (.login { Bankos.Sample.login with ipAddress := "10.0.0.254" }) := rfl

end Bankos.Gateway
