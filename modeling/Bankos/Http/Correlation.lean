import Bankos.Http.Tiers

/-!
# One identifier for a request

The gateway takes the correlation identifier of a request or makes a new one, sends it on and sets
it on its answer; the identity service takes it over and sets it on its own answer, which replaces
that of the gateway. Both are the same, at every stage that may answer.
-/

namespace Bankos.Gateway

open Js Jwt Effects Shapes Middleware Prog

/-! ### At the identity service -/

section Identity

variable {app : IdentityApp} {req : IdentityRequest} {x : Exchange}

/-- The identifier under which the identity service handles a request. -/
def innerId (req : IdentityRequest) : String :=
  Bankos.correlationId (req.headers "x-correlation-id") req.freshId

/-- The exchange has the identifier of its request, or it has none yet. -/
structure Tagged (id : String) (x : Exchange) : Prop where
  request : innerId x.req = id
  exchange : x.correlationId = none ∨ x.correlationId = some id

/-- The identifier of an answer of the identity service. -/
def MayCarry (id : String) (correlationId : Option String) : Prop :=
  correlationId = none ∨ correlationId = some id

/-- Every middleware keeps the identifier of the exchange, and answers under it or under none. -/
theorem middlewares_tagged {id : String} {m : IdentityMiddleware} (hm : m ∈ app.middlewares)
    (hx : Tagged id x) : (m x).Meets (Tagged id) (fun r ↦ MayCarry id r.correlationId)
      fun x _ ↦ Tagged id x := by
  unfold IdentityApp.middlewares at hm
  simp only [List.mem_cons, List.not_mem_nil, or_false] at hm
  obtain rfl | rfl | rfl | rfl | rfl | rfl := hm
  · unfold Bankos.corsMiddleware
    split_ifs
    · exact hx
    · exact hx.exchange
    · exact hx
  · unfold methodValidationMiddleware
    split_ifs
    · exact hx
    · exact hx.exchange
  · exact ⟨hx.request, .inr (congrArg some hx.request)⟩
  · refine ⟨?_, hx.exchange⟩
    have hkept : HEADERS_TO_STRIP.foldl Headers.delete x.req.headers "x-correlation-id" =
        x.req.headers "x-correlation-id" := IdentityApp.stripped_apply (by decide)
    rw [← hx.request]
    unfold innerId
    dsimp only
    rw [hkept]
  · unfold contentTypeValidationMiddleware
    split_ifs
    · exact hx.exchange
    · exact hx
  · unfold Bankos.bodyParsers
    cases x.req.body with
    | ok body => exact hx
    | error e => exact hx

/-- The documentation comes with the identifier of the exchange. -/
theorem swaggerUi_tag (x : Exchange) : (app.swaggerUi x).correlationId = x.correlationId := by
  unfold IdentityApp.swaggerUi errorHandler
  split
  · rfl
  · split_ifs <;> rfl

/-- The routes answer with the identifier of the exchange. -/
theorem route_answered_tag {body : Option Document} {response : AppResponse}
    (h : app.route x body = .answered response) : response.correlationId = x.correlationId := by
  unfold IdentityApp.route at h
  cases hroute : app.authRoute x with
  | none =>
    rw [hroute] at h
    dsimp only at h
    split_ifs at h
    all_goals
      cases h
      first
        | exact swaggerUi_tag x
        | rfl
  | some route =>
    rw [hroute] at h
    dsimp only at h
    split_ifs at h
    any_goals
      cases h
      rfl
    unfold AuthRoute.arrive at h
    split at h
    · cases h
      rfl
    · dsimp only at h
      split at h
      · cases h
        rfl
      · split at h
        · cases h
        · cases h
          rfl

/-- A request that is answered on the way is answered under its identifier, or under none. -/
theorem arrive_answered_tag {response : AppResponse} (h : app.arrive req = .answered response) :
    MayCarry (innerId req) response.correlationId := by
  have hmeets : (chain app.middlewares { req := req }).Meets (Tagged (innerId req))
      (fun r ↦ MayCarry (innerId req) r.correlationId) fun x _ ↦ Tagged (innerId req) x :=
    chain_meets (fun _ hm _ hx ↦ middlewares_tagged hm hx) ⟨rfl, .inl rfl⟩
  have herror : ∀ (x : Exchange) error, Tagged (innerId req) x →
      MayCarry (innerId req) (errorHandler x error).correlationId := by
    intro x error hx
    unfold errorHandler
    split_ifs <;> exact hx.exchange
  unfold IdentityApp.arrive at h
  split at h
  · next hchain =>
    rw [hchain] at hmeets
    cases h
    exact hmeets
  · next x error hchain =>
    rw [hchain] at hmeets
    cases h
    exact herror x error hmeets
  · next x hchain =>
    rw [hchain] at hmeets
    have hx : Tagged (innerId req) x := hmeets
    split at h
    · rw [route_answered_tag h]
      exact hx.exchange
    · cases h
      exact herror x _ hx

/-- The exchange that comes to a controller is the request as it was routed. -/
theorem arrive_calls_routed {c : AuthCall} (h : app.arrive req = .calls x c) : x = req.routed := by
  unfold IdentityApp.arrive at h
  cases hchain : chain app.middlewares { req := req } with
  | ended response =>
    rw [hchain] at h
    cases h
  | thrown y error =>
    rw [hchain] at h
    cases h
  | next y =>
    obtain ⟨-, -, -, -, ⟨body, hbody⟩, rfl⟩ := IdentityApp.chain_middlewares.mp hchain
    rw [hchain] at h
    dsimp only at h
    rw [show req.routed.req.body = .ok body from hbody] at h
    obtain ⟨route, -, harrive⟩ := IdentityApp.route_calls.mp h
    exact (AuthRoute.arrive_calls.mp harrive).1.symm

/-- Every answer of the identity service carries the identifier of its request, or none. -/
theorem handle_tag (app : IdentityApp) (req : IdentityRequest) :
    (app.handle req).Told (fun _ _ ↦ True) fun response ↦
      MayCarry (innerId req) response.correlationId := by
  unfold IdentityApp.handle
  cases harrive : app.arrive req with
  | answered response =>
    apply told_pure
    exact arrive_answered_tag harrive
  | calls x c =>
    apply told_then
    intro response
    apply told_pure
    rw [arrive_calls_routed harrive]
    exact .inr rfl

end Identity

/-! ### At the gateway -/

section Gateway

variable {app : GatewayApp} {req : GatewayRequest} {x : GatewayExchange} {tiers : Tiers}

/-- An answer of the gateway itself: under the identifier, and with nothing from a service. -/
structure GatewayResponse.Own (id : String) (response : GatewayResponse) : Prop where
  correlationId : response.correlationId = some id
  notIdentity : ∀ body, response.body ≠ .identity body
  notService : ∀ service text, response.body ≠ .service service text

/-- An error that the gateway answers is its own. -/
theorem own_error {id : String} (hx : x.correlationId = some id) (status : Nat)
    (error message : String) : (x.respond status (.error error message)).Own id where
  correlationId := hx
  notIdentity _ := GatewayBody.noConfusion
  notService _ _ := GatewayBody.noConfusion

/-- The rest of the middlewares keep the identifier that the first one has set. -/
theorem chain_tagged (app : GatewayApp) (req : GatewayRequest) :
    (chain app.middlewares { req := req }).Meets
      (fun x ↦ x.correlationId = some req.correlationId) (GatewayResponse.Own req.correlationId)
      fun x _ ↦ x.correlationId = some req.correlationId := by
  show (chain app.middlewares.tail
    { req := req, correlationId := some req.correlationId }).Meets _ _ _
  refine chain_meets (fun m hm x hx ↦ ?_) rfl
  unfold GatewayApp.middlewares at hm
  simp only [List.tail_cons, List.mem_cons, List.not_mem_nil, or_false] at hm
  obtain rfl | rfl | rfl | rfl | rfl | rfl := hm
  · unfold rateLimitMiddleware
    split_ifs
    · exact own_error hx ..
    · exact hx
  · unfold corsMiddleware
    split_ifs
    · exact hx
    · exact ⟨hx, fun _ ↦ GatewayBody.noConfusion, fun _ _ ↦ GatewayBody.noConfusion⟩
    · exact hx
  · unfold validateHttpMethodMiddleware
    split_ifs
    · exact hx
    · exact own_error hx ..
  · unfold bodyParsers
    cases x.req.body <;> exact hx
  · unfold validateContentTypeMiddleware
    split_ifs
    · exact own_error hx ..
    · exact hx
  · exact hx

/-- A page of the gateway is its own. -/
theorem healthRoutes_own {id : String} {response : GatewayResponse}
    (hx : x.correlationId = some id) (h : app.healthRoutes x = some response) :
    response.Own id := by
  unfold GatewayApp.healthRoutes at h
  dsimp only at h
  split_ifs at h
  all_goals
    cases h
    exact ⟨hx, fun _ ↦ GatewayBody.noConfusion, fun _ _ ↦ GatewayBody.noConfusion⟩

/-- An answer of the routes of the gateway is its own. -/
theorem route_answered_own {id : String} {body : Option Document} {response : GatewayResponse}
    (hx : x.correlationId = some id) (h : app.route x body = .answered response) :
    response.Own id := by
  unfold GatewayApp.route at h
  split at h
  · next hserved =>
    cases h
    exact healthRoutes_own hx hserved
  · split at h
    · cases h
      exact own_error hx ..
    · cases h
      exact own_error hx ..
    · split at h
      · cases h
      · cases h
        exact own_error hx ..

/-- Whatever the gateway answers without handing the request over is its own. -/
theorem arrive_answered_own {response : GatewayResponse} (h : app.arrive req = .answered response) :
    response.Own req.correlationId := by
  have hmeets := chain_tagged app req
  have herror : ∀ (x : GatewayExchange) error, x.correlationId = some req.correlationId →
      (errorHandlerMiddleware x error).Own req.correlationId := by
    intro x error hx
    unfold errorHandlerMiddleware
    split_ifs <;> exact own_error hx ..
  unfold GatewayApp.arrive at h
  split at h
  · next hchain =>
    rw [hchain] at hmeets
    cases h
    exact hmeets
  · next x error hchain =>
    rw [hchain] at hmeets
    cases h
    exact herror x error hmeets
  · next x hchain =>
    rw [hchain] at hmeets
    split at h
    · exact route_answered_own hmeets h
    · cases h
      exact herror x _ hmeets

/-- The identifier of the request goes on to the service. -/
theorem Passes.correlationId_sent {forwarded : Forwarded} (h : req.Passes app forwarded) :
    forwarded.headers "x-correlation-id" = some req.correlationId := by
  obtain ⟨-, -, headers, -, -, -, hheaders⟩ := h.token
  rw [hheaders]
  rfl

/-- The identity service handles a request that is handed over under the identifier that the gateway
has given it. -/
theorem innerId_inner {forwarded : Forwarded} {below : Below} (h : req.Passes app forwarded)
    (hfresh : isUuidV4 req.freshId = true) :
    innerId (tiers.inner forwarded below) = req.correlationId := by
  have hsent : (tiers.inner forwarded below).headers "x-correlation-id" =
      some req.correlationId := Passes.correlationId_sent h
  unfold innerId
  rw [hsent]
  exact correlationId_of_isUuidV4 (isUuidV4_correlationId hfresh _) _

/-- A service answers under the identifier of the request, or under none. -/
theorem serve_tag {forwarded : Forwarded} {below : Below} (h : req.Passes tiers.gateway forwarded)
    (hfresh : isUuidV4 req.freshId = true) :
    (tiers.serve forwarded below).Told (fun _ _ ↦ True) fun response ↦
      MayCarry req.correlationId response.correlationId := by
  unfold Tiers.serve
  cases forwarded.service with
  | identity =>
    apply Told.seq (handle_tag _ _)
    intro response hresponse
    apply told_pure
    rwa [innerId_inner h hfresh] at hresponse
  | customer360 => exact told_pure (.inl rfl)
  | credit_risk => exact told_pure (.inl rfl)

/-- The response carries the identifier of the exchange, if what the service has answered may. -/
theorem response_tag {net : Delivery} {id : String} {s : Passage} (hx : x.correlationId = some id)
    (hs : ∀ response ∈ s.answers, MayCarry id response.correlationId) :
    (net.response x s).correlationId = some id := by
  unfold Delivery.response
  split
  · exact hx
  · split
    · next response hresponse =>
      obtain ⟨k, -, hk⟩ := Option.bind_eq_some_iff.mp hresponse
      dsimp only
      rcases hs response (List.mem_of_getElem? hk) with hnone | hsome
      · rw [hnone, hx]
        rfl
      · rw [hsome]
        rfl
    · exact hx

/-- What holds of every answer of the service holds of all that have come back. -/
theorem interpret_answers {H : (op : Op) → Except JsError op.Reply → Prop}
    {Q : GatewayResponse → Prop} {net : Delivery} {service : Program GatewayResponse}
    (h : service.Told H Q) (p : RetryProgram Unit) :
    (p.interpret (net.interpretation service) {}).Told H fun reply ↦
      ∀ response ∈ reply.2.answers, Q response := by
  refine told_interpret (Q := fun s : Passage ↦ ∀ response ∈ s.answers, Q response) ?_ p ?_
  · intro s op hs
    cases op with
    | fire =>
      show (if net.delivered s.progress.fires.length then _ else _ :
        Prog Api JsError (Except ProxyError (RetryApi.Reply RetryOp.fire) × Passage)).Told _ _
      split_ifs
      · apply Told.seq h
        intro response hresponse
        apply told_pure
        intro r hr
        rcases List.mem_append.mp hr with hr | hr
        · exact hs r hr
        · rw [List.mem_singleton.mp hr]
          exact hresponse
      · exact told_pure hs
    | _ => exact told_pure hs
  · intro response hresponse
    cases hresponse

/-- Every answer through the gateway carries the identifier of the request. -/
theorem through_tag {net : Delivery} {below : Below} (hfresh : isUuidV4 req.freshId = true) :
    (tiers.handle (.through req net below)).Told (fun _ _ ↦ True) fun response ↦
      ∀ r, response = .through r → r.correlationId = some req.correlationId := by
  unfold Tiers.handle
  dsimp only
  cases harrive : tiers.gateway.arrive req with
  | answered response =>
    apply told_pure
    intro r hr
    cases hr
    exact (arrive_answered_own harrive).correlationId
  | forwards x forwarded =>
    dsimp only
    obtain ⟨hpasses, rfl⟩ := (arrive_forwards_iff _ _ _ _).mp harrive
    apply Told.seq (interpret_answers (serve_tag hpasses hfresh) _)
    intro reply hreply
    apply told_pure
    intro r hr
    cases hr
    exact response_tag rfl hreply

end Gateway

variable {ι : Type} [DecidableEq ι] {tiers : Tiers} {reqs : ι → TierRequest} {w : World}
  {ok : TierServer ι → Turn JsError ι Nat → Prop} {q : TierServer ι}

/-- In every run, whoever answers a request through the gateway answers it under one identifier, a
UUID of version 4: that of the request if it has such a one, and the same at the gateway and at the
identity service. By `run_authMiddleware` the gateway answers what its middleware decides. -/
theorem tiers_correlate (tiers : Tiers) (reqs : ι → TierRequest) (w : World)
    (hfresh : ∀ i req net below, reqs i = .through req net below → isUuidV4 req.freshId = true)
    (hq : Pool.Reaches (exec tiers.identity.env) World.pass ok (tiers.start reqs w) q) :
    ∀ i req net below, reqs i = .through req net below →
      isUuidV4 req.correlationId = true ∧
      (∀ id, req.headers "x-correlation-id" = some id → isUuidV4 id = true →
        req.correlationId = id) ∧
      (∀ forwarded, req.Passes tiers.gateway forwarded →
        (tiers.inner forwarded below).routed.correlationId = some req.correlationId) ∧
      ∀ response, q.Returned i (.through response) →
        response.correlationId = some req.correlationId := by
  intro i req net below hreq
  have hv4 := hfresh i req net below hreq
  refine ⟨isUuidV4_correlationId hv4 _, fun id hid hidv4 ↦ ?_, fun forwarded hpasses ↦ ?_,
    fun response hreturned ↦ ?_⟩
  · unfold GatewayRequest.correlationId
    rw [hid]
    exact correlationId_of_isUuidV4 hidv4 _
  · exact congrArg some (innerId_inner hpasses hv4)
  · have hprogram : (tiers.handle (reqs i)).Told (fun _ _ ↦ True) fun response ↦
        ∀ r, response = .through r → r.correlationId = some req.correlationId := by
      rw [hreq]
      exact through_tag hv4
    have htold := hq.told hprogram fun _ _ _ ↦ trivial
    rw [show q.rest i = .done (.ok (.through response)) from hreturned] at htold
    exact htold _ rfl response rfl

/-- A login through the gateway, up to its answer. -/
def Sample.signedInThrough : TierServer Nat :=
  (Sample.tiers.start (fun _ ↦ .through signInThrough delivery below) Bankos.Sample.registered).play
    (exec Bankos.Sample.env) World.pass (List.replicate 20 (.act 0))

/-- What it is answered. -/
def Sample.throughAnswer : GatewayResponse :=
  match signedInThrough.result 0 with
  | some (.ok (.through response)) => response
  | _ => ⟨500, none, .cut⟩

/-- The tokens of `alice` come under the identifier that the gateway has made. -/
theorem tiers_correlate_signIn :
    Sample.signedInThrough.Returned 0 (.through Sample.throughAnswer) ∧
      Sample.throughAnswer.status = 200 ∧
      Sample.throughAnswer.correlationId = some "00000000-0000-4000-8000-000000000001" := by
  have hreturned : Sample.signedInThrough.Returned 0 (.through Sample.throughAnswer) := by
    decide +kernel
  refine ⟨hreturned, by decide +kernel, ?_⟩
  have hcorrelates := tiers_correlate Sample.tiers
    (fun _ : Nat ↦ .through Sample.signInThrough Sample.delivery Sample.below)
    Bankos.Sample.registered ?_ (Pool.reaches_play_any _ (List.replicate 20 (.act 0)))
  · exact (hcorrelates 0 _ _ _ rfl).2.2.2 _ hreturned
  · rintro i req net below h
    cases h
    decide +kernel

end Bankos.Gateway
