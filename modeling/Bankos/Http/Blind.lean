import Bankos.Http.Tiers

/-!
# Identity headers have no influence

Both services strip identity headers, the gateway not all of them, and it writes some of its own.
None of it matters at the identity service: two families of requests that differ in identity headers
only have the same runs.
-/

namespace Bankos

open Js Jwt Effects Shapes Middleware Prog

/-- The headers that tell who is calling: those that the identity service or the gateway strips. -/
def IDENTITY_HEADERS : List String := HEADERS_TO_STRIP ++ Gateway.DISALLOWED_HEADERS

/-- The headers agree, except for those that tell who is calling. -/
def Headers.Alike (headers headers' : Headers) : Prop :=
  ∀ name, name ∉ IDENTITY_HEADERS → headers name = headers' name

/-! ### The identity service -/

/-- The requests agree, except for identity headers. -/
structure IdentityRequest.Alike (req req' : IdentityRequest) : Prop where
  rest : req' = { req with headers := req'.headers }
  headers : req.headers.Alike req'.headers

/-- The exchanges agree, except for identity headers. -/
structure Exchange.Alike (x x' : Exchange) : Prop where
  req : x.req.Alike x'.req
  correlationId : x.correlationId = x'.correlationId

namespace Exchange.Alike

variable {x x' : Exchange} (h : x.Alike x')
include h

/-- Exchanges that are alike have one method. -/
theorem method : x'.req.method = x.req.method := by rw [h.req.rest]

/-- Exchanges that are alike have one path. -/
theorem path : x'.req.path = x.req.path := by rw [h.req.rest]

/-- Exchanges that are alike have one authorization. -/
theorem authorization : x'.req.authorization = x.req.authorization := by rw [h.req.rest]

/-- Exchanges that are alike have one body. -/
theorem body : x'.req.body = x.req.body := by rw [h.req.rest]

/-- Exchanges that are alike agree in every header that is no identity header. -/
theorem header {name : String} (hname : name ∉ IDENTITY_HEADERS) :
    x'.req.headers name = x.req.headers name := (h.req.headers name hname).symm

/-- Exchanges that are alike are answered alike. -/
theorem respond (status : Nat) (body : AppBody) :
    x'.respond status body = x.respond status body := by
  unfold Exchange.respond
  rw [h.correlationId]

end Exchange.Alike

variable {app : IdentityApp} {x x' : Exchange}

/-- Every middleware of the identity service treats exchanges alike that agree but for identity
headers. -/
theorem middlewares_alike {m : IdentityMiddleware} (hm : m ∈ app.middlewares) (h : x.Alike x') :
    (m x).Alike Exchange.Alike (m x') := by
  have hmedia : mediaType app x'.req.headers = mediaType app x.req.headers := by
    unfold mediaType
    rw [h.header (by decide)]
  unfold IdentityApp.middlewares at hm
  simp only [List.mem_cons, List.not_mem_nil, or_false] at hm
  obtain rfl | rfl | rfl | rfl | rfl | rfl := hm
  · unfold corsMiddleware
    rw [h.header (by decide), h.method, h.respond]
    split_ifs
    · exact ⟨h, rfl⟩
    · exact rfl
    · exact h
  · unfold methodValidationMiddleware
    rw [h.method, h.respond]
    split_ifs
    · exact h
    · exact rfl
  · refine ⟨h.req, ?_⟩
    dsimp only
    rw [h.header (by decide), h.req.rest]
  · refine ⟨⟨?_, fun name hname ↦ ?_⟩, h.correlationId⟩
    · dsimp only
      rw [h.req.rest]
    · have hstrip : name ∉ HEADERS_TO_STRIP := fun hmem ↦ hname (List.mem_append_left _ hmem)
      dsimp only
      rw [IdentityApp.stripped_apply hstrip, IdentityApp.stripped_apply hstrip]
      exact h.req.headers name hname
  · unfold contentTypeValidationMiddleware
    rw [hmedia, h.method, h.respond]
    split_ifs
    · exact rfl
    · exact h
  · unfold bodyParsers
    rw [h.body]
    cases x.req.body with
    | ok body => exact h
    | error e => exact ⟨h, rfl⟩

/-- Two arrivals that have the same answer. -/
def Arrival.Alike : Arrival → Arrival → Prop
  | .answered response, .answered response' => response = response'
  | .calls x c, .calls x' c' => x.Alike x' ∧ c = c'
  | _, _ => False

/-- A route arrives alike at exchanges that agree but for identity headers. -/
theorem AuthRoute.arrive_alike (route : AuthRoute) (h : x.Alike x') (body : Option Document) :
    (route.arrive app x body).Alike (route.arrive app x' body) := by
  have hmeta : ∀ parsed, extractClientMeta x'.req parsed = extractClientMeta x.req parsed := by
    intro parsed
    have hagent : x'.req.userAgent = x.req.userAgent := by
      unfold IdentityRequest.userAgent
      rw [h.header (by decide)]
    have hip : x'.req.ipAddress = x.req.ipAddress := by
      unfold IdentityRequest.ipAddress
      rw [h.req.rest]
    unfold extractClientMeta
    rw [hagent, hip]
  unfold AuthRoute.arrive
  cases validateRequest (route.schema app.email) body with
  | answered response => exact (h.respond ..).symm
  | next parsed =>
    dsimp only
    rw [hmeta, h.authorization]
    cases (if route = .logout then extractAuthToken x.req.authorization
        else some (.plain "") : Option Text) with
    | none => exact (h.respond ..).symm
    | some accessToken =>
      dsimp only
      cases route.call app.text (extractClientMeta x.req (parsed.getD .null)) accessToken with
      | none => exact (h.respond ..).symm
      | some call => exact ⟨h, rfl⟩

/-- The error handler answers exchanges alike that agree but for identity headers. -/
theorem errorHandler_alike (h : x.Alike x') (err : HttpError) :
    errorHandler x' err = errorHandler x err := by
  unfold errorHandler
  simp only [h.respond, h.correlationId]

/-- The documentation is the same for exchanges that agree but for identity headers. -/
theorem IdentityApp.swaggerUi_alike (h : x.Alike x') : app.swaggerUi x' = app.swaggerUi x := by
  have hheaders : DOCS_HEADERS.map x'.req.headers = DOCS_HEADERS.map x.req.headers :=
    List.map_congr_left fun name hname ↦ h.header fun hmem ↦ by
      revert name
      decide
  unfold swaggerUi
  rw [h.method, h.path, hheaders]
  cases app.docs x.req.method x.req.path (DOCS_HEADERS.map x.req.headers) with
  | ok status => exact h.respond _ _
  | error err => exact errorHandler_alike h err

/-- The router arrives alike at exchanges that agree but for identity headers. -/
theorem IdentityApp.route_alike (h : x.Alike x') (body : Option Document) :
    (app.route x body).Alike (app.route x' body) := by
  have hget : ∀ pattern, app.isGet x' pattern = app.isGet x pattern := by
    intro pattern
    unfold isGet
    rw [h.method, h.path]
  have hready : checkReadiness x' = checkReadiness x := by
    unfold checkReadiness
    rw [h.respond, h.req.rest]
  have hjwks : app.getJwks x' = app.getJwks x := by
    unfold getJwks
    rw [h.header (by decide), h.header (by decide), h.header (by decide)]
    simp only [h.respond]
  have hroute : app.authRoute x' = app.authRoute x := by
    unfold authRoute
    rw [h.method, h.path]
  unfold IdentityApp.route
  rw [hget, hget, hget, hget, hready, hjwks, hroute, swaggerUi_alike h, h.path, h.method]
  simp only [h.respond]
  split_ifs
  · exact rfl
  · exact rfl
  · exact rfl
  · exact rfl
  · cases app.authRoute x with
    | some route => exact route.arrive_alike h body
    | none => exact rfl
  · cases app.authRoute x with
    | some route => exact route.arrive_alike h body
    | none => exact rfl

/-- The application arrives alike at requests that agree but for identity headers. -/
theorem IdentityApp.arrive_alike {req req' : IdentityRequest} (h : req.Alike req') :
    (app.arrive req).Alike (app.arrive req') := by
  unfold IdentityApp.arrive
  rcases (chain_alike (S := Exchange.Alike) (fun m hm x x' hx ↦ middlewares_alike hm hx)
      (show Exchange.Alike { req := req } { req := req' } from ⟨h, rfl⟩)).cases with
    ⟨response, hx, hx'⟩ | ⟨x, x', error, hx, hx', hxx'⟩ | ⟨x, x', hx, hx', hxx'⟩
  · rw [hx, hx']
    exact rfl
  · rw [hx, hx']
    exact (errorHandler_alike hxx' error).symm
  · rw [hx, hx']
    dsimp only
    rw [hxx'.body]
    cases x.req.body with
    | ok body => exact route_alike hxx' body
    | error error => exact (errorHandler_alike hxx' error).symm

/-- Requests that differ in identity headers only make the same call, and have the same answer when
it has ended. -/
theorem IdentityApp.call_and_answer_alike {req req' : IdentityRequest} (h : req.Alike req') :
    app.call req = app.call req' ∧ app.answer req = app.answer req' := by
  have harrive : (app.arrive req).Alike (app.arrive req') := arrive_alike h
  unfold IdentityApp.call IdentityApp.answer
  cases hx : app.arrive req with
  | answered response =>
    rw [hx] at harrive
    cases hx' : app.arrive req' with
    | answered response' =>
      rw [hx'] at harrive
      obtain rfl : response = response' := harrive
      exact ⟨rfl, rfl⟩
    | calls x' c' =>
      rw [hx'] at harrive
      exact harrive.elim
  | calls x c =>
    rw [hx] at harrive
    cases hx' : app.arrive req' with
    | answered response' =>
      rw [hx'] at harrive
      exact harrive.elim
    | calls x' c' =>
      rw [hx'] at harrive
      obtain ⟨hxx', rfl⟩ := harrive
      refine ⟨rfl, funext fun r ↦ ?_⟩
      rcases r with e | _ | response
      · rfl
      · simp only [hxx'.respond, hxx'.method, hxx'.path]
      · simp only [hxx'.respond]

/-! ### The gateway -/

namespace Gateway

/-- The requests to the gateway agree, except for identity headers. -/
structure GatewayRequest.Alike (req req' : GatewayRequest) : Prop where
  rest : req' = { req with headers := req'.headers }
  headers : req.headers.Alike req'.headers

/-- The exchanges at the gateway agree, except for identity headers. -/
structure GatewayExchange.Alike (x x' : GatewayExchange) : Prop where
  req : x.req.Alike x'.req
  correlationId : x.correlationId = x'.correlationId

/-- The requests that are handed over agree, except for identity headers. -/
structure Forwarded.Alike (f f' : Forwarded) : Prop where
  rest : f' = { f with headers := f'.headers }
  headers : f.headers.Alike f'.headers

namespace GatewayExchange.Alike

variable {x x' : GatewayExchange} (h : x.Alike x')
include h

/-- Exchanges at the gateway that are alike have one method. -/
theorem method : x'.req.method = x.req.method := by rw [h.req.rest]

/-- Exchanges at the gateway that are alike have one URL. -/
theorem url : x'.req.url = x.req.url := by rw [h.req.rest]

/-- Exchanges at the gateway that are alike agree in every header that is no identity header. -/
theorem header {name : String} (hname : name ∉ IDENTITY_HEADERS) :
    x'.req.headers name = x.req.headers name := (h.req.headers name hname).symm

/-- Exchanges at the gateway that are alike are answered alike. -/
theorem respond (status : Nat) (body : GatewayBody) :
    x'.respond status body = x.respond status body := by
  unfold GatewayExchange.respond
  rw [h.correlationId]

end GatewayExchange.Alike

variable {app : GatewayApp} {x x' : GatewayExchange}

/-- Every middleware of the gateway treats exchanges alike that agree but for identity headers. -/
theorem middlewares_alike {m : GatewayMiddleware} (hm : m ∈ app.middlewares) (h : x.Alike x') :
    (m x).Alike GatewayExchange.Alike (m x') := by
  unfold GatewayApp.middlewares at hm
  simp only [List.mem_cons, List.not_mem_nil, or_false] at hm
  obtain rfl | rfl | rfl | rfl | rfl | rfl | rfl := hm
  · refine ⟨h.req, ?_⟩
    dsimp only
    rw [h.header (by decide), h.req.rest]
  · have hlimited : x'.req.limited = x.req.limited := by rw [h.req.rest]
    unfold rateLimitMiddleware
    rw [h.respond, hlimited]
    split_ifs
    · exact rfl
    · exact h
  · unfold corsMiddleware
    rw [h.header (by decide), h.method, h.respond]
    split_ifs
    · exact ⟨h, rfl⟩
    · exact rfl
    · exact h
  · unfold validateHttpMethodMiddleware
    rw [h.method, h.respond]
    split_ifs
    · exact h
    · exact rfl
  · have hbody : x'.req.body = x.req.body := by rw [h.req.rest]
    unfold bodyParsers
    rw [hbody]
    cases x.req.body with
    | ok body => exact h
    | error e => exact ⟨h, rfl⟩
  · unfold validateContentTypeMiddleware
    rw [h.header (by decide), h.method, h.respond]
    split_ifs
    · exact rfl
    · exact h
  · refine ⟨⟨?_, fun name hname ↦ ?_⟩, h.correlationId⟩
    · dsimp only
      rw [h.req.rest]
    · have hstrip : name ∉ DISALLOWED_HEADERS := fun hmem ↦ hname (List.mem_append_right _ hmem)
      dsimp only
      rw [sanitizeHeadersMiddleware_of_not_mem hstrip, sanitizeHeadersMiddleware_of_not_mem hstrip]
      exact h.req.headers name hname

/-- What the gateway writes into the headers does not depend on the other ones. -/
theorem inject_alike {headers headers' : Headers} (h : headers.Alike headers')
    (xUserId xUserRoles : Option String) :
    ∃ sent sent', inject headers (.next xUserId xUserRoles) = some sent ∧
      inject headers' (.next xUserId xUserRoles) = some sent' ∧ sent.Alike sent' := by
  refine ⟨_, _, rfl, rfl, fun name hname ↦ ?_⟩
  rw [Headers.set_apply, Headers.set_apply, Headers.setIfSome_apply, Headers.setIfSome_apply,
    Headers.setIfSome_apply, Headers.setIfSome_apply, h name hname]

/-- What the proxy makes of the headers agrees, except for identity headers. -/
theorem proxyReq_alike {headers headers' : Headers} (h : x.Alike x')
    (hsent : headers.Alike headers') : (proxyReq x headers).Alike (proxyReq x' headers') := by
  intro name hname
  unfold proxyReq
  rw [Headers.setIfSome_apply, Headers.setIfSome_apply, h.correlationId]
  unfold Headers.delete
  rw [hsent name hname]

/-- Two arrivals that an observer of the answers cannot tell apart. -/
def GatewayArrival.Alike : GatewayArrival → GatewayArrival → Prop
  | .answered response, .answered response' => response = response'
  | .forwards x f, .forwards x' f' => x.Alike x' ∧ f.Alike f'
  | _, _ => False

/-- The routes of the gateway arrive alike at exchanges that agree but for identity headers. -/
theorem GatewayApp.route_alike (h : x.Alike x') (body : Option Document) :
    (app.route x body).Alike (app.route x' body) := by
  have hhealth : app.healthRoutes x' = app.healthRoutes x := by
    unfold healthRoutes
    simp only [h.method, h.url, h.respond]
    rw [h.req.rest]
  have hverdict : verdictAt app.env x'.req.authorization x'.req.now =
      verdictAt app.env x.req.authorization x.req.now := by rw [h.req.rest]
  have hfound : notFoundMiddleware x' = notFoundMiddleware x := by
    unfold notFoundMiddleware
    rw [h.respond, h.method, h.url]
  unfold GatewayApp.route
  rw [hhealth, hverdict, hfound]
  cases app.healthRoutes x with
  | some response => exact rfl
  | none =>
    dsimp only
    cases verdictAt app.env x.req.authorization x.req.now with
    | unauthorized message => exact (h.respond ..).symm
    | internalServerError message => exact (h.respond ..).symm
    | next xUserId xUserRoles =>
      obtain ⟨sent, sent', hsent, hsent', halike⟩ :=
        inject_alike h.req.headers xUserId xUserRoles
      dsimp only
      rw [hsent, hsent', Option.bind_some, Option.bind_some, proxyRouter_eq, proxyRouter_eq, h.url]
      cases app.mounted x.req.url with
      | none => exact rfl
      | some found =>
        refine ⟨h, ?_, proxyReq_alike h halike⟩
        dsimp only
        rw [h.req.rest]

/-- The error handler of the gateway answers exchanges alike that agree but for identity headers. -/
theorem errorHandlerMiddleware_alike (h : x.Alike x') (err : HttpError) :
    errorHandlerMiddleware x' err = errorHandlerMiddleware x err := by
  unfold errorHandlerMiddleware
  simp only [h.respond]

/-- The gateway arrives alike at requests that agree but for identity headers. -/
theorem GatewayApp.arrive_alike {req req' : GatewayRequest} (h : req.Alike req') :
    (app.arrive req).Alike (app.arrive req') := by
  unfold GatewayApp.arrive
  rcases (chain_alike (S := GatewayExchange.Alike) (fun m hm x x' hx ↦ middlewares_alike hm hx)
      (show GatewayExchange.Alike { req := req } { req := req' } from ⟨h, rfl⟩)).cases with
    ⟨response, hx, hx'⟩ | ⟨x, x', error, hx, hx', hxx'⟩ | ⟨x, x', hx, hx', hxx'⟩
  · rw [hx, hx']
    exact rfl
  · rw [hx, hx']
    exact (errorHandlerMiddleware_alike hxx' error).symm
  · rw [hx, hx']
    have hbody : x'.req.body = x.req.body := by rw [hxx'.req.rest]
    dsimp only
    rw [hbody]
    cases x.req.body with
    | ok body => exact route_alike hxx' body
    | error error => exact (errorHandlerMiddleware_alike hxx' error).symm

/-! ### Both services -/

/-- The requests agree, except for identity headers. -/
inductive TierRequest.Alike : TierRequest → TierRequest → Prop
  | direct {req req' : IdentityRequest} (h : req.Alike req') : Alike (.direct req) (.direct req')
  | through {req req' : GatewayRequest} (net : Delivery) (below : Below) (h : req.Alike req') :
      Alike (.through req net below) (.through req' net below)

/-- The gateway hands the request over to another service than that for identities. -/
def Tiers.SendsElsewhere (tiers : Tiers) (r : TierRequest) : Prop :=
  ∃ req net below forwarded, r = .through req net below ∧ req.Passes tiers.gateway forwarded ∧
    forwarded.service ≠ .identity

variable {tiers : Tiers}

/-- What the identity service gets differs in identity headers only. -/
theorem Tiers.inner_alike {f f' : Forwarded} (h : f.Alike f') (below : Below) :
    (tiers.inner f below).Alike (tiers.inner f' below) := by
  refine ⟨?_, h.headers⟩
  unfold Tiers.inner
  rw [← h.headers "content-type" (by decide), h.rest]

/-- Requests that differ in identity headers only make the same call, and have the same answer when
it has ended, unless another service has made it. -/
theorem Tiers.call_and_answer_alike {r r' : TierRequest} (h : r.Alike r') :
    tiers.call r = tiers.call r' ∧
      (¬ tiers.SendsElsewhere r → tiers.answer r = tiers.answer r') := by
  cases h with
  | direct h =>
    obtain ⟨hcall, hanswer⟩ := tiers.identity.call_and_answer_alike h
    refine ⟨hcall, fun _ ↦ ?_⟩
    unfold Tiers.answer
    simp only [hanswer]
  | @through req req' net below h =>
    have harrive : (tiers.gateway.arrive req).Alike (tiers.gateway.arrive req') :=
      GatewayApp.arrive_alike h
    unfold Tiers.call Tiers.answer
    dsimp only
    cases hx : tiers.gateway.arrive req with
    | answered response =>
      rw [hx] at harrive
      cases hx' : tiers.gateway.arrive req' with
      | answered response' =>
        rw [hx'] at harrive
        obtain rfl : response = response' := harrive
        exact ⟨rfl, fun _ ↦ rfl⟩
      | forwards x' f' =>
        rw [hx'] at harrive
        exact harrive.elim
    | forwards x f =>
      rw [hx] at harrive
      cases hx' : tiers.gateway.arrive req' with
      | answered response' =>
        rw [hx'] at harrive
        exact harrive.elim
      | forwards x' f' =>
        rw [hx'] at harrive
        obtain ⟨hxx', hff'⟩ := harrive
        obtain ⟨hcall, hanswer⟩ :=
          tiers.identity.call_and_answer_alike (tiers.inner_alike hff' below)
        have hservice : f'.service = f.service := by rw [hff'.rest]
        have hmethod : f'.method = f.method := by rw [hff'.rest]
        dsimp only
        rw [hcall, hservice, hmethod]
        refine ⟨rfl, fun hhere ↦ ?_⟩
        have hidentity : f.service = .identity := by
          by_contra hne
          exact hhere ⟨req, net, below, f, rfl, ((arrive_forwards_iff _ _ _ _).mp hx).1, hne⟩
        funext result
        have hserve : tiers.serviceAnswer f below result = tiers.serviceAnswer f' below result := by
          unfold Tiers.serviceAnswer
          rw [hservice, hidentity]
          dsimp only
          rw [hanswer]
        have hresponse : ∀ s, net.response x s = net.response x' s := by
          intro s
          unfold Delivery.response
          simp only [hxx'.respond, hxx'.correlationId]
        simp only [hserve, hresponse]

variable {ι : Type} [DecidableEq ι]

/-- Whoever is said to be calling does not matter to the identity service: of two families of
requests that differ in identity headers only, every run of one is a run of the other, with the same
calls, in the same world, and with the same answers to all requests that are not handed over to
another service. By `run_authMiddleware` the gateway answers what its middleware decides. -/
theorem identity_headers_ignored (tiers : Tiers) (reqs reqs' : ι → TierRequest) (w : World)
    (hsame : ∀ i, (reqs i).Alike (reqs' i)) :
    (∀ i, tiers.call (reqs i) = tiers.call (reqs' i)) ∧
    ∀ q, Pool.Reaches (exec tiers.identity.env) World.pass
        (fun _ (_ : Turn JsError ι Nat) ↦ True) (tiers.start reqs w) q →
      ∃ q', Pool.Reaches (exec tiers.identity.env) World.pass
          (fun _ (_ : Turn JsError ι Nat) ↦ True) (tiers.start reqs' w) q' ∧
        q'.world = q.world ∧ q'.log = q.log ∧
        ∀ i, ¬ tiers.SendsElsewhere (reqs i) → q'.rest i = q.rest i := by
  have hcalls : (fun i ↦ tiers.call (reqs i)) = fun i ↦ tiers.call (reqs' i) :=
    funext fun i ↦ (Tiers.call_and_answer_alike (hsame i)).1
  refine ⟨fun i ↦ congrFun hcalls i, fun q hq ↦ ?_⟩
  rw [tiers.start_eq, Pool.reaches_map] at hq
  obtain ⟨p, rfl, hp⟩ := hq
  rw [hcalls] at hp
  refine ⟨p.map fun i ↦ tiers.answer (reqs' i), ?_, rfl, rfl, fun i hi ↦ ?_⟩
  · rw [tiers.start_eq, Pool.reaches_map]
    exact ⟨p, rfl, hp⟩
  · show (p.rest i).mapResult (tiers.answer (reqs' i)) =
      (p.rest i).mapResult (tiers.answer (reqs i))
    rw [(Tiers.call_and_answer_alike (hsame i)).2 hi]

/-- A login at the identity service and one through the gateway, both with a role of the client. -/
def Sample.claiming (role : String) : Nat → TierRequest
  | 0 => .direct { Bankos.Sample.signIn with
      headers := Bankos.Sample.signIn.headers.set "x-user-role" role }
  | _ => .through { signInThrough with headers := signInThrough.headers.set "x-user-role" role }
      delivery below

/-- Both logins by turns, without a role. -/
def Sample.claimingNothing : TierServer Nat :=
  (Sample.tiers.start (claiming "") Bankos.Sample.registered).play (exec Bankos.Sample.env)
    World.pass (List.replicate 20 [.act 0, .act 1]).flatten

/-- Whoever claims to be an administrator is answered as whoever claims nothing. -/
theorem identity_headers_ignored_admin :
    Sample.claimingNothing.hasReturned 0 = true ∧ Sample.claimingNothing.hasReturned 1 = true ∧
      ∃ q', Pool.Reaches (exec Bankos.Sample.env) World.pass (fun _ (_ : Turn JsError Nat Nat) ↦
          True) (Sample.tiers.start (Sample.claiming "admin") Bankos.Sample.registered) q' ∧
        q'.world = Sample.claimingNothing.world ∧ q'.log = Sample.claimingNothing.log := by
  have hset : ∀ (headers : Headers) (role role' : String),
      (headers.set "x-user-role" role).Alike (headers.set "x-user-role" role') := by
    intro headers role role' name hname
    have hne : name ≠ "x-user-role" := by
      rintro rfl
      exact hname (by decide)
    rw [Headers.set_apply, Headers.set_apply, if_neg hne, if_neg hne]
  have hsame : ∀ i, (Sample.claiming "" i).Alike (Sample.claiming "admin" i) := by
    intro i
    match i with
    | 0 => exact .direct ⟨rfl, hset _ _ _⟩
    | _ + 1 => exact .through _ _ ⟨rfl, hset _ _ _⟩
  obtain ⟨q', hq', hworld, hlog, -⟩ := (identity_headers_ignored Sample.tiers (Sample.claiming "")
    (Sample.claiming "admin") Bankos.Sample.registered hsame).2 _
      (Pool.reaches_play_any _ (List.replicate 20 [.act 0, .act 1]).flatten)
  exact ⟨by decide +kernel, by decide +kernel, q', hq', hworld, hlog⟩

end Gateway

end Bankos
