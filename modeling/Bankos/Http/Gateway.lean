import Bankos.Base.Interpret
import Bankos.Gateway.Retry
import Bankos.Http.Server

/-!
# The gateway application

`gateway/src/app.ts` with its middlewares, `health.routes.ts` and `proxy.ts`: a request is answered
on the way, or it is handed over to the service whose mount path it is under. Behind the mount the
loop of `resilience.ts` asks the service as often as it likes, and the network decides which of its
requests get there.
-/

namespace Bankos.Gateway

open Js Jwt Effects Shapes Middleware Prog

/-- What the code reads of a request. `body` is what the parsers make of it, `freshId` what `uuidv4`
returns, `limited` what the rate limiter finds, `now` the time at which the token is checked. -/
structure GatewayRequest where
  method : String
  url : String
  headers : Headers
  authorization : Option (List Text)
  body : Except HttpError (Option Document)
  freshId : String
  now : Nat
  limited : Bool := false
  metricsFail : Bool := false

/-- The services of `proxy.ts:79–81`. -/
inductive Service where
  | identity
  | customer360
  | credit_risk
  deriving DecidableEq, Repr

/-- The first argument of `createServiceProxy`. -/
def Service.name : Service → String
  | identity => "identity"
  | customer360 => "customer360"
  | credit_risk => "credit_risk"

/-- The mount paths in the order of `proxy.ts:79–81`. -/
def mounts : List (String × Service) :=
  [("/api/v1/auth", .identity), ("/api/v1/customers", .customer360), ("/api/v1/risk", .credit_risk)]

/-- The bodies of the answers; the last one is of a connection that ends without an answer. -/
inductive GatewayBody where
  | empty
  | error (error message : String)
  | status (status : String)
  | version (version : String)
  | build (build : String)
  | metrics
  | identity (body : AppBody)
  | service (service : Service) (text : String)
  | cut
  deriving DecidableEq, Repr

/-- The status, the header `x-correlation-id` and the body of an answer. -/
structure GatewayResponse where
  status : Nat
  correlationId : Option String
  body : GatewayBody
  deriving DecidableEq, Repr

/-- A request with what the middlewares have noted down. -/
structure GatewayExchange where
  req : GatewayRequest
  correlationId : Option String := none

/-- `res.status(status).json(body)`. -/
def GatewayExchange.respond (x : GatewayExchange) (status : Nat) (body : GatewayBody) :
    GatewayResponse :=
  ⟨status, x.correlationId, body⟩

/-- What the proxy hands over to a service. -/
structure Forwarded where
  service : Service
  method : String
  url : String
  headers : Headers
  authorization : Option (List Text)
  body : Option Document

/-- The configuration of the gateway, with what it uses of its libraries: whether the router takes a
path, and what is left of a URL below a mount path. The other services are given by their
answers. -/
structure GatewayApp where
  env : Env
  config : GatewayService.Config
  appVersion : Option String
  appBuildCommit : Option String
  matchesPath : String → String → Bool
  below : String → String → Option String
  others : Forwarded → Nat × String

/-! ### Middlewares -/

/-- A middleware of the gateway. -/
abbrev GatewayMiddleware := GatewayExchange → Flow GatewayExchange GatewayResponse HttpError

/-- `errorHandler.ts:6–39`. -/
def errorHandlerMiddleware (x : GatewayExchange) (err : HttpError) : GatewayResponse :=
  if PolicyEngine.occursIn "request entity too large" err.message then
    x.respond 413
      (.error "Payload Too Large" "The request body exceeds the allowed size limit of 1MB.")
  else if PolicyEngine.occursIn "Not allowed by CORS" err.message then
    x.respond 403 (.error "Forbidden" "Cross-Origin Request Blocked by CORS Policy")
  else x.respond 500 (.error "Internal Server Error" "An unexpected error occurred.")

/-- `errorHandler.ts:42–47`. -/
def notFoundMiddleware (x : GatewayExchange) : GatewayResponse :=
  x.respond 404 (.error "Not Found" ("The requested resource " ++ x.req.method ++ " " ++
    x.req.url ++ " was not found on the Gateway."))

/-- `correlationId.ts:9–27`. -/
def correlationIdMiddleware : GatewayMiddleware := fun x ↦
  .next { x with
    correlationId := some (correlationId (x.req.headers "x-correlation-id") x.req.freshId) }

/-- `rateLimit.ts:4–20`. -/
def rateLimitMiddleware : GatewayMiddleware := fun x ↦
  if x.req.limited then
    .ended (x.respond 429
      (.error "Too Many Requests" "Rate limit exceeded. Please try again later."))
  else .next x

/-- `security.ts:13–27`: the library answers a preflight request itself. -/
def corsMiddleware (app : GatewayApp) : GatewayMiddleware := fun x ↦
  if originAllowed app.config.corsAllowedOrigins (x.req.headers "origin") = false then
    .thrown x { message := "Not allowed by CORS" }
  else if x.req.method = "OPTIONS" then .ended (x.respond 204 .empty)
  else .next x

/-- `security.ts:51–60`. -/
def validateHttpMethodMiddleware : GatewayMiddleware := fun x ↦
  if ALLOWED_METHODS.contains x.req.method then .next x
  else .ended (x.respond 405
    (.error "Method Not Allowed" ("HTTP method " ++ x.req.method ++ " is not supported.")))

/-- `app.ts:38–39`. -/
def bodyParsers : GatewayMiddleware := fun x ↦
  match x.req.body with
  | .ok _ => .next x
  | .error e => .thrown x e

/-- The types of `security.ts:69–71`. -/
def CONTENT_TYPES : List String :=
  ["application/json", "application/x-www-form-urlencoded", "multipart/form-data"]

/-- `security.ts:63–82`. -/
def validateContentTypeMiddleware : GatewayMiddleware := fun x ↦
  if METHODS_WITH_BODY.contains x.req.method &&
      !(x.req.headers "content-type").any
        (fun contentType ↦ CONTENT_TYPES.any (PolicyEngine.occursIn · contentType)) then
    .ended (x.respond 415 (.error "Unsupported Media Type"
      ("Content-Type must be application/json, application/x-www-form-urlencoded, or " ++
        "multipart/form-data.")))
  else .next x

/-- `security.ts:39–46`, as a middleware. -/
def sanitizeHeaders : GatewayMiddleware := fun x ↦
  .next { x with req := { x.req with headers := sanitizeHeadersMiddleware x.req.headers } }

/-- `app.ts:21–45`. -/
def GatewayApp.middlewares (app : GatewayApp) : List GatewayMiddleware :=
  [correlationIdMiddleware, rateLimitMiddleware, corsMiddleware app, validateHttpMethodMiddleware,
    bodyParsers, validateContentTypeMiddleware, sanitizeHeaders]

/-! ### Routes -/

/-- A request is answered by the gateway, or it is handed over to a service. -/
inductive GatewayArrival where
  | answered (response : GatewayResponse)
  | forwards (x : GatewayExchange) (forwarded : Forwarded)

/-- `value || fallback`. -/
def orElse (value : Option String) (fallback : String) : String :=
  match value with
  | some s => if s = "" then fallback else s
  | none => fallback

/-- What `authMiddleware` decides at the time `now`. -/
def verdictAt (env : Env) (authorization : Option (List Text)) (now : Nat) : GatewayVerdict :=
  match bearerToken authorization with
  | .error message => .unauthorized message
  | .ok token =>
    match verifyAt env token now with
    | .ok decoded => .next (userIdHeader env decoded) (rolesHeader decoded)
    | .error .tokenExpired => .unauthorized "Token has expired."
    | .error (.jsonWebToken _) => .unauthorized "Invalid token signature or payload."
    | .error (.other _) => .internalServerError "An error occurred during authentication."

/-- `proxy.ts:21–34`: the headers of the request to the service. -/
def proxyReq (x : GatewayExchange) (headers : Headers) : Headers :=
  ((headers.delete "connection").delete "keep-alive").setIfSome "x-correlation-id" x.correlationId

namespace GatewayApp

/-- `health.routes.ts`. -/
def healthRoutes (app : GatewayApp) (x : GatewayExchange) : Option GatewayResponse :=
  let isGet (pattern : String) := decide (x.req.method = "GET") && app.matchesPath pattern x.req.url
  if isGet "/health/live" then some (x.respond 200 (.status "UP"))
  else if isGet "/health/ready" then some (x.respond 200 (.status "READY"))
  else if isGet "/version" then
    some (x.respond 200 (.version (orElse app.appVersion "1.0.0-dev")))
  else if isGet "/build" then some (x.respond 200 (.build (orElse app.appBuildCommit "local-dev")))
  else if isGet "/metrics" then
    some (if x.req.metricsFail then x.respond 500 .empty else x.respond 200 .metrics)
  else none

/-- `proxy.ts:79–81`: the service of the first mount path that the URL is under. -/
def proxyRouter (app : GatewayApp) (x : GatewayExchange) (headers : Headers)
    (body : Option Document) : Option Forwarded :=
  mounts.findSome? fun mount ↦
    (app.below mount.1 x.req.url).map fun url ↦
      ⟨mount.2, x.req.method, url, proxyReq x headers, x.req.authorization, body⟩

/-- `app.ts:49–66`. -/
def route (app : GatewayApp) (x : GatewayExchange) (body : Option Document) : GatewayArrival :=
  match app.healthRoutes x with
  | some response => .answered response
  | none =>
    match verdictAt app.env x.req.authorization x.req.now with
    | .unauthorized message => .answered (x.respond 401 (.error "Unauthorized" message))
    | .internalServerError message =>
      .answered (x.respond 500 (.error "Internal Server Error" message))
    | .next xUserId xUserRoles =>
      match (inject x.req.headers (.next xUserId xUserRoles)).bind fun headers ↦
          app.proxyRouter x headers body with
      | some forwarded => .forwards x forwarded
      | none => .answered (notFoundMiddleware x)

/-- The way of a request up to the proxy. -/
def arrive (app : GatewayApp) (req : GatewayRequest) : GatewayArrival :=
  match chain app.middlewares { req := req } with
  | .ended response => .answered response
  | .thrown x error => .answered (errorHandlerMiddleware x error)
  | .next x =>
    match x.req.body with
    | .ok body => app.route x body
    | .error error => .answered (errorHandlerMiddleware x error)

end GatewayApp

/-- The verdict is that of the middleware, at the time of its clock. -/
theorem run_authMiddleware (env : Env) (authorization : Option (List Text)) (w : World) :
    (authMiddleware env authorization).run (exec env) w =
      (.ok (verdictAt env authorization w.now), w) := by
  unfold authMiddleware verdictAt
  cases bearerToken authorization with
  | error message => rfl
  | ok token =>
    dsimp only
    rw [run_bind, run_now]
    dsimp only
    cases verifyAt env token w.now with
    | ok claims => rfl
    | error e => cases e <;> rfl

-- a payload that is no JSON is neither expired nor an error of the library
example (env : Env) (payload : String) (now : Nat) :
    verdictAt env (some [.plain "Bearer", .unreadable payload]) now =
      .internalServerError "An error occurred during authentication." := rfl

/-! ### Behind the mount -/

/-- What becomes of the fires of a request: which of them the service gets, and the answer of which
of these completes the response, if any does. A client that is answered by the gateway itself may
have its answer before the service is done. -/
structure Delivery where
  exchanges : Exchanges
  delivered : Nat → Bool
  completes : Option Nat

/-- What has been done for the request, and what the service has answered. -/
structure Passage where
  progress : Progress := {}
  answers : List GatewayResponse := []

namespace Delivery

/-- A fire asks the service, if the network lets it; the breaker then says what became of it. -/
def interpretation (net : Delivery) (service : Program GatewayResponse) :
    Interpretation RetryApi Api ProxyError JsError Passage
  | s, .fire =>
    if net.delivered s.progress.fires.length then do
      let response ← service
      pure (net.exchanges.outcome s.progress.fires.length,
        ⟨(net.exchanges.exec s.progress .fire).2, s.answers ++ [response]⟩)
    else
      pure (net.exchanges.outcome s.progress.fires.length,
        ⟨(net.exchanges.exec s.progress .fire).2, s.answers⟩)
  | s, op =>
    pure ((net.exchanges.exec s.progress op).1, ⟨(net.exchanges.exec s.progress op).2, s.answers⟩)

/-- A fire that reaches the service has `response` for an answer, without a call of the service. -/
def handler (net : Delivery) (response : GatewayResponse) : Handler RetryApi ProxyError Passage
  | s, .fire =>
    (net.exchanges.outcome s.progress.fires.length, ⟨(net.exchanges.exec s.progress .fire).2,
      if net.delivered s.progress.fires.length then s.answers ++ [response] else s.answers⟩)
  | s, op =>
    ((net.exchanges.exec s.progress op).1, ⟨(net.exchanges.exec s.progress op).2, s.answers⟩)

/-- The response: the answer of the gateway if it has made one, or what the service has answered
under the header `x-correlation-id` of both. -/
def response (net : Delivery) (x : GatewayExchange) (s : Passage) : GatewayResponse :=
  match s.progress.answers with
  | (status, error, message) :: _ => x.respond status (.error error message)
  | [] =>
    match net.completes.bind (s.answers[·]?) with
    | some response => { response with correlationId := response.correlationId.or x.correlationId }
    | none => x.respond 200 .cut

end Delivery

/-! ### The identity service behind the gateway -/

/-- Both services, with what stands between them: the path that the target and the URL make, what
the identity service parses of a body that is sent on with its type, and the address of the
gateway. -/
structure Tiers where
  gateway : GatewayApp
  identity : IdentityApp
  joined : String → String
  transmit : Option String → Option Document → Except HttpError (Option Document)
  address : Option String

/-- What the identity service finds when it is asked. -/
structure Below where
  freshId : String
  databaseHealthy : Bool := true
  redisHealthy : Bool := true

/-- The request that the identity service gets. -/
def Tiers.inner (tiers : Tiers) (forwarded : Forwarded) (below : Below) : IdentityRequest where
  method := forwarded.method
  path := tiers.joined forwarded.url
  headers := forwarded.headers
  authorization := forwarded.authorization
  ip := tiers.address
  body := tiers.transmit (forwarded.headers "content-type") forwarded.body
  freshId := below.freshId
  databaseHealthy := below.databaseHealthy
  redisHealthy := below.redisHealthy

/-- An answer of the identity service. -/
def ofIdentity (response : AppResponse) : GatewayResponse :=
  ⟨response.status, response.correlationId, .identity response.body⟩

/-- One request to the service. -/
def Tiers.serve (tiers : Tiers) (forwarded : Forwarded) (below : Below) : Program GatewayResponse :=
  match forwarded.service with
  | .identity => do
    let response ← tiers.identity.handle (tiers.inner forwarded below)
    pure (ofIdentity response)
  | service =>
    let (status, text) := tiers.gateway.others forwarded
    pure ⟨status, none, .service service text⟩

/-- A request to the identity service itself, or one through the gateway. -/
inductive TierRequest where
  | direct (req : IdentityRequest)
  | through (req : GatewayRequest) (net : Delivery) (below : Below)

/-- The answers to the two. -/
inductive TierResponse where
  | direct (response : AppResponse)
  | through (response : GatewayResponse)
  deriving DecidableEq, Repr

/-- The program of a request. -/
def Tiers.handle (tiers : Tiers) : TierRequest → Program TierResponse
  | .direct req => do
    let response ← tiers.identity.handle req
    pure (.direct response)
  | .through req net below =>
    match tiers.gateway.arrive req with
    | .answered response => pure (.through response)
    | .forwards x forwarded => do
      let (_, passage) ← (resilientProxy tiers.gateway.config forwarded.service.name
        forwarded.method).interpret (net.interpretation (tiers.serve forwarded below)) {}
      pure (.through (net.response x passage))

end Bankos.Gateway
