import Bankos.Base.Images
import Bankos.Http.Exchange
import Bankos.Rbac.Validation
import Bankos.Tokens.Jwks

/-!
# The identity application

`identity/src/app.ts` with its middlewares, `auth.routes.ts` and `AuthValidators.ts`: what becomes
of a request before a controller sees it. `rbac.routes.ts` is not mounted. A request is either
answered on the way, or it arrives at one controller with a body that its schema has let through.
-/

namespace Bankos

open Js Jwt Effects Shapes Middleware

/-- What the code reads of a request. `body` is what `express.json` and `express.urlencoded` make of
it, `freshId` what `crypto.randomUUID` returns, and the last two are what the health checks find. -/
structure IdentityRequest where
  method : String
  path : String
  headers : Headers
  authorization : Option (List Text)
  ip : Option String
  body : Except HttpError (Option Document)
  freshId : String
  databaseHealthy : Bool := true
  redisHealthy : Bool := true

/-- What the controllers of `auth.routes.ts` put under `data`. -/
inductive AuthData where
  | registered (r : RegisterUserResponse)
  | tokens (r : LoginResponse)
  | none
  deriving DecidableEq, Repr

/-- The bodies of the answers. -/
inductive AppBody where
  | empty
  | error (message : String)
  | failure (message : String) (correlationId : Option String)
  | auth (response : AuthResponse AuthData)
  | health (database redis : Bool)
  | metrics
  | jwks (answer : JwksAnswer)
  | docs
  | cannot (method path : String)
  deriving DecidableEq, Repr

/-- The status, the header `x-correlation-id` and the body of an answer. -/
structure AppResponse where
  status : Nat
  correlationId : Option String
  body : AppBody
  deriving DecidableEq, Repr

/-- A request with what the middlewares have noted down. -/
structure Exchange where
  req : IdentityRequest
  correlationId : Option String := none

/-- `res.status(status).json(body)`. -/
def Exchange.respond (x : Exchange) (status : Nat) (body : AppBody) : AppResponse :=
  ⟨status, x.correlationId, body⟩

/-- The request headers that decide whether what a client holds is fresh. -/
structure Conditions where
  ifNoneMatch : Option String
  ifModifiedSince : Option String
  cacheControl : Option String

/-- The configuration of the application, with what it uses of its libraries: whether the router
takes a path for a pattern, whether a client already holds what has an entity tag and a date, the
status of a page of the documentation for a method, a path and the headers that its server reads,
the email check of the schemas, and a string as a token. -/
structure IdentityApp where
  env : Env
  jwks : JwksController
  fresh : Conditions → String → String → Bool
  docs : String → String → List (Option String) → Except HttpError Nat
  corsAllowedOrigins : List String
  matchesPath : String → String → Bool
  email : String → Bool
  text : String → Text

/-! ### Middlewares -/

/-- `errorHandler.ts:12–54`. -/
def errorHandler (x : Exchange) (err : HttpError) : AppResponse :=
  if err.message = "Not allowed by CORS" then
    x.respond 403 (.failure "Forbidden: CORS origin not allowed" x.correlationId)
  else if err.type = some "entity.too.large" || err.status = some 413 then
    x.respond 413 (.failure "Payload Too Large" x.correlationId)
  else if err.type = some "entity.parse.failed" || err.status = some 400 then
    x.respond 400 (.failure "Bad Request: Malformed payload" x.correlationId)
  else x.respond 500 (.failure "Internal Server Error" x.correlationId)

/-- A middleware of the identity application. -/
abbrev IdentityMiddleware := Exchange → Flow Exchange AppResponse HttpError

/-- `security.ts:30–42`: the library answers a preflight request itself. -/
def corsMiddleware (app : IdentityApp) : IdentityMiddleware := fun x ↦
  if originAllowed app.corsAllowedOrigins (x.req.headers "origin") = false then
    .thrown x { message := "Not allowed by CORS" }
  else if x.req.method = "OPTIONS" then .ended (x.respond 204 .empty)
  else .next x

/-- `security.ts:47–53`. -/
def methodValidationMiddleware : IdentityMiddleware := fun x ↦
  if ALLOWED_METHODS.contains x.req.method then .next x
  else .ended (x.respond 405 (.error "Method Not Allowed"))

/-- `correlationId.ts:8–22`. -/
def correlationIdMiddleware : IdentityMiddleware := fun x ↦
  .next { x with
    correlationId := some (correlationId (x.req.headers "x-correlation-id") x.req.freshId) }

/-- `security.ts:74–81`. -/
def HEADERS_TO_STRIP : List String :=
  ["x-user-id", "x-user-role", "x-user-roles", "x-authenticated-user", "x-forwarded-user",
    "x-internal-user"]

/-- `security.ts:83–88`. -/
def headerSanitizationMiddleware : IdentityMiddleware := fun x ↦
  .next { x with
    req := { x.req with headers := HEADERS_TO_STRIP.foldl Headers.delete x.req.headers } }

/-- `security.ts:56–60`. -/
def ALLOWED_CONTENT_TYPES : List String :=
  ["application/json", "application/x-www-form-urlencoded", "multipart/form-data"]

/-- `headers['content-type']?.split(';')[0]?.trim()`. -/
def mediaType (app : IdentityApp) (headers : Headers) : Option String :=
  (headers "content-type").map fun s ↦
    app.env.trim (String.ofList (s.toList.takeWhile fun c ↦ decide (c ≠ ';')))

/-- `security.ts:62–71`. -/
def contentTypeValidationMiddleware (app : IdentityApp) : IdentityMiddleware := fun x ↦
  if METHODS_WITH_BODY.contains x.req.method &&
      !(mediaType app x.req.headers).any ALLOWED_CONTENT_TYPES.contains then
    .ended (x.respond 415 (.error "Unsupported Media Type"))
  else .next x

/-- `app.ts:28–29`. -/
def bodyParsers : IdentityMiddleware := fun x ↦
  match x.req.body with
  | .ok _ => .next x
  | .error e => .thrown x e

/-- `app.ts:20–29`. -/
def IdentityApp.middlewares (app : IdentityApp) : List IdentityMiddleware :=
  [corsMiddleware app, methodValidationMiddleware, correlationIdMiddleware,
    headerSanitizationMiddleware, contentTypeValidationMiddleware app, bodyParsers]

/-! ### The authentication routes -/

/-- The routes of `auth.routes.ts:111–118`. -/
inductive AuthRoute where
  | register
  | login
  | refresh
  | logout
  | forgotPassword
  | resetPassword
  | verifyEmail
  | sendVerification
  deriving DecidableEq, Repr

/-- The request that a controller hands to its service. -/
inductive AuthCall where
  | register (r : RegisterUserRequest)
  | login (r : LoginRequest)
  | refresh (refreshToken : Text) (ipAddress userAgent : String)
  | logout (r : LogoutRequest) (ipAddress userAgent : String)
  | forgotPassword (r : ForgotPasswordRequest)
  | resetPassword (r : ResetPasswordRequest)
  | verifyEmail (r : VerifyEmailRequest)
  | sendVerification (email : String)
  deriving DecidableEq, Repr

namespace AuthValidators

/-- `AuthValidators.ts:4–7`. -/
def register (email : String → Bool) : Parser :=
  .object [("email", .string [email]), ("passwordRaw", .string [RbacValidators.min 8])] .refused

/-- `AuthValidators.ts:9–12`. -/
def login (email : String → Bool) : Parser :=
  .object [("email", .string [email]), ("passwordRaw", .string [RbacValidators.min 1])] .refused

/-- `AuthValidators.ts:14–16`. -/
def refresh : Parser := .object [("refreshToken", .string [RbacValidators.min 1])] .refused

/-- `AuthValidators.ts:18–20`. -/
def logout : Parser := .object [("refreshToken", .string [RbacValidators.min 1])] .refused

/-- `AuthValidators.ts:22–24`. -/
def forgotPassword (email : String → Bool) : Parser := .object [("email", .string [email])] .refused

/-- `AuthValidators.ts:26–29`. -/
def resetPassword : Parser :=
  .object [("token", .string [RbacValidators.min 1]),
    ("newPasswordRaw", .string [RbacValidators.min 8])] .refused

/-- `AuthValidators.ts:31–33`. -/
def verifyEmail : Parser := .object [("token", .string [RbacValidators.min 1])] .refused

/-- `AuthValidators.ts:35–37`. -/
def sendVerificationEmail (email : String → Bool) : Parser :=
  .object [("email", .string [email])] .refused

end AuthValidators

namespace AuthRoute

/-- The routes in the order of their registration. -/
def all : List AuthRoute :=
  [register, login, refresh, logout, forgotPassword, resetPassword, verifyEmail, sendVerification]

/-- The path of the route under its mount path, `app.ts:51`. -/
def path : AuthRoute → String
  | register => "/api/v1/auth/register"
  | login => "/api/v1/auth/login"
  | refresh => "/api/v1/auth/refresh"
  | logout => "/api/v1/auth/logout"
  | forgotPassword => "/api/v1/auth/forgot-password"
  | resetPassword => "/api/v1/auth/reset-password"
  | verifyEmail => "/api/v1/auth/verify-email"
  | sendVerification => "/api/v1/auth/send-verification"

/-- The schema of the route. -/
def schema (email : String → Bool) : AuthRoute → Parser
  | register => AuthValidators.register email
  | login => AuthValidators.login email
  | refresh => AuthValidators.refresh
  | logout => AuthValidators.logout
  | forgotPassword => AuthValidators.forgotPassword email
  | resetPassword => AuthValidators.resetPassword
  | verifyEmail => AuthValidators.verifyEmail
  | sendVerification => AuthValidators.sendVerificationEmail email

end AuthRoute

/-- `value || 'unknown'`. -/
def orUnknown : Option String → String
  | some s => if s = "" then "unknown" else s
  | none => "unknown"

/-- `req.ip || 'unknown'`. -/
def IdentityRequest.ipAddress (req : IdentityRequest) : String := orUnknown req.ip

/-- `req.headers['user-agent'] || 'unknown'`. -/
def IdentityRequest.userAgent (req : IdentityRequest) : String :=
  orUnknown (req.headers "user-agent")

/-- `extractClientMeta.ts:3–7`. -/
def extractClientMeta (req : IdentityRequest) (body : Document) : Document :=
  (body.set "ipAddress" (.str req.ipAddress)).set "userAgent" (.str req.userAgent)

/-- `extractAuthToken.ts:4–14`: the part behind the blank of a header that starts with `Bearer `. -/
def extractAuthToken : Option (List Text) → Option Text
  | some (.plain "Bearer" :: accessToken :: _) => some accessToken
  | _ => none

/-- What the controller of the route, `AuthController.ts:26–100`, hands to its service; nothing if
the body lacks a string. -/
def AuthRoute.call (text : String → Text) (route : AuthRoute) (body : Document)
    (accessToken : Text) : Option AuthCall := do
  let ipAddress ← body.stringField "ipAddress"
  let userAgent ← body.stringField "userAgent"
  match route with
  | register =>
    let email ← body.stringField "email"
    let passwordRaw ← body.stringField "passwordRaw"
    pure (.register ⟨email, passwordRaw, ipAddress, userAgent⟩)
  | login =>
    let email ← body.stringField "email"
    let passwordRaw ← body.stringField "passwordRaw"
    pure (.login ⟨email, passwordRaw, ipAddress, userAgent⟩)
  | refresh =>
    let refreshToken ← body.stringField "refreshToken"
    pure (.refresh (text refreshToken) ipAddress userAgent)
  | logout =>
    let refreshToken ← body.stringField "refreshToken"
    pure (.logout ⟨accessToken, text refreshToken⟩ ipAddress userAgent)
  | forgotPassword =>
    let email ← body.stringField "email"
    pure (.forgotPassword ⟨email, ipAddress, userAgent⟩)
  | resetPassword =>
    let token ← body.stringField "token"
    let newPasswordRaw ← body.stringField "newPasswordRaw"
    pure (.resetPassword ⟨text token, newPasswordRaw, ipAddress, userAgent⟩)
  | verifyEmail =>
    let token ← body.stringField "token"
    pure (.verifyEmail ⟨text token, ipAddress, userAgent⟩)
  | sendVerification =>
    let email ← body.stringField "email"
    pure (.sendVerification email)

/-! ### Routing -/

/-- A request is answered on the way, or it arrives at a controller. -/
inductive Arrival where
  | answered (response : AppResponse)
  | calls (x : Exchange) (call : AuthCall)

/-- `auth.routes.ts:111–118`. The controller answers a body that lacks a string like any error that
is not one of the domain. -/
def AuthRoute.arrive (app : IdentityApp) (route : AuthRoute) (x : Exchange)
    (body : Option Document) : Arrival :=
  match validateRequest (route.schema app.email) body with
  | .answered response =>
    .answered (x.respond response.status
      (.auth (.error "VALIDATION_ERROR" "Invalid request payload")))
  | .next parsed =>
    let body := extractClientMeta x.req (parsed.getD .null)
    match if route = .logout then extractAuthToken x.req.authorization else some (.plain "") with
    | none => .answered (x.respond 401 (.auth (.error "UNAUTHORIZED" "Missing or invalid token")))
    | some accessToken =>
      match route.call app.text body accessToken with
      | some call => .calls x call
      | none => .answered (x.respond 500
          (.auth (.error "INTERNAL_ERROR" "An unexpected error occurred")))

namespace IdentityApp

/-- The router takes a request for `app.get(pattern, …)`. -/
def isGet (app : IdentityApp) (x : Exchange) (pattern : String) : Bool :=
  decide (x.req.method = "GET") && app.matchesPath pattern x.req.path

/-- `health.controller.ts:10–29`. -/
def checkReadiness (x : Exchange) : AppResponse :=
  x.respond (if x.req.databaseHealthy && x.req.redisHealthy then 200 else 503)
    (.health x.req.databaseHealthy x.req.redisHealthy)

/-- `auth.routes.ts:120`. -/
def getJwks (app : IdentityApp) (x : Exchange) : AppResponse :=
  let conditions : Conditions :=
    ⟨x.req.headers "if-none-match", x.req.headers "if-modified-since",
      x.req.headers "cache-control"⟩
  let (status, answer) := app.jwks.getJwks conditions.ifNoneMatch
    (app.fresh conditions app.jwks.etag app.jwks.lastModified)
  x.respond status (.jwks answer)

/-- The request headers that the server of the documentation reads. -/
def DOCS_HEADERS : List String :=
  ["range", "if-range", "if-match", "if-none-match", "if-modified-since", "if-unmodified-since",
    "cache-control"]

/-- `app.ts:54–57`. -/
def swaggerUi (app : IdentityApp) (x : Exchange) : AppResponse :=
  match app.docs x.req.method x.req.path (DOCS_HEADERS.map x.req.headers) with
  | .ok status => x.respond status .docs
  | .error err => errorHandler x err

/-- The authentication route that the router takes a request for. -/
def authRoute (app : IdentityApp) (x : Exchange) : Option AuthRoute :=
  if x.req.method = "POST" then
    AuthRoute.all.find? fun route ↦ app.matchesPath route.path x.req.path
  else none

/-- `app.ts:34–57`, and the answer of the framework where no route is left. -/
def route (app : IdentityApp) (x : Exchange) (body : Option Document) : Arrival :=
  if app.isGet x "/health/live" then .answered (x.respond 200 (.health true true))
  else if app.isGet x "/health/ready" then .answered (checkReadiness x)
  else if app.isGet x "/metrics" then .answered (x.respond 200 .metrics)
  else if app.isGet x "/.well-known/.well-known/jwks.json" then .answered (app.getJwks x)
  else
    match app.authRoute x with
    | some route => route.arrive app x body
    | none =>
      if app.matchesPath "/docs*" x.req.path then .answered (app.swaggerUi x)
      else .answered (x.respond 404 (.cannot x.req.method x.req.path))

/-- The way of a request up to a controller. -/
def arrive (app : IdentityApp) (req : IdentityRequest) : Arrival :=
  match chain app.middlewares { req := req } with
  | .ended response => .answered response
  | .thrown x error => .answered (errorHandler x error)
  | .next x =>
    match x.req.body with
    | .ok body => app.route x body
    | .error error => .answered (errorHandler x error)

end IdentityApp

/-! ### The controllers -/

/-- The data of an answer in other words. -/
def HttpResponse.map {α β : Type} (f : α → β) (response : HttpResponse α) : HttpResponse β :=
  ⟨response.status, match response.body with
    | .success => .success
    | .data a => .data (f a)
    | .error code message => .error code message⟩

/-- The answer of the controller. -/
def AuthCall.respond {α : Type} (service : Program (HttpResponse α)) (f : α → AuthData) :
    Program (HttpResponse AuthData) := do
  let response ← service
  pure (response.map f)

/-- The controller that the call is for. -/
def AuthCall.program (env : Env) : AuthCall → Program (HttpResponse AuthData)
  | .register r => respond (AuthController.register env r) .registered
  | .login r => respond (AuthController.login env r) .tokens
  | .refresh refreshToken ipAddress userAgent =>
    respond (AuthController.refresh env refreshToken ipAddress userAgent) .tokens
  | .logout r ipAddress userAgent =>
    respond (AuthController.logout env r ipAddress userAgent) fun _ ↦ .none
  | .forgotPassword r => respond (AuthController.forgotPassword env r) fun _ ↦ .none
  | .resetPassword r => respond (AuthController.resetPassword env r) fun _ ↦ .none
  | .verifyEmail r => respond (AuthController.verifyEmail env r) fun _ ↦ .none
  | .sendVerification email =>
    respond (AuthController.sendVerificationEmail env email) fun _ ↦ .none

/-- The program of a request to the application. -/
def IdentityApp.handle (app : IdentityApp) (req : IdentityRequest) : Program AppResponse :=
  match app.arrive req with
  | .answered response => pure response
  | .calls x call => do
    let response ← call.program app.env
    pure (x.respond response.status (.auth response.body))

end Bankos
