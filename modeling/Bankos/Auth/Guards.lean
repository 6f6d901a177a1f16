import Bankos.Auth.Adapters
import Bankos.Auth.Engine

/-!
# Guards

The middlewares of `identity/src/modules/auth/middleware/requireAuth.ts` and of
`gateway/src/middlewares/auth.ts`. A header is given by its parts between the blanks.
-/

namespace Bankos

open Js Jwt Effects

/-- What the guards read of a request. -/
structure HttpRequest where
  bodyToken : Option Text
  authorization : Option (List Text)
  path : String
  deriving DecidableEq, Repr

/-- What a guard does: it calls `next` with the claims as `req.user`, or it answers 401 or 403. -/
inductive Verdict where
  | next (user : Claims)
  | unauthorized
  | forbidden
  deriving DecidableEq, Repr

/-- An absent string and the empty string are falsy. -/
def truthyText : Option Text → Option Text
  | none => none
  | some t => if t.truthy then some t else none

namespace HttpRequest

/-- `req.headers.authorization?.split(' ')[1]`, if it is truthy. -/
def headerToken (req : HttpRequest) : Option Text :=
  truthyText (req.authorization.bind fun parts ↦ parts[1]?)

/-- `req.body.token || req.headers.authorization?.split(' ')[1]`, if it is truthy. -/
def bodyOrHeaderToken (req : HttpRequest) : Option Text :=
  (truthyText req.bodyToken).orElse fun _ ↦ req.headerToken

end HttpRequest

/-- What the four guards of `requireAuth.ts` share: where the token comes from, what the claims
must satisfy, and the event of a denial. -/
structure Guard where
  token : HttpRequest → Option Text
  policy : Claims → Except JsError Bool
  denied : HttpRequest → Claims → EventClass

/-- The common body, `requireAuth.ts:8–27`. -/
def Guard.handle (guard : Guard) (env : Env) (dispatcher : List DomainEvent → Program Unit)
    (req : HttpRequest) : Program Verdict :=
  try
    match guard.token req with
    | none => pure .unauthorized
    | some token => do
      let payload ← JwtTokenService.verifyAccessToken env token
      let granted ← .done (guard.policy payload)
      if granted then pure (.next payload)
      else do
        dispatcher [{ detail := guard.denied req payload }]
        pure .forbidden
  catch _ => pure .unauthorized

/-- `requireAuth.ts:7–28`. -/
def requireRole (requiredRole : String) : Guard where
  token := HttpRequest.bodyOrHeaderToken
  policy payload := PolicyEngine.requireRole (PolicyEngine.orEmpty payload.roles) requiredRole
  denied _ payload :=
    .authorizationDenied payload.sub "Insufficient role or permissions" none

/-- `requireAuth.ts:30–51`. -/
def requirePermission (requiredPermission : String) : Guard where
  token := HttpRequest.headerToken
  policy payload :=
    PolicyEngine.requirePermission (PolicyEngine.orEmpty payload.permissions) requiredPermission
  denied _ payload :=
    .authorizationDenied payload.sub "Insufficient role or permissions" none

/-- `requireAuth.ts:53–74`. -/
def requireAnyPermission (requiredPermissions : List String) : Guard where
  token := HttpRequest.headerToken
  policy payload :=
    PolicyEngine.requireAny (PolicyEngine.orEmpty payload.permissions) requiredPermissions
  denied req payload := .authorizationDenied payload.sub req.path
    (some ⟨"requiredAny", requiredPermissions, payload.permissions⟩)

/-- `requireAuth.ts:76–97`. -/
def requireAllPermissions (requiredPermissions : List String) : Guard where
  token := HttpRequest.headerToken
  policy payload :=
    PolicyEngine.requireAll (PolicyEngine.orEmpty payload.permissions) requiredPermissions
  denied req payload := .authorizationDenied payload.sub req.path
    (some ⟨"requiredAll", requiredPermissions, payload.permissions⟩)

/-- One of the four guards. -/
inductive RequireAuth where
  | role (requiredRole : String)
  | permission (requiredPermission : String)
  | anyPermission (requiredPermissions : List String)
  | allPermissions (requiredPermissions : List String)
  deriving DecidableEq, Repr

/-- The guard that was asked for. -/
def RequireAuth.guard : RequireAuth → Guard
  | role requiredRole => requireRole requiredRole
  | permission requiredPermission => requirePermission requiredPermission
  | anyPermission requiredPermissions => requireAnyPermission requiredPermissions
  | allPermissions requiredPermissions => requireAllPermissions requiredPermissions

/-! ### The gateway -/

/-- What the gateway does: it calls `next` with the trusted headers it has set, or it answers
401 or 500. -/
inductive GatewayVerdict where
  | next (xUserId xUserRoles : Option String)
  | unauthorized (message : String)
  | internalServerError (message : String)
  deriving DecidableEq, Repr

namespace Gateway

/-- The token of `auth.ts:29–48`, or the message of the refusal. -/
def bearerToken (authorization : Option (List Text)) : Except String Text :=
  match authorization with
  | none => .error "Missing Authorization header."
  | some [.plain ""] => .error "Missing Authorization header."
  | some [scheme, token] =>
    if scheme = .plain "Bearer" then .ok token
    else .error "Malformed Authorization header. Expected Bearer token format."
  | some _ => .error "Malformed Authorization header. Expected Bearer token format."

/-- The verdict of `auth.ts:6–25` at the time `now`. -/
def verifyAt (env : Env) (token : Text) (now : Nat) : Except JwtError Claims :=
  Jwt.verify env.publicKeyOf token env.gateway.jwtSecret
    ⟨["HS256"], env.gateway.jwtIssuer, env.gateway.jwtAudience⟩ now

/-- `auth.ts:54`, `61`. -/
def userIdHeader (env : Env) (decoded : Claims) : Option String :=
  let userId : Value := match decoded.sub with
    | .str s => .str s
    | _ => decoded.userId
  if userId.truthy then some (userId.toText env.conversions) else none

/-- `auth.ts:55`, `62`. -/
def rolesHeader (decoded : Claims) : Option String :=
  match PolicyEngine.orEmpty decoded.roles with
  | .array xs => some (",".intercalate (xs.map Item.text))
  | _ => none

/-- `auth.ts:27–84`. -/
def authMiddleware (env : Env) (authorization : Option (List Text)) :
    Program GatewayVerdict :=
  match bearerToken authorization with
  | .error message => pure (.unauthorized message)
  | .ok token => do
    let now ← SystemClock.now
    match verifyAt env token now with
    | .ok decoded => pure (.next (userIdHeader env decoded) (rolesHeader decoded))
    | .error .tokenExpired => pure (.unauthorized "Token has expired.")
    | .error (.jsonWebToken _) => pure (.unauthorized "Invalid token signature or payload.")
    | .error (.other _) =>
      pure (.internalServerError "An error occurred during authentication.")

end Gateway
end Bankos
