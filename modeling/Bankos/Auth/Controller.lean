import Bankos.Auth.Recovery

/-!
# The controller of the authentication routes

`identity/src/modules/auth/controllers/AuthController.ts` with
`identity/src/modules/auth/mappers/AuthResponseMapper.ts`: what each request is answered.
-/

namespace Bankos

open Js Jwt Effects

/-- `AuthResponseMapper.ts`: a success, with its data if it has some, or an error. -/
inductive AuthResponse (α : Type) where
  | success
  | data (data : α)
  | error (code message : String)
  deriving DecidableEq, Repr

/-- `res.status(status).json(body)`. -/
structure HttpResponse (α : Type) where
  status : Nat
  body : AuthResponse α
  deriving DecidableEq, Repr

namespace AuthController

/-- `AuthController.ts:121–131`. -/
def unauthorizedMessages : List String :=
  ["Invalid credentials", "Invalid refresh token", "Invalid refresh token payload",
    "Token replay detected", "Session is revoked", "Session expired",
    "Invalid tokens provided for logout", "Invalid refresh token for session",
    "Invalid or expired reset token"]

/-- `AuthController.ts:104–139`, for the message of a `DomainError`. -/
def refusal {α : Type} (msg : String) : HttpResponse α :=
  if msg = "Email already in use" then ⟨409, .error "CONFLICT" msg⟩
  else if msg = "Session not found" || msg = "User not found" then ⟨404, .error "NOT_FOUND" msg⟩
  else if msg = "User is invalid or locked" then ⟨403, .error "FORBIDDEN" msg⟩
  else if unauthorizedMessages.contains msg then ⟨401, .error "UNAUTHORIZED" msg⟩
  else ⟨400, .error "BAD_REQUEST" msg⟩

/-- `AuthController.ts:102–143`. -/
def handleError {α : Type} (error : JsError) : HttpResponse α :=
  match error with
  | .domainError msg => refusal msg
  | .invalidStateError msg => refusal msg
  | _ => ⟨500, .error "INTERNAL_ERROR" "An unexpected error occurred"⟩

/-- What the handlers share: the answer to a result of the service, or to what it throws. -/
def answer {α β : Type} (service : Program α) (respond : α → HttpResponse β) :
    Program (HttpResponse β) :=
  try
    let response ← service
    pure (respond response)
  catch error => pure (handleError error)

/-- `AuthController.ts:26–33`. -/
def register (env : Env) (body : RegisterUserRequest) :
    Program (HttpResponse RegisterUserResponse) :=
  answer (RegisterUserService.execute env body) fun response ↦ ⟨201, .data response⟩

/-- `AuthController.ts:35–42`. -/
def login (env : Env) (body : LoginRequest) : Program (HttpResponse LoginResponse) :=
  answer (LoginService.execute env PrismaUserRepository body) fun response ↦
    ⟨200, .data response⟩

/-- `AuthController.ts:44–51`. -/
def refresh (env : Env) (refreshToken : Text) (ipAddress userAgent : String) :
    Program (HttpResponse LoginResponse) :=
  answer (RefreshTokenService.execute env PrismaUserRepository refreshToken ipAddress userAgent)
    fun response ↦ ⟨200, .data response⟩

/-- `AuthController.ts:53–64`. -/
def logout (env : Env) (body : LogoutRequest) (ipAddress userAgent : String) :
    Program (HttpResponse Unit) :=
  answer (LogoutService.execute env body ipAddress userAgent) fun _ ↦ ⟨200, .success⟩

/-- `AuthController.ts:66–73`. -/
def forgotPassword (env : Env) (body : ForgotPasswordRequest) : Program (HttpResponse Unit) :=
  answer (ForgotPasswordService.execute env body) fun _ ↦ ⟨200, .success⟩

/-- `AuthController.ts:75–82`. -/
def resetPassword (env : Env) (body : ResetPasswordRequest) : Program (HttpResponse Unit) :=
  answer (ResetPasswordService.execute env PrismaUserRepository body) fun _ ↦ ⟨200, .success⟩

/-- `AuthController.ts:84–91`. -/
def verifyEmail (env : Env) (body : VerifyEmailRequest) : Program (HttpResponse Unit) :=
  answer (VerifyEmailService.execute env PrismaUserRepository body) fun _ ↦ ⟨200, .success⟩

/-- `AuthController.ts:93–100`. -/
def sendVerificationEmail (env : Env) (email : String) : Program (HttpResponse Unit) :=
  answer (SendVerificationEmailService.execute env email) fun _ ↦ ⟨200, .success⟩

end AuthController
end Bankos
