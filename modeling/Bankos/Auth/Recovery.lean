import Bankos.Auth.Register
import Bankos.Auth.Services

/-!
# Tokens sent by mail

`identity/src/modules/auth/services/ForgotPasswordService.ts` and `SendVerificationEmailService.ts`,
wired as in `auth.routes.ts:83–86`.
-/

namespace Bankos

open Js Jwt Effects

/-- `dtos/ForgotPasswordRequest.ts`. -/
structure ForgotPasswordRequest where
  email : String
  ipAddress : String
  userAgent : String
  deriving DecidableEq, Repr

namespace ForgotPasswordService

/-- A quarter of an hour in milliseconds. -/
def quarterHour : Nat := 15 * 60 * 1000

/-- `ForgotPasswordService.ts:38–55`, for a user that was found. -/
def issueToken (env : Env) (request : ForgotPasswordRequest) (user : User) : Program Unit := do
  let rawToken ← SecureRandomGenerator.generateToken 32
  let hashedToken := SecureRandomGenerator.hashString env (.plain rawToken)
  let now ← SystemClock.now
  let resetToken := PasswordResetToken.construct hashedToken user.id (now + quarterHour) false
  PrismaPasswordResetTokenRepository.save resetToken
  ConsoleMailer.sendPasswordReset user.email rawToken
  dispatch (withMetadata resetToken.domainEvents request.ipAddress request.userAgent)

/-- `ForgotPasswordService.ts:24–56`. -/
def execute (env : Env) (request : ForgotPasswordRequest) : Program Unit :=
  let normalizedEmail := EmailValidator.normalize env request.email
  if EmailValidator.isValid normalizedEmail = false then
    throw (.domainError "Invalid email format")
  else do
    let user ← PrismaUserRepository.findByEmail normalizedEmail
    match user with
    | none => pure ()
    | some user => issueToken env request user

end ForgotPasswordService

namespace SendVerificationEmailService

/-- `SendVerificationEmailService.ts:34–45`, for a user whose email is not verified. -/
def issueToken (env : Env) (user : User) : Program Unit := do
  let rawToken ← SecureRandomGenerator.generateToken 32
  let hashedToken := SecureRandomGenerator.hashString env (.plain rawToken)
  let now ← SystemClock.now
  let verificationToken :=
    EmailVerificationToken.construct hashedToken user.id (now + RegisterUserService.oneDay) false
  PrismaEmailVerificationTokenRepository.save verificationToken
  ConsoleMailer.sendVerificationEmail user.email rawToken

/-- `SendVerificationEmailService.ts:20–46`: the email is normalised and not validated. -/
def execute (env : Env) (email : String) : Program Unit := do
  let normalizedEmail := EmailValidator.normalize env email
  let user ← PrismaUserRepository.findByEmail normalizedEmail
  match user with
  | none => pure ()
  | some user => if user.emailVerified then pure () else issueToken env user

end SendVerificationEmailService
end Bankos
