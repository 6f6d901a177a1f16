import Bankos.Auth.Adapters
import Bankos.Auth.Validators

/-!
# Registration

`identity/src/modules/auth/services/RegisterUserService.ts`, wired as in `auth.routes.ts:80`.
-/

namespace Bankos

open Js Jwt Effects

/-- `dtos/RegisterUserRequest.ts`. -/
structure RegisterUserRequest where
  email : String
  passwordRaw : String
  ipAddress : String
  userAgent : String
  deriving DecidableEq, Repr

/-- `dtos/RegisterUserResponse.ts`. -/
structure RegisterUserResponse where
  id : String
  email : String
  deriving DecidableEq, Repr

namespace RegisterUserService

/-- One day in milliseconds. -/
def oneDay : Nat := 24 * 60 * 60 * 1000

/-- `RegisterUserService.ts:63–86`, for a user that is stored with its role. -/
def issueToken (env : Env) (request : RegisterUserRequest) (user : User) :
    Program RegisterUserResponse := do
  let tokenRaw ← SecureRandomGenerator.generateToken 32
  let tokenHash := SecureRandomGenerator.hashString env (.plain tokenRaw)
  let now ← SystemClock.now
  let verificationToken := EmailVerificationToken.construct tokenHash user.id (now + oneDay) false
  PrismaEmailVerificationTokenRepository.save verificationToken
  dispatch (withMetadata user.domainEvents request.ipAddress request.userAgent)
  pure ⟨user.id, user.email⟩

/-- `RegisterUserService.ts:48–86`, for an email that is free. -/
def createUser (env : Env) (request : RegisterUserRequest) (normalizedEmail : String)
    (defaultRole : Role) : Program RegisterUserResponse := do
  let passwordHash ← Argon2PasswordHasher.hash env request.passwordRaw
  let id ← SecureRandomGenerator.generateUUID
  let user := User.construct id normalizedEmail passwordHash false 0 false true
  PrismaUserRepository.save user
  PrismaUserRepository.assignRole user.id defaultRole.name
  issueToken env request user

/-- `RegisterUserService.ts:27–86`. -/
def execute (env : Env) (request : RegisterUserRequest) : Program RegisterUserResponse :=
  let normalizedEmail := EmailValidator.normalize env request.email
  if EmailValidator.isValid normalizedEmail = false then
    throw (.domainError "Invalid email format")
  else if PasswordPolicy.validate request.passwordRaw = false then
    throw (.domainError "Password does not meet policy requirements")
  else do
    let emailExists ← PrismaUserRepository.emailExists normalizedEmail
    if emailExists then throw (.domainError "Email is already registered")
    else do
      let defaultRole ← PrismaRoleRepository.findByName "user"
      match defaultRole with
      | none => throw (.domainError "Default role not found")
      | some defaultRole => createUser env request normalizedEmail defaultRole

end RegisterUserService
end Bankos
