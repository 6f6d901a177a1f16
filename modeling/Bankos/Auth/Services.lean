import Bankos.Auth.Adapters
import Bankos.Auth.Engine
import Bankos.Auth.Validators

/-!
# Services

`identity/src/modules/auth/services`, wired as in `auth.routes.ts:50–87` except for the user
repository, which is a parameter. `clearEvents` at the end of a service empties an object that
nobody sees again and is left out.
-/

namespace Bankos

open Js Jwt Effects

/-- The pair of tokens that a login and a refresh return. -/
structure LoginResponse where
  accessToken : Text
  refreshToken : Text
  deriving DecidableEq, Repr

/-- The payload of `LoginService.ts:65–71` and `RefreshTokenService.ts:78–84`. -/
def tokenPayload (roles permissions : List String) (sessionId : String) : Claims :=
  { roles := .strings roles
    permissions := .strings permissions
    sessionId := .str sessionId
    tokenVersion := .num 1
    tenantId := .str "default" }

/-- `LoginService.ts:73–74` and `RefreshTokenService.ts:86–87`. -/
def generateTokens (env : Env) (payload : Claims) (subject : Value) : Program LoginResponse := do
  let accessToken ← JwtTokenService.generateAccessToken env payload subject
  let refreshToken ← JwtTokenService.generateRefreshToken env payload subject
  pure ⟨accessToken, refreshToken⟩

/-- Seven days in milliseconds. -/
def sevenDays : Nat := 7 * 24 * 60 * 60 * 1000

/-- `decoded && decoded.exp ? new Date(decoded.exp * 1000) : new Date(now + 7 days)`; `none` asks
for the fallback. -/
def decodedEnd (env : Env) (refreshToken : Text) : Option Nat :=
  match JwtTokenService.decode refreshToken with
  | none => none
  | some claims =>
    if claims.exp.truthy then
      (claims.exp.toNumber env.conversions).map fun q ↦ (q * 1000).floor.toNat
    else none

/-! ### LoginService.ts -/

/-- `dtos/LoginRequest.ts`. -/
structure LoginRequest where
  email : String
  passwordRaw : String
  ipAddress : String
  userAgent : String
  deriving DecidableEq, Repr

namespace LoginService

/-- `LoginService.ts:16`. -/
def DUMMY_HASH : String :=
  "$argon2id$v=19$m=65536,t=3,p=4$GKA/RZv83E8zMBbJ2CVpao0uZQWlLWfwBWo"

/-- The three refusals of `LoginService.ts:32–47` hash the password all the same. -/
def refuse (env : Env) (passwordHash passwordRaw : String) : Program LoginResponse := do
  let _ ← Argon2PasswordHasher.verify env passwordHash passwordRaw
  throw (.domainError "Invalid credentials")

/-- `LoginService.ts:76–79`. -/
def expiresAt (env : Env) (refreshToken : Text) : Program Nat :=
  match decodedEnd env refreshToken with
  | some t => pure t
  | none => do
    let now ← SystemClock.now
    pure (now + sevenDays)

/-- `LoginService.ts:60–105`, for a user whose login is recorded. -/
def openSession (env : Env) (userRepository : IUserRepository) (request : LoginRequest)
    (user : User) : Program LoginResponse := do
  let directRoles ← userRepository.findRoles user.id
  let effectiveRoles ← AuthorizationEngine.resolveRoles directRoles
  let effectivePermissions ← AuthorizationEngine.resolvePermissions directRoles
  let sessionId ← SecureRandomGenerator.generateUUID
  let tokens ←
    generateTokens env (tokenPayload effectiveRoles effectivePermissions sessionId) (.str user.id)
  let expiresAt ← expiresAt env tokens.refreshToken
  let hashedRefreshToken := SecureRandomGenerator.hashString env tokens.refreshToken
  let createdAt ← SystemClock.now
  let deviceSession := DeviceSession.construct sessionId user.id hashedRefreshToken
    request.ipAddress request.userAgent expiresAt createdAt false
  PrismaDeviceSessionRepository.save deviceSession
  dispatch (withMetadata user.domainEvents request.ipAddress request.userAgent)
  pure tokens

/-- `LoginService.ts:51–55`. -/
def wrongPassword (userRepository : IUserRepository) (user : User) : Program LoginResponse := do
  userRepository.update (user.incrementFailedAttempts 5)
  throw (.domainError "Invalid credentials")

/-- `LoginService.ts:57–105`. -/
def rightPassword (env : Env) (userRepository : IUserRepository) (request : LoginRequest)
    (user : User) : Program LoginResponse := do
  let user ← .done (user.recordLogin request.ipAddress request.userAgent)
  userRepository.update user
  openSession env userRepository request user

/-- `LoginService.ts:29–106`. -/
def execute (env : Env) (userRepository : IUserRepository) (request : LoginRequest) :
    Program LoginResponse :=
  let normalizedEmail := EmailValidator.normalize env request.email
  if EmailValidator.isValid normalizedEmail then do
    let user ← userRepository.findByEmail normalizedEmail
    match user with
    | none => refuse env DUMMY_HASH request.passwordRaw
    | some user =>
      if user.isLocked then refuse env user.passwordHash request.passwordRaw
      else do
        let isValidPassword ← Argon2PasswordHasher.verify env user.passwordHash request.passwordRaw
        if isValidPassword then rightPassword env userRepository request user
        else wrongPassword userRepository user
  else refuse env DUMMY_HASH request.passwordRaw

end LoginService

/-! ### RefreshTokenService.ts -/

namespace RefreshTokenService

/-- The replay branch, `RefreshTokenService.ts:41–50`. -/
def revokeAll (userId : Value) : Program LoginResponse := do
  let allSessions ← PrismaDeviceSessionRepository.findActiveSessions userId
  let _ ← Prog.each allSessions fun s ↦ do
    let s ← .done (s.revoke "Token replay detected")
    PrismaDeviceSessionRepository.save s
    dispatch s.domainEvents
  throw (.domainError "Token replay detected")

/-- The rotation, `RefreshTokenService.ts:70–118`. -/
def rotate (env : Env) (userRepository : IUserRepository) (userId : Value)
    (ipAddress userAgent : String) (session : DeviceSession) (user : User) (now : Nat) :
    Program LoginResponse := do
  let session ← .done session.revoke
  PrismaDeviceSessionRepository.save session
  let directRoles ← userRepository.findRoles user.id
  let effectiveRoles ← AuthorizationEngine.resolveRoles directRoles
  let effectivePermissions ← AuthorizationEngine.resolvePermissions directRoles
  let newSessionId ← SecureRandomGenerator.generateUUID
  let tokens ←
    generateTokens env (tokenPayload effectiveRoles effectivePermissions newSessionId) userId
  let newExpiresAt := (decodedEnd env tokens.refreshToken).getD (now + sevenDays)
  let newHashedRefresh := SecureRandomGenerator.hashString env tokens.refreshToken
  let newSession :=
    session.rotate newSessionId newHashedRefresh ipAddress userAgent newExpiresAt now
  PrismaDeviceSessionRepository.save newSession
  dispatch (withMetadata newSession.domainEvents ipAddress userAgent)
  pure tokens

/-- The checks of `RefreshTokenService.ts:41–68` on the session that was found. -/
def present (env : Env) (userRepository : IUserRepository) (userId sessionId : Value)
    (hashedToken : Text) (ipAddress userAgent : String) (session : DeviceSession) :
    Program LoginResponse :=
  if session.refreshToken ≠ hashedToken then revokeAll userId
  else if session.isRevoked then throw (.domainError "Session is revoked")
  else if .str session.id ≠ sessionId then throw (.domainError "Session mismatch")
  else do
    let now ← SystemClock.now
    if session.isExpired now then throw (.domainError "Session expired")
    else do
      let user ← userRepository.findById userId
      match user with
      | none => throw (.domainError "User is locked or disabled")
      | some user =>
        if user.isLocked then throw (.domainError "User is locked or disabled")
        else rotate env userRepository userId ipAddress userAgent session user now

/-- `RefreshTokenService.ts:22–29`. -/
def verified (env : Env) (refreshToken : Text) : Program Claims :=
  try JwtTokenService.verifyRefreshToken env refreshToken
  catch _ => throw (.domainError "Invalid refresh token")

/-- `RefreshTokenService.ts:21–119`. -/
def execute (env : Env) (userRepository : IUserRepository) (refreshToken : Text)
    (ipAddress userAgent : String) : Program LoginResponse := do
  let decoded ← verified env refreshToken
  let hashedToken := SecureRandomGenerator.hashString env refreshToken
  let session ← PrismaDeviceSessionRepository.findByRefreshToken hashedToken
  match session with
  | none => throw (.domainError "Session not found")
  | some session =>
    present env userRepository decoded.sub decoded.sessionId hashedToken ipAddress userAgent session

end RefreshTokenService

/-! ### LogoutService.ts -/

/-- `dtos/LogoutRequest.ts`. -/
structure LogoutRequest where
  accessToken : Text
  refreshToken : Text
  deriving DecidableEq, Repr

namespace LogoutService

/-- `LogoutService.ts:30–35`: a lifetime that is not a number is not positive. -/
def blacklistAccessToken (env : Env) (accessToken : Text) : Program Unit :=
  match JwtTokenService.decode accessToken with
  | none => pure ()
  | some accessTokenPayload =>
    if accessTokenPayload.jti.truthy && accessTokenPayload.exp.truthy then do
      let unix ← SystemClock.unix
      match accessTokenPayload.exp.toNumber env.conversions with
      | none => pure ()
      | some exp =>
        if 0 < exp - unix then
          RedisTokenBlacklistService.blacklistToken env accessTokenPayload.jti (exp - unix)
        else pure ()
    else pure ()

/-- The `sessionId` claim of a token, as far as it decodes. -/
def claimedSession (token : Text) : Value :=
  match JwtTokenService.decode token with
  | none => .undefined
  | some payload => payload.sessionId

/-- `LogoutService.ts:38–47`: the refresh token is asked when the access token names nothing. -/
def sessionId (request : LogoutRequest) : Value :=
  if (claimedSession request.accessToken).truthy then claimedSession request.accessToken
  else claimedSession request.refreshToken

/-- `LogoutService.ts:55–70`. -/
def endSession (env : Env) (request : LogoutRequest) (ipAddress userAgent : String)
    (deviceSession : DeviceSession) : Program Unit :=
  if deviceSession.isRevoked then pure ()
  else
    let incomingHash := SecureRandomGenerator.hashString env request.refreshToken
    if deviceSession.refreshToken = incomingHash then do
      let deviceSession ← .done (deviceSession.revoke "User requested logout")
      PrismaDeviceSessionRepository.save deviceSession
      dispatch (withMetadata deviceSession.domainEvents ipAddress userAgent)
    else throw (.domainError "Invalid refresh token for session")

/-- `LogoutService.ts:20–71`. -/
def execute (env : Env) (request : LogoutRequest) (ipAddress userAgent : String) :
    Program Unit := do
  blacklistAccessToken env request.accessToken
  if (sessionId request).truthy then do
    let deviceSession ← PrismaDeviceSessionRepository.findById (sessionId request)
    match deviceSession with
    | none => pure ()
    | some deviceSession => endSession env request ipAddress userAgent deviceSession
  else throw (.domainError "Invalid tokens provided for logout")

end LogoutService

/-! ### ResetPasswordService.ts -/

/-- `dtos/ResetPasswordRequest.ts`. -/
structure ResetPasswordRequest where
  token : Text
  newPasswordRaw : String
  ipAddress : String
  userAgent : String
  deriving DecidableEq, Repr

namespace ResetPasswordService

/-- `ResetPasswordService.ts:58–68`. -/
def revokeSessions (user : User) : Program (List DeviceSession) := do
  let activeSessions ← PrismaDeviceSessionRepository.findActiveSessions (.str user.id)
  Prog.each activeSessions fun session ↦ do
    let session ← .done (session.revoke "Password changed")
    PrismaDeviceSessionRepository.save session
    pure session

/-- `ResetPasswordService.ts:70–82`. -/
def dispatchEvents (request : ResetPasswordRequest) (user : User)
    (activeSessions : List DeviceSession) : Program Unit := do
  dispatch (withMetadata user.domainEvents request.ipAddress request.userAgent)
  let _ ← Prog.each activeSessions fun session ↦
    dispatch (withMetadata session.domainEvents request.ipAddress request.userAgent)
  pure ()

/-- `ResetPasswordService.ts:48–82`, for a usable token of an existing user. The verdict of the
password policy is not read. -/
def changePassword (env : Env) (userRepository : IUserRepository)
    (request : ResetPasswordRequest) (hashedToken : Text) (resetToken : OneTimeToken)
    (user : User) : Program Unit := do
  let _ := PasswordPolicy.validate request.newPasswordRaw
  let newPasswordHash ← Argon2PasswordHasher.hash env request.newPasswordRaw
  let user ← .done (user.changePassword newPasswordHash)
  userRepository.save user
  let now ← SystemClock.now
  let _ ← .done (PasswordResetToken.markAsUsed resetToken now)
  PrismaPasswordResetTokenRepository.delete hashedToken
  let activeSessions ← revokeSessions user
  dispatchEvents request user activeSessions

/-- `ResetPasswordService.ts:35–82`, for a token that was found. -/
def redeem (env : Env) (userRepository : IUserRepository) (request : ResetPasswordRequest)
    (hashedToken : Text) (resetToken : OneTimeToken) : Program Unit := do
  let now ← SystemClock.now
  if resetToken.isExpired now then throw (.domainError "Invalid or expired reset token")
  else if resetToken.isUsed then throw (.domainError "Invalid or expired reset token")
  else do
    let user ← userRepository.findById (.str resetToken.userId)
    match user with
    | none => throw (.domainError "Invalid or expired reset token")
    | some user => changePassword env userRepository request hashedToken resetToken user

/-- `ResetPasswordService.ts:25–83`. -/
def execute (env : Env) (userRepository : IUserRepository) (request : ResetPasswordRequest) :
    Program Unit := do
  let hashedToken := SecureRandomGenerator.hashString env request.token
  let resetToken ← PrismaPasswordResetTokenRepository.findByToken hashedToken
  match resetToken with
  | none => throw (.domainError "Invalid or expired reset token")
  | some resetToken => redeem env userRepository request hashedToken resetToken

end ResetPasswordService

/-! ### VerifyEmailService.ts -/

/-- `dtos/VerifyEmailRequest.ts`. -/
structure VerifyEmailRequest where
  token : Text
  ipAddress : String
  userAgent : String
  deriving DecidableEq, Repr

namespace VerifyEmailService

/-- `VerifyEmailService.ts:41–51`, for a usable token of an existing user. -/
def verifyEmail (userRepository : IUserRepository) (request : VerifyEmailRequest)
    (hashedToken : Text) (verificationToken : OneTimeToken) (user : User) : Program Unit := do
  userRepository.save user.verifyEmail
  let now ← SystemClock.now
  let verificationToken ← .done (EmailVerificationToken.markAsUsed verificationToken now)
  PrismaEmailVerificationTokenRepository.delete hashedToken
  dispatch (withMetadata verificationToken.domainEvents request.ipAddress request.userAgent)

/-- `VerifyEmailService.ts:18–52`. -/
def execute (env : Env) (userRepository : IUserRepository) (request : VerifyEmailRequest) :
    Program Unit := do
  let hashedToken := SecureRandomGenerator.hashString env request.token
  let verificationToken ← PrismaEmailVerificationTokenRepository.findByToken hashedToken
  match verificationToken with
  | none => throw (.domainError "Invalid or expired verification token")
  | some verificationToken => do
    let now ← SystemClock.now
    if verificationToken.isExpired now then
      throw (.domainError "Invalid or expired verification token")
    else if verificationToken.isUsed then
      throw (.domainError "Invalid or expired verification token")
    else do
      let user ← userRepository.findById (.str verificationToken.userId)
      match user with
      | none => throw (.domainError "Invalid or expired verification token")
      | some user => verifyEmail userRepository request hashedToken verificationToken user

end VerifyEmailService
end Bankos
