import Bankos.Auth.Repositories

/-!
# Adapters of the infrastructure

`identity/src/infrastructure`: the token service, the password hasher, the clock, the
generator, the blacklist and the event dispatcher, each over the calls of `Infra/World.lean`.
-/

namespace Bankos

open Js Jwt Effects

namespace SystemClock

/-- `SystemClock.ts:4–6`. -/
def now : Program Nat := request (.system .dateNow)

/-- `SystemClock.ts:8–10`. -/
def unix : Program Nat := do
  let t ← now
  pure (t / 1000)

end SystemClock

namespace SecureRandomGenerator

/-- `SecureRandomGenerator.ts:5–7`. -/
def generateToken (length : Nat) : Program String := request (.system (.randomBytes length))

/-- `SecureRandomGenerator.ts:9–11`. -/
def generateUUID : Program String := request (.system .randomUUID)

/-- `SecureRandomGenerator.ts:13–15`. -/
def hashString (env : Env) (data : Text) : Text := env.sha256 data

end SecureRandomGenerator

namespace JwtTokenService

/-- `JwtTokenService.ts:30–43`. `use` names the caller. -/
def sign (env : Env) (use : TokenUse) (payload : Claims) (subject : Value)
    (expiresIn : Duration) : Program Text :=
  request (.jwtSign
    { use := use
      payload := payload
      privateKey := env.keyManager.activePrivateKey
      keyid := env.keyManager.activeKeyId
      expiresIn := expiresIn.seconds
      issuer := env.config.issuer
      audience := env.config.audience
      subject := subject })

/-- `JwtTokenService.ts:10–12`. -/
def generateAccessToken (env : Env) (payload : Claims) (subject : Value) : Program Text :=
  sign env .access payload subject env.config.accessExpiration

/-- `JwtTokenService.ts:14–16`. -/
def generateRefreshToken (env : Env) (payload : Claims) (subject : Value) : Program Text :=
  sign env .refresh payload subject env.config.refreshExpiration

/-- The public key that `JwtTokenService.ts:52–60` looks up for a header. -/
def headerKey (env : Env) (header : Header) : Except JsError String :=
  match header.kid with
  | none => .error (.error "Missing kid in JWT header")
  | some kid =>
    if kid = "" then .error (.error "Missing kid in JWT header")
    else
      match env.keyManager.keys kid with
      | none => .error (.error s!"Unknown kid: {kid}")
      | some key => .ok key.publicKey

/-- The public key that `JwtTokenService.ts:46–60` looks up for a token. -/
def verificationKey (env : Env) : Text → Except JsError String
  | .plain _ => .error (.error "Invalid token structure")
  | .unreadable _ => .error (.jwtError (.other "SyntaxError"))
  | .null header _ => headerKey env header
  | .jws t => headerKey env t.header

/-- A key is found when the header names one of the service. -/
theorem headerKey_eq_ok {env : Env} {header : Header} {publicKey : String} :
    headerKey env header = .ok publicKey ↔ ∃ kid key, header.kid = some kid ∧ kid ≠ "" ∧
      env.keyManager.keys kid = some key ∧ key.publicKey = publicKey := by
  unfold headerKey
  cases header.kid with
  | none => simp
  | some kid =>
    by_cases hempty : kid = ""
    · simp [hempty]
    · cases hfound : env.keyManager.keys kid with
      | none => simp [hempty, hfound]
      | some key => simp [hempty, hfound]

/-- The verdict of `JwtTokenService.ts:45–67` at the time `now`. -/
def verifyAt (env : Env) (token : Text) (now : Nat) : Except JsError Claims :=
  match verificationKey env token with
  | .error e => .error e
  | .ok publicKey =>
    match Jwt.verify env.publicKeyOf token publicKey
      ⟨["RS256"], env.config.issuer, env.config.audience⟩ now with
    | .ok claims => .ok claims
    | .error e => .error (.jwtError e)

/-- A verdict that is good is one of the library, for some key. -/
theorem verify_of_verifyAt {env : Env} {token : Text} {now : Nat} {claims : Claims}
    (h : verifyAt env token now = .ok claims) :
    ∃ publicKey, verificationKey env token = .ok publicKey ∧
      Jwt.verify env.publicKeyOf token publicKey
        ⟨["RS256"], env.config.issuer, env.config.audience⟩ now = .ok claims := by
  unfold verifyAt at h
  cases hkey : verificationKey env token with
  | error e =>
    rw [hkey] at h
    cases h
  | ok publicKey =>
    rw [hkey] at h
    dsimp only at h
    cases hverify : Jwt.verify env.publicKeyOf token publicKey
        ⟨["RS256"], env.config.issuer, env.config.audience⟩ now with
    | error e =>
      rw [hverify] at h
      cases h
    | ok claims' =>
      rw [hverify] at h
      cases h
      exact ⟨publicKey, rfl, hverify⟩

/-- The verified claims are those that decode from the token. -/
theorem decode_of_verifyAt {env : Env} {token : Text} {now : Nat} {claims : Claims}
    (h : verifyAt env token now = .ok claims) : Jwt.decode token = some claims := by
  obtain ⟨publicKey, -, hverify⟩ := verify_of_verifyAt h
  obtain ⟨t, rfl, hclaims, -, -⟩ := Jwt.verify_ok hverify
  rw [← hclaims]
  rfl

/-- `JwtTokenService.ts:45–67`: the library reads the clock. -/
def verify (env : Env) (token : Text) : Program Claims := do
  let now ← SystemClock.now
  .done (verifyAt env token now)

/-- `JwtTokenService.ts:18–20`. -/
def verifyAccessToken (env : Env) (token : Text) : Program Claims := verify env token

/-- `JwtTokenService.ts:22–24`. -/
def verifyRefreshToken (env : Env) (token : Text) : Program Claims := verify env token

/-- `JwtTokenService.ts:26–28`. -/
def decode (token : Text) : Option Claims := Jwt.decode token

end JwtTokenService

namespace Argon2PasswordHasher

/-- `Argon2PasswordHasher.ts:6–12`. -/
def applyPepper (env : Env) (password : String) : String :=
  match env.config.pepper with
  | none => password
  | some pepper => if pepper = "" then password else password ++ pepper

/-- `Argon2PasswordHasher.ts:14–22`. -/
def hash (env : Env) (password : String) : Program String :=
  request (.hasher (.hash (applyPepper env password)))

/-- `Argon2PasswordHasher.ts:24–31`. -/
def verify (env : Env) (pchstr plaintext : String) : Program Bool :=
  try request (.hasher (.verify pchstr (applyPepper env plaintext))) catch _ => pure false

end Argon2PasswordHasher

namespace RedisTokenBlacklistService

/-- `RedisTokenBlacklistService.ts:8–10`. -/
def getBlacklistKey (env : Env) (jti : Value) : String := "bl:" ++ jti.toText env.conversions

/-- `RedisTokenBlacklistService.ts:12–21`. -/
def blacklistToken (env : Env) (jti : Value) (ttlSeconds : Rat) : Program Unit :=
  request (.redis (.setEx (getBlacklistKey env jti) "1" ttlSeconds))

/-- `RedisTokenBlacklistService.ts:23–33`. -/
def isBlacklisted (env : Env) (jti : Value) : Program Bool := do
  let found ← request (.redis (.existsKey (getBlacklistKey env jti)))
  pure (decide (0 < found))

end RedisTokenBlacklistService

namespace ConsoleMailer

/-- `ConsoleMailer.ts:4–9`. -/
def sendPasswordReset (email token : String) : Program Unit :=
  request (.mail ⟨.passwordReset, email, token⟩)

/-- `ConsoleMailer.ts:11–16`. -/
def sendVerificationEmail (email token : String) : Program Unit :=
  request (.mail ⟨.emailVerification, email, token⟩)

end ConsoleMailer

/-! ### Events -/

/-- `interfaces/IDomainEventHandler.ts`. -/
abbrev IDomainEventHandler := DomainEvent → Program Unit

/-- `interfaces/IDomainEventDispatcher.ts`. -/
abbrev IDomainEventDispatcher := List DomainEvent → Program Unit

/-- `DomainEventDispatcher.ts:12–18`. -/
def DomainEventDispatcher.dispatch (handlers : List IDomainEventHandler)
    (events : List DomainEvent) : Program Unit := do
  let _ ← Prog.each events fun event ↦ Prog.each handlers fun handler ↦ handler event
  pure ()

namespace AuditEventHandler

/-- `event.metadata?.field || 'unknown'`. -/
def orUnknown (field : Option String) : String :=
  match field with
  | none => "unknown"
  | some s => if s = "" then "unknown" else s

/-- The `details` of `AuditEventHandler.ts:21–31`. -/
def details (event : DomainEvent) : List (String × String) :=
  match event.detail with
  | .userRegistered _ email => [("email", email)]
  | .userLoggedIn _ ipAddress userAgent => [("ipAddress", ipAddress), ("userAgent", userAgent)]
  | _ => []

/-- `AuditEventHandler.ts:17–52`. -/
def handle : IDomainEventHandler := fun event ↦ do
  let id ← SecureRandomGenerator.generateUUID
  let timestamp ← SystemClock.now
  PrismaAuditRepository.save
    { id := id
      eventType := event.eventName
      userId := event.userId
      payload := details event
      ipAddress := orUnknown (event.metadata.map (·.ipAddress))
      userAgent := orUnknown (event.metadata.map (·.userAgent))
      timestamp := timestamp }

end AuditEventHandler

namespace MetricsEventHandler

/-- `MetricsEventHandler.ts:11–27`. -/
def handle : IDomainEventHandler := fun event ↦
  match event.eventName with
  | "RoleCreated" => request (.counter .rolesCreatedTotal)
  | "PermissionCreated" => request (.counter .permissionsCreatedTotal)
  | "RoleAssignedToUser" => request (.counter .roleAssignmentsTotal)
  | "PermissionAssigned" => request (.counter .roleAssignmentsTotal)
  | "AuthorizationDenied" => request (.counter .permissionDeniedTotal)
  | _ => pure ()

end MetricsEventHandler

/-- The dispatcher of `auth.routes.ts:75–77`. -/
def dispatch (events : List DomainEvent) : Program Unit :=
  DomainEventDispatcher.dispatch [AuditEventHandler.handle] events

end Bankos
