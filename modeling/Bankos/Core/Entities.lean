import Bankos.Core.Events

/-!
# Entities

`identity/src/core/domain`. A mutator returns the mutated entity, or the error it throws;
an entity that threw keeps its state. Dates are milliseconds. `new Date()` inside an entity
is the argument `now`.
-/

namespace Bankos

open Js Jwt

/-! ### User.ts -/

/-- `User.ts:8–31`. -/
structure User where
  id : String
  email : String
  passwordHash : String
  isLocked : Bool
  failedLoginAttempts : Int
  emailVerified : Bool
  domainEvents : List DomainEvent
  deriving DecidableEq, Repr

namespace User

/-- The constructor, `User.ts:15–31`. -/
def construct (id email passwordHash : String) (isLocked : Bool) (failedLoginAttempts : Int)
    (emailVerified isNew : Bool) : User :=
  ⟨id, email, passwordHash, isLocked, failedLoginAttempts, emailVerified,
    if isNew then [{ detail := .userRegistered id email }] else []⟩

/-- `User.ts:54–56`. -/
def clearEvents (u : User) : User := { u with domainEvents := [] }

/-- `User.ts:58–64`. -/
def lock (u : User) (reason : String) : User :=
  if u.isLocked then u
  else { u with
    isLocked := true
    domainEvents := u.domainEvents ++ [{ detail := .userLocked u.id reason }] }

/-- `User.ts:66–69`. -/
def unlock (u : User) : User := { u with isLocked := false, failedLoginAttempts := 0 }

/-- `User.ts:71–79`. -/
def incrementFailedAttempts (u : User) (maxAttempts : Int) : User :=
  if u.isLocked then u
  else
    let u := { u with failedLoginAttempts := u.failedLoginAttempts + 1 }
    if maxAttempts ≤ u.failedLoginAttempts then
      u.lock "Exceeded maximum failed login attempts"
    else u

/-- `User.ts:81–83`. -/
def resetFailedAttempts (u : User) : User := { u with failedLoginAttempts := 0 }

/-- `User.ts:85–90`. -/
def verifyEmail (u : User) : User :=
  if u.emailVerified then u else { u with emailVerified := true }

/-- `User.ts:92–98`. -/
def changePassword (u : User) (newPasswordHash : String) : Except JsError User :=
  if u.passwordHash = newPasswordHash then
    .error (.invalidStateError "New password must be different from the old password")
  else .ok { u with
    passwordHash := newPasswordHash
    domainEvents := u.domainEvents ++ [{ detail := .passwordChanged u.id }] }

/-- `User.ts:100–106`. -/
def recordLogin (u : User) (ipAddress userAgent : String) : Except JsError User :=
  if u.isLocked then .error (.invalidStateError "User is locked and cannot log in")
  else
    let u := u.resetFailedAttempts
    .ok { u with
      domainEvents := u.domainEvents ++ [{ detail := .userLoggedIn u.id ipAddress userAgent }] }

end User

/-! ### DeviceSession.ts -/

/-- `DeviceSession.ts:5–28`; `refreshToken` holds the hash of the token. -/
structure DeviceSession where
  id : String
  userId : String
  refreshToken : Text
  ipAddress : String
  userAgent : String
  expiresAt : Nat
  createdAt : Nat
  isRevoked : Bool
  domainEvents : List DomainEvent
  deriving DecidableEq, Repr

namespace DeviceSession

/-- The constructor, `DeviceSession.ts:9–20`. -/
def construct (id userId : String) (refreshToken : Text) (ipAddress userAgent : String)
    (expiresAt createdAt : Nat) (isRevoked : Bool) : DeviceSession :=
  ⟨id, userId, refreshToken, ipAddress, userAgent, expiresAt, createdAt, isRevoked, []⟩

/-- `DeviceSession.ts:36–41`: the expiration slides up to an absolute maximum. -/
def slide (newExpiresAt : Nat) : Option Nat → Nat
  | some absoluteMaxExpiration =>
    if absoluteMaxExpiration < newExpiresAt then absoluteMaxExpiration else newExpiresAt
  | none => newExpiresAt

/-- `DeviceSession.ts:30–42`. -/
def rotateToken (s : DeviceSession) (newHashedToken : Text) (newExpiresAt : Nat)
    (absoluteMaxExpiration : Option Nat := none) : Except JsError DeviceSession :=
  if s.isRevoked then .error (.invalidStateError "Cannot rotate token on a revoked session")
  else .ok { s with
    refreshToken := newHashedToken
    expiresAt := slide newExpiresAt absoluteMaxExpiration }

/-- `DeviceSession.ts:56–59`: a session that ends at this very instant is not expired. -/
def isExpired (s : DeviceSession) (now : Nat) : Bool := decide (s.expiresAt < now)

/-- `DeviceSession.ts:61–63`: a new session of the same user. -/
def rotate (s : DeviceSession) (newSessionId : String) (newHashedRefreshToken : Text)
    (ipAddress userAgent : String) (expiresAt now : Nat) : DeviceSession :=
  construct newSessionId s.userId newHashedRefreshToken ipAddress userAgent expiresAt now false

/-- `DeviceSession.ts:65–71`. -/
def revoke (s : DeviceSession) (reason : String := "revoked") : Except JsError DeviceSession :=
  if s.isRevoked then .error (.invalidStateError "Session is already revoked")
  else .ok { s with
    isRevoked := true
    domainEvents := s.domainEvents ++ [{ detail := .tokenRevoked s.id s.userId reason }] }

end DeviceSession

/-! ### PasswordResetToken.ts and EmailVerificationToken.ts -/

/-- The fields that the two one-time tokens share; `token` holds the hash. -/
structure OneTimeToken where
  token : Text
  userId : String
  expiresAt : Nat
  isUsed : Bool
  domainEvents : List DomainEvent
  deriving DecidableEq, Repr

namespace OneTimeToken

/-- `isExpired` of both tokens: a token that ends at this very instant is not expired. -/
def isExpired (t : OneTimeToken) (now : Nat) : Bool := decide (t.expiresAt < now)

/-- `markAsUsed` of both tokens, with the events that the class records. -/
def markAsUsed (t : OneTimeToken) (now : Nat) (events : List DomainEvent) :
    Except JsError OneTimeToken :=
  if t.isUsed then .error (.invalidStateError "Token has already been used")
  else if t.isExpired now then .error (.invalidStateError "Token is expired")
  else .ok { t with isUsed := true, domainEvents := t.domainEvents ++ events }

end OneTimeToken

namespace PasswordResetToken

/-- The constructor, `PasswordResetToken.ts:9–20`: an unused token records a request. -/
def construct (token : Text) (userId : String) (expiresAt : Nat) (isUsed : Bool) :
    OneTimeToken :=
  ⟨token, userId, expiresAt, isUsed,
    if isUsed then [] else [{ detail := .passwordResetRequested userId }]⟩

/-- `PasswordResetToken.ts:38–46`. -/
def markAsUsed (t : OneTimeToken) (now : Nat) : Except JsError OneTimeToken :=
  t.markAsUsed now []

end PasswordResetToken

namespace EmailVerificationToken

/-- The constructor, `EmailVerificationToken.ts:9–16`. -/
def construct (token : Text) (userId : String) (expiresAt : Nat) (isUsed : Bool) :
    OneTimeToken :=
  ⟨token, userId, expiresAt, isUsed, []⟩

/-- `EmailVerificationToken.ts:34–43`. -/
def markAsUsed (t : OneTimeToken) (now : Nat) : Except JsError OneTimeToken :=
  t.markAsUsed now [{ detail := .emailVerified t.userId }]

end EmailVerificationToken

/-! ### Role.ts -/

/-- `Role.ts`; the dates are not read. -/
structure Role where
  id : String
  name : String
  description : Option String
  systemRole : Bool
  parentId : Option String
  deriving DecidableEq, Repr

/-! ### Permission.ts -/

/-- `Permission.ts`; the dates are not read. -/
structure Permission where
  id : String
  name : String
  resource : String
  action : String
  description : String
  deriving DecidableEq, Repr

/-! ### What the mutators keep -/

/-- Counting a failure leaves everything but the counter, the lock and the events. -/
theorem User.incrementFailedAttempts_spec (u : User) (n : Int) :
    (u.incrementFailedAttempts n).id = u.id ∧
      (u.incrementFailedAttempts n).email = u.email ∧
      (u.incrementFailedAttempts n).passwordHash = u.passwordHash ∧
      (u.incrementFailedAttempts n).emailVerified = u.emailVerified := by
  unfold incrementFailedAttempts lock
  split
  · exact ⟨rfl, rfl, rfl, rfl⟩
  · dsimp only
    split <;> exact ⟨rfl, rfl, rfl, rfl⟩

/-- Counting a failure of an unlocked user: one more failure, and a lock once the limit is
reached. -/
theorem User.incrementFailedAttempts_unlocked {u : User} {n : Int} (h : u.isLocked = false) :
    (u.incrementFailedAttempts n).failedLoginAttempts = u.failedLoginAttempts + 1 ∧
      (u.incrementFailedAttempts n).isLocked = decide (n ≤ u.failedLoginAttempts + 1) := by
  unfold incrementFailedAttempts lock
  by_cases hn : n ≤ u.failedLoginAttempts + 1
  · simp [h, hn]
  · simp [h, hn]

/-- A login of an unlocked user is recorded, and clears the counter. -/
theorem User.recordLogin_unlocked {u : User} (h : u.isLocked = false) (ip ua : String) :
    u.recordLogin ip ua = .ok { u with
      failedLoginAttempts := 0
      domainEvents := u.domainEvents ++ [{ detail := .userLoggedIn u.id ip ua }] } := by
  unfold recordLogin
  rw [if_neg (Bool.eq_false_iff.mp h)]
  rfl

/-- A recorded login is that of an unlocked user; it clears the counter and adds an event. -/
theorem User.recordLogin_ok {u u' : User} {ip ua : String} (h : u.recordLogin ip ua = .ok u') :
    u.isLocked = false ∧ u' = { u with
      failedLoginAttempts := 0
      domainEvents := u.domainEvents ++ [{ detail := .userLoggedIn u.id ip ua }] } := by
  by_cases hlocked : u.isLocked = true
  · unfold recordLogin at h
    rw [if_pos hlocked] at h
    cases h
  · have hlocked : u.isLocked = false := Bool.eq_false_iff.mpr hlocked
    rw [recordLogin_unlocked hlocked] at h
    cases h
    exact ⟨hlocked, rfl⟩

/-- A changed password is a different one, and nothing else about the user changes. -/
theorem User.changePassword_ok {u u' : User} {hash : String}
    (h : u.changePassword hash = .ok u') :
    u.passwordHash ≠ hash ∧ u'.id = u.id ∧ u'.email = u.email ∧ u'.passwordHash = hash ∧
      u'.isLocked = u.isLocked ∧ u'.failedLoginAttempts = u.failedLoginAttempts ∧
      u'.emailVerified = u.emailVerified := by
  unfold changePassword at h
  split at h
  · cases h
  · next hne =>
    cases h
    exact ⟨hne, rfl, rfl, rfl, rfl, rfl, rfl⟩

/-- Verifying the email leaves everything else alone. -/
theorem User.verifyEmail_spec (u : User) :
    u.verifyEmail.id = u.id ∧ u.verifyEmail.email = u.email ∧
      u.verifyEmail.passwordHash = u.passwordHash ∧ u.verifyEmail.isLocked = u.isLocked ∧
      u.verifyEmail.failedLoginAttempts = u.failedLoginAttempts ∧
      u.verifyEmail.emailVerified = true := by
  unfold verifyEmail
  split
  · next h => exact ⟨rfl, rfl, rfl, rfl, rfl, h⟩
  · exact ⟨rfl, rfl, rfl, rfl, rfl, rfl⟩

/-- Only the token of an active session is rotated, and only the token and the expiration change. -/
theorem DeviceSession.rotateToken_ok {s s' : DeviceSession} {token : Text} {expiresAt : Nat}
    {max : Option Nat} (h : s.rotateToken token expiresAt max = .ok s') :
    s.isRevoked = false ∧
      s' = { s with refreshToken := token, expiresAt := slide expiresAt max } := by
  unfold rotateToken at h
  split at h
  · cases h
  · next hr =>
    cases h
    exact ⟨by simpa using hr, rfl⟩

/-- Only an active session can be revoked, and only its flag and its events change. -/
theorem DeviceSession.revoke_ok {s s' : DeviceSession} {reason : String}
    (h : s.revoke reason = .ok s') :
    s.isRevoked = false ∧ s' = { s with
      isRevoked := true
      domainEvents := s.domainEvents ++ [{ detail := .tokenRevoked s.id s.userId reason }] } := by
  unfold revoke at h
  split at h
  · cases h
  · next hr =>
    cases h
    exact ⟨by simpa using hr, rfl⟩

end Bankos
