import Bankos.Auth.Recovery
import Bankos.Auth.Server

/-!
# Which calls the helpers make

Most of a service is bookkeeping that leaves users, sessions, one-time tokens and Redis
alone and checks no password: it reads roles, draws identifiers, signs, hashes and reads the
clock. The lemmas of this module say so for every helper, and in which areas the services
make calls besides. What these calls leave alone follows from the areas by `Uses.mono`.
-/

namespace Bankos

open Js Jwt Effects Prog

/-- The calls that leave users, sessions, one-time tokens and Redis alone, check no password and
only read the role tables. -/
def Op.auxiliary : Op → Prop
  | .rbac _ => True
  | .hasher (.hash _) => True
  | .system _ => True
  | .jwtSign _ => True
  | _ => False

/-- The calls on other things than sessions. -/
def Op.besideSessions : Op → Prop
  | .session _ => False
  | _ => True

/-- Auxiliary calls are not on sessions. -/
theorem Op.auxiliary.besideSessions {op : Op} (h : op.auxiliary) : op.besideSessions := by
  cases op <;> trivial

/-- Reading the clock is auxiliary. -/
theorem SystemClock.now_uses : SystemClock.now.Uses Op.auxiliary := uses_perform trivial

/-- Reading the clock in seconds is auxiliary. -/
theorem SystemClock.unix_uses : SystemClock.unix.Uses Op.auxiliary :=
  uses_bind SystemClock.now_uses fun _ ↦ trivial

/-- Drawing an identifier is auxiliary. -/
theorem SecureRandomGenerator.generateUUID_uses :
    SecureRandomGenerator.generateUUID.Uses Op.auxiliary := uses_perform trivial

/-- Drawing random bytes is auxiliary. -/
theorem SecureRandomGenerator.generateToken_uses (length : Nat) :
    (SecureRandomGenerator.generateToken length).Uses Op.auxiliary := uses_perform trivial

/-- Signing a token is auxiliary. -/
theorem JwtTokenService.sign_uses (env : Env) (use : TokenUse) (payload : Claims)
    (subject : Value) (d : Duration) :
    (JwtTokenService.sign env use payload subject d).Uses Op.auxiliary := uses_perform trivial

/-- Verifying a token only reads the clock. -/
theorem JwtTokenService.verify_uses (env : Env) (token : Text) :
    (JwtTokenService.verify env token).Uses Op.auxiliary :=
  uses_bind SystemClock.now_uses fun _ ↦ uses_done _ _

/-- Hashing a password is auxiliary. -/
theorem Argon2PasswordHasher.hash_uses (env : Env) (password : String) :
    (Argon2PasswordHasher.hash env password).Uses Op.auxiliary := uses_perform trivial

/-- Reading the roles of a user is auxiliary. -/
theorem PrismaUserRepository.findRoles_uses (userId : String) :
    (PrismaUserRepository.findRoles userId).Uses Op.auxiliary :=
  uses_bind (uses_perform trivial) fun _ ↦ trivial

/-- Reading all roles is auxiliary. -/
theorem PrismaRoleRepository.findAll_uses : PrismaRoleRepository.findAll.Uses Op.auxiliary :=
  uses_bind (uses_perform trivial) fun _ ↦ trivial

/-- Reading the permissions of a role is auxiliary. -/
theorem PrismaRoleRepository.findPermissions_uses (roleId : String) :
    (PrismaRoleRepository.findPermissions roleId).Uses Op.auxiliary :=
  uses_bind (uses_perform trivial) fun _ ↦ trivial

/-- Resolving roles only reads. -/
theorem AuthorizationEngine.resolveRoles_uses (roleNames : List String) :
    (AuthorizationEngine.resolveRoles roleNames).Uses Op.auxiliary :=
  uses_bind PrismaRoleRepository.findAll_uses fun _ ↦ trivial

/-- Resolving permissions only reads. -/
theorem AuthorizationEngine.resolvePermissions_uses (roleNames : List String) :
    (AuthorizationEngine.resolvePermissions roleNames).Uses Op.auxiliary := by
  apply uses_bind PrismaRoleRepository.findAll_uses
  intro roles
  refine uses_bind (uses_each fun roleName _ ↦ ?_) fun _ ↦ trivial
  split
  · exact PrismaRoleRepository.findPermissions_uses _
  · exact trivial

/-- Minting a pair of tokens only signs. -/
theorem generateTokens_uses (env : Env) (payload : Claims) (subject : Value) :
    (generateTokens env payload subject).Uses Op.auxiliary :=
  uses_bind (JwtTokenService.sign_uses ..) fun _ ↦
    uses_bind (JwtTokenService.sign_uses ..) fun _ ↦ trivial

/-- The end of a session is in its token, or seven days from now. -/
theorem LoginService.expiresAt_uses (env : Env) (refreshToken : Text) :
    (LoginService.expiresAt env refreshToken).Uses Op.auxiliary := by
  unfold expiresAt
  split
  · exact trivial
  · exact uses_bind SystemClock.now_uses fun _ ↦ trivial

/-- Checking a refresh token only reads the clock. -/
theorem RefreshTokenService.verified_uses (env : Env) (token : Text) :
    (RefreshTokenService.verified env token).Uses Op.auxiliary :=
  uses_tryCatch (JwtTokenService.verify_uses env token) fun _ ↦ trivial

/-- The gateway only reads the clock. -/
theorem Gateway.authMiddleware_uses (env : Env) (authorization : Option (List Text)) :
    (Gateway.authMiddleware env authorization).Uses Op.auxiliary := by
  unfold Gateway.authMiddleware
  split
  · exact trivial
  · apply uses_bind SystemClock.now_uses
    intro _
    split <;> exact trivial

/-! ### Programs that throw nothing of their own -/

/-- One call, and what is made of its reply. -/
theorem straight_lookup {α : Type} (op : Op) (f : op.Reply → α) :
    (request op >>= fun r ↦ pure (f r) : Program α).Straight :=
  (straight_perform (I := Api) op).bind fun _ ↦ straight_pure _

/-- Resolving roles throws nothing of its own. -/
theorem AuthorizationEngine.resolveRoles_straight (roleNames : List String) :
    (AuthorizationEngine.resolveRoles roleNames).Straight :=
  (straight_lookup _ _).bind fun _ ↦ straight_pure _

/-- Resolving permissions throws nothing of its own. -/
theorem AuthorizationEngine.resolvePermissions_straight (roleNames : List String) :
    (AuthorizationEngine.resolvePermissions roleNames).Straight := by
  apply (straight_lookup _ _).bind
  intro roles
  refine (straight_each fun roleName _ ↦ ?_).bind fun _ ↦ straight_pure _
  split
  · exact straight_lookup _ _
  · exact straight_pure _

/-- Minting a pair of tokens throws nothing of its own. -/
theorem generateTokens_straight (env : Env) (payload : Claims) (subject : Value) :
    (generateTokens env payload subject).Straight :=
  (straight_perform _).bind fun _ ↦ (straight_perform _).bind fun _ ↦ straight_pure _

/-- Computing the end of a session throws nothing of its own. -/
theorem LoginService.expiresAt_straight (env : Env) (refreshToken : Text) :
    (LoginService.expiresAt env refreshToken).Straight := by
  unfold expiresAt
  split
  · exact straight_pure _
  · exact (straight_perform _).bind fun _ ↦ straight_pure _

/-- Dispatching events throws nothing of its own. -/
theorem dispatch_straight (events : List DomainEvent) : (dispatch events).Straight := by
  refine (straight_each fun event _ ↦ straight_each fun handler hh ↦ ?_).bind
    fun _ ↦ straight_pure _
  rw [List.mem_singleton.mp hh]
  apply (straight_perform _).bind
  intro id
  exact (straight_perform _).bind fun _ ↦ straight_perform _

/-- Opening a session throws nothing of its own. -/
theorem LoginService.openSession_straight (env : Env) (r : LoginRequest) (user : User) :
    (openSession env PrismaUserRepository r user).Straight := by
  apply (straight_lookup _ _).bind
  intro directRoles
  apply (AuthorizationEngine.resolveRoles_straight _).bind
  intro effectiveRoles
  apply (AuthorizationEngine.resolvePermissions_straight _).bind
  intro effectivePermissions
  apply (straight_perform _).bind
  intro sessionId
  apply (generateTokens_straight env _ _).bind
  intro tokens
  apply (expiresAt_straight env _).bind
  intro expiresAt
  apply (straight_perform _).bind
  intro createdAt
  apply (straight_perform _).bind
  intro _
  exact (dispatch_straight _).bind fun _ ↦ straight_pure _

/-- Issuing a token for a new password throws nothing of its own. -/
theorem ForgotPasswordService.issueToken_straight (env : Env) (r : ForgotPasswordRequest)
    (user : User) : (issueToken env r user).Straight := by
  apply (straight_perform _).bind
  intro rawToken
  apply (straight_perform _).bind
  intro now
  apply (straight_perform _).bind
  intro _
  exact (straight_perform _).bind fun _ ↦ dispatch_straight _

/-- Issuing a verification token throws nothing of its own. -/
theorem SendVerificationEmailService.issueToken_straight (env : Env) (user : User) :
    (issueToken env user).Straight := by
  apply (straight_perform _).bind
  intro rawToken
  apply (straight_perform _).bind
  intro now
  exact (straight_perform _).bind fun _ ↦ straight_perform _

/-! ### What the services touch -/

/-- What a call that is not auxiliary is about. -/
inductive Area where
  | userRead
  | userWrite
  | passwordCheck
  | session
  | resetIssue
  | resetLookup
  | resetDelete
  | verificationToken
  | roleRead
  | roleCreate
  | roleDelete
  | roleAssign
  | roleRemove
  | permissionAssign
  | permissionRemove
  | permissionRead
  | permissionCreate
  | redis
  | mail
  | metrics
  | audit
  deriving DecidableEq

/-- The area of a call, unless it is auxiliary. -/
def Op.area : Op → Option Area
  | .user (.findUniqueById _) => some .userRead
  | .user (.findUniqueByEmail _) => some .userRead
  | .user (.count _) => some .userRead
  | .user (.create _) => some .userWrite
  | .user (.update _ _) => some .userWrite
  | .hasher (.verify _ _) => some .passwordCheck
  | .session _ => some .session
  | .resetToken (.upsert _) => some .resetIssue
  | .resetToken (.findUnique _) => some .resetLookup
  | .resetToken (.delete _) => some .resetDelete
  | .verificationToken _ => some .verificationToken
  | .redis _ => some .redis
  | .role (.findUniqueByName _) => some .roleRead
  | .role (.findUniqueById _) => some .roleRead
  | .role (.create _) => some .roleCreate
  | .role (.delete _) => some .roleDelete
  | .role (.upsertUserRole _) => some .roleAssign
  | .role (.deleteUserRole _) => some .roleRemove
  | .role (.upsertRolePermission _) => some .permissionAssign
  | .role (.deleteRolePermission _) => some .permissionRemove
  | .permission (.findUniqueByName _) => some .permissionRead
  | .permission (.create _) => some .permissionCreate
  | .mail _ => some .mail
  | .counter _ => some .metrics
  | .auditCreate _ => some .audit
  | _ => none

/-- Only a call in the area of user writes changes the users. -/
theorem exec_users (env : Env) (w : World) {op : Op} (h : op.area ≠ some .userWrite) :
    (exec env w op).2.users = w.users := by
  cases op with
  | user o =>
    cases o with
    | findUniqueById id => rfl
    | findUniqueByEmail email => rfl
    | count email => rfl
    | create data => exact absurd rfl h
    | update id data => exact absurd rfl h
  | jwtSign c =>
    simp only [exec]
    split
    · rfl
    · rfl
  | _ => rfl

/-- Only a call in the area of Redis changes what it holds. -/
theorem exec_redis (env : Env) (w : World) {op : Op} (h : op.area ≠ some .redis) :
    (exec env w op).2.redis = w.redis := by
  cases op with
  | redis o => exact absurd rfl h
  | jwtSign c =>
    simp only [exec]
    split
    · rfl
    · rfl
  | _ => rfl

/-- The call is auxiliary or in one of the areas. -/
def Op.within (areas : List Area) (op : Op) : Prop := ∀ a ∈ op.area, a ∈ areas

/-- Auxiliary calls are within any areas. -/
theorem Op.auxiliary.within {op : Op} (h : op.auxiliary) (areas : List Area) :
    op.within areas := by
  cases op with
  | rbac o => intro a ha; cases ha
  | hasher o =>
    cases o with
    | hash password => intro a ha; cases ha
    | verify pchstr plaintext => exact h.elim
  | system o => intro a ha; cases ha
  | jwtSign c => intro a ha; cases ha
  | _ => exact h.elim

/-- A call in a known area. -/
theorem Op.within_of_area {op : Op} {areas : List Area} {a : Area} (h : op.area = some a)
    (ha : a ∈ areas) : op.within areas := by
  intro b hb
  rw [h, Option.mem_some_iff] at hb
  rw [← hb]
  exact ha

/-- Helpers touch nothing. -/
theorem uses_within {α : Type} {p : Program α} (hp : p.Uses Op.auxiliary) (areas : List Area) :
    p.Uses (Op.within areas) := hp.mono fun _ h ↦ h.within areas

/-- A user repository that works on the users and reads their roles. -/
structure IUserRepository.Proper (users : IUserRepository) : Prop where
  findById : ∀ id, users.findById id = PrismaUserRepository.findById id
  findByEmail : ∀ email, users.findByEmail email = PrismaUserRepository.findByEmail email
  findRoles : ∀ userId, users.findRoles userId = PrismaUserRepository.findRoles userId
  update : ∀ user, users.update user = PrismaUserRepository.update user
  save : ∀ user, users.save user = PrismaUserRepository.save user ∨
    users.save user = PrismaUserRepository.update user

/-- The repository in use. -/
theorem PrismaUserRepository.proper : PrismaUserRepository.Proper where
  findById _ := rfl
  findByEmail _ := rfl
  findRoles _ := rfl
  update _ := rfl
  save _ := .inl rfl

/-- The repository whose `save` persists. -/
theorem SavingUserRepository.proper : SavingUserRepository.Proper where
  findById _ := rfl
  findByEmail _ := rfl
  findRoles _ := rfl
  update _ := rfl
  save _ := .inr rfl

namespace IUserRepository.Proper

variable {users : IUserRepository} (hu : users.Proper)
include hu

/-- A lookup by id reads users. -/
theorem findById_uses (id : Value) : (users.findById id).Uses (Op.within [.userRead]) := by
  rw [hu.findById]
  exact uses_bind (uses_perform (Op.within_of_area rfl (by simp))) fun _ ↦ trivial

/-- A lookup by email reads users. -/
theorem findByEmail_uses (email : String) :
    (users.findByEmail email).Uses (Op.within [.userRead]) := by
  rw [hu.findByEmail]
  exact uses_bind (uses_perform (Op.within_of_area rfl (by simp))) fun _ ↦ trivial

/-- A proper repository reads the roles of a user with an auxiliary call. -/
theorem findRoles_uses (userId : String) : (users.findRoles userId).Uses Op.auxiliary := by
  rw [hu.findRoles]
  exact PrismaUserRepository.findRoles_uses userId

/-- An update writes users. -/
theorem update_uses (user : User) : (users.update user).Uses (Op.within [.userWrite]) := by
  rw [hu.update]
  exact uses_perform (Op.within_of_area rfl (by simp))

/-- A save writes users. -/
theorem save_uses (user : User) : (users.save user).Uses (Op.within [.userWrite]) := by
  rcases hu.save user with h | h
  · rw [h]
    exact uses_perform (Op.within_of_area rfl (by simp))
  · rw [h]
    exact uses_perform (Op.within_of_area rfl (by simp))

end IUserRepository.Proper

/-- A call outside the area of the sessions is not on sessions. -/
theorem Op.within.besideSessions {op : Op} {areas : List Area} (h : op.within areas)
    (hs : .session ∉ areas) : op.besideSessions := by
  cases op with
  | session o => exact hs (h _ rfl)
  | _ => exact trivial

/-- A narrower footprint is within a wider one. -/
theorem Op.within.mono {op : Op} {areas areas' : List Area} (h : op.within areas)
    (hsub : ∀ a ∈ areas, a ∈ areas') : op.within areas' := fun a ha ↦ hsub a (h a ha)

/-- A narrower footprint of a program is within a wider one. -/
theorem uses_wider {α : Type} {p : Program α} {areas areas' : List Area}
    (hp : p.Uses (Op.within areas)) (hsub : ∀ a ∈ areas, a ∈ areas') :
    p.Uses (Op.within areas') := hp.mono fun _ h ↦ h.mono hsub

/-- The calls that record events: an identifier is drawn, the clock is read, and a row of one of the
events is appended to the audit log. -/
def Op.records (events : List DomainEvent) : Op → Prop
  | .system .randomUUID => True
  | .system .dateNow => True
  | .auditCreate row => ∃ event ∈ events, row.eventType = event.eventName
  | _ => False

/-- Dispatching events records them. -/
theorem dispatch_records (events : List DomainEvent) :
    (dispatch events).Uses (Op.records events) := by
  refine uses_bind (uses_each fun event hevent ↦ uses_each fun handler hh ↦ ?_) fun _ ↦ trivial
  rw [List.mem_singleton.mp hh]
  apply uses_bind (uses_perform trivial)
  intro id
  apply uses_bind (uses_perform trivial)
  intro timestamp
  exact uses_perform ⟨event, hevent, rfl⟩

/-- Dispatching events appends to the audit log. -/
theorem dispatch_uses (events : List DomainEvent) :
    (dispatch events).Uses (Op.within [.audit]) := by
  apply (dispatch_records events).mono
  intro op hop a ha
  cases op with
  | system o => cases ha
  | auditCreate row =>
    cases ha
    exact List.mem_singleton.mpr rfl
  | _ => exact hop.elim

/-- One event goes to the one handler. -/
theorem dispatch_single (event : DomainEvent) :
    dispatch [event] = ((AuditEventHandler.handle event >>= fun y ↦ pure [y]) >>=
      fun ys ↦ pure [ys]) >>= fun _ ↦ pure () := rfl

/-- A guard only reads the clock and reports denials. -/
theorem Guard.handle_uses (guard : Guard) (env : Env) (req : HttpRequest) :
    (guard.handle env dispatch req).Uses (Op.within [.audit]) := by
  refine uses_tryCatch ?_ fun _ ↦ trivial
  split
  · exact trivial
  · apply uses_bind (uses_within (JwtTokenService.verify_uses _ _) _)
    intro payload
    apply uses_bind (uses_done _ _)
    intro granted
    split
    · exact trivial
    · exact uses_bind (dispatch_uses _) fun _ ↦ trivial

/-- A session is written. -/
theorem PrismaDeviceSessionRepository.save_uses (session : DeviceSession) :
    (PrismaDeviceSessionRepository.save session).Uses (Op.within [.session]) :=
  uses_perform (Op.within_of_area rfl (by simp))

/-- A password is checked. -/
theorem Argon2PasswordHasher.verify_uses (env : Env) (pchstr plaintext : String) :
    (Argon2PasswordHasher.verify env pchstr plaintext).Uses (Op.within [.passwordCheck]) :=
  uses_tryCatch (uses_perform (Op.within_of_area rfl (by simp))) fun _ ↦ trivial

/-- A refusal only checks a password. -/
theorem LoginService.refuse_uses (env : Env) (passwordHash passwordRaw : String) :
    (LoginService.refuse env passwordHash passwordRaw).Uses (Op.within [.passwordCheck]) :=
  uses_bind (Argon2PasswordHasher.verify_uses ..) fun _ ↦ trivial

/-- Reading the roles of a user and their permissions, drawing an identifier and signing the two
tokens, in front of a program. -/
theorem issue_uses {users : IUserRepository} (hu : users.Proper) (env : Env) {α : Type}
    {allowed : Op → Prop} {userId : String} {subject : Value}
    {f : String → LoginResponse → Program α} (haux : ∀ op, op.auxiliary → allowed op)
    (hf : ∀ id tokens, (f id tokens).Uses allowed) :
    Uses allowed (do
      let directRoles ← users.findRoles userId
      let effectiveRoles ← AuthorizationEngine.resolveRoles directRoles
      let effectivePermissions ← AuthorizationEngine.resolvePermissions directRoles
      let sessionId ← SecureRandomGenerator.generateUUID
      let tokens ←
        generateTokens env (tokenPayload effectiveRoles effectivePermissions sessionId) subject
      f sessionId tokens : Program α) := by
  apply uses_bind ((hu.findRoles_uses _).mono haux)
  intro directRoles
  apply uses_bind ((AuthorizationEngine.resolveRoles_uses _).mono haux)
  intro effectiveRoles
  apply uses_bind ((AuthorizationEngine.resolvePermissions_uses _).mono haux)
  intro effectivePermissions
  apply uses_bind (SecureRandomGenerator.generateUUID_uses.mono haux)
  intro sessionId
  apply uses_bind ((generateTokens_uses ..).mono haux)
  intro tokens
  exact hf sessionId tokens

/-- Opening a session writes it and its audit event. -/
theorem LoginService.openSession_uses {users : IUserRepository} (hu : users.Proper) (env : Env)
    (r : LoginRequest) (user : User) :
    (openSession env users r user).Uses (Op.within [.session, .audit]) := by
  unfold openSession
  apply issue_uses hu env fun _ h ↦ h.within _
  intro sessionId tokens
  apply uses_bind (uses_within (expiresAt_uses ..) _)
  intro expiresAt
  apply uses_bind (uses_within SystemClock.now_uses _)
  intro createdAt
  apply uses_bind (uses_perform (Op.within_of_area rfl (by simp)))
  intro _
  exact uses_bind (uses_wider (dispatch_uses _) (by simp)) fun _ ↦ trivial

/-- A login checks a password, reads and writes users and writes sessions. -/
theorem LoginService.execute_uses {users : IUserRepository} (hu : users.Proper) (env : Env)
    (r : LoginRequest) :
    (execute env users r).Uses
      (Op.within [.passwordCheck, .userRead, .userWrite, .session, .audit]) := by
  have hrefuse : ∀ hash, (refuse env hash r.passwordRaw).Uses
      (Op.within [.passwordCheck, .userRead, .userWrite, .session, .audit]) :=
    fun hash ↦ uses_wider (refuse_uses ..) (by simp)
  have hupdate : ∀ user, (users.update user).Uses
      (Op.within [.passwordCheck, .userRead, .userWrite, .session, .audit]) :=
    fun user ↦ uses_wider (hu.update_uses user) (by simp)
  unfold execute
  dsimp only
  split
  · apply uses_bind (uses_wider (hu.findByEmail_uses _) (by simp))
    intro user
    cases user with
    | none => exact hrefuse _
    | some user =>
      dsimp only
      split
      · exact hrefuse _
      · apply uses_bind (uses_wider (Argon2PasswordHasher.verify_uses ..) (by simp))
        intro valid
        split
        · apply uses_bind (uses_done _ _)
          intro user
          apply uses_bind (hupdate user)
          intro _
          exact uses_wider (openSession_uses hu env r user) (by simp)
        · exact uses_bind (hupdate _) fun _ ↦ trivial
  · exact hrefuse _

/-- What a login does with the user that it has found, of which `T` holds: it opens a session if the
password is right, and counts a wrong one. All its other ends are refusals, which check a password
and throw. -/
theorem LoginService.ensures_execute {P : Protocol Api JsError} {s : P.Phase}
    {Q : P.Phase → LoginResponse → Prop} (T : P.Phase → User → Prop) {env : Env}
    {users : IUserRepository} {r : LoginRequest}
    (hfind : ∀ email, Ensures P s (users.findByEmail email) fun s' user ↦
      ∀ u, user = some u → T s' u)
    (hverify : ∀ s' hash, Ensures P s' (Argon2PasswordHasher.verify env hash r.passwordRaw)
      fun s'' _ ↦ ∀ u, T s' u → T s'' u)
    (hright : ∀ s' u, T s' u → Ensures P s' (rightPassword env users r u) Q)
    (hwrong : ∀ s' u, Ensures P s' (wrongPassword users u) Q) :
    Ensures P s (execute env users r) Q := by
  have hrefuse : ∀ s hash, Ensures P s (refuse env hash r.passwordRaw) Q :=
    fun s hash ↦ (hverify s hash).seq fun _ _ _ ↦ ensures_throw
  unfold execute
  dsimp only
  split
  · apply Ensures.seq (hfind _)
    intro s₁ user hfound
    cases user with
    | none => exact hrefuse _ _
    | some user =>
      dsimp only
      split
      · exact hrefuse _ _
      · apply Ensures.seq (hverify s₁ _)
        intro s₂ valid hkeeps
        split
        · exact hright s₂ user (hkeeps user (hfound user rfl))
        · exact hwrong s₂ user
  · exact hrefuse _ _

/-- A rotation writes sessions. The new session has no events to dispatch. -/
theorem RefreshTokenService.rotate_uses {users : IUserRepository} (hu : users.Proper) (env : Env)
    (userId : Value) (ip ua : String) (session : DeviceSession) (user : User) (now : Nat) :
    (rotate env users userId ip ua session user now).Uses (Op.within [.session]) := by
  unfold rotate
  apply uses_bind (uses_done _ _)
  intro session
  apply uses_bind (uses_perform (Op.within_of_area rfl (by simp)))
  intro _
  apply issue_uses hu env fun _ h ↦ h.within _
  intro newSessionId tokens
  exact uses_bind (uses_perform (Op.within_of_area rfl (by simp))) fun _ ↦ trivial

/-- The replay branch reads and writes sessions and their audit events. -/
theorem RefreshTokenService.revokeAll_uses (userId : Value) :
    (revokeAll userId).Uses (Op.within [.session, .audit]) := by
  apply uses_bind
  · exact uses_bind (uses_perform (Op.within_of_area rfl (by simp))) fun _ ↦ trivial
  · intro sessions
    refine uses_bind (uses_each fun s _ ↦ ?_) fun _ ↦ trivial
    apply uses_bind (uses_done _ _)
    intro s
    apply uses_bind (uses_perform (Op.within_of_area rfl (by simp)))
    intro _
    exact uses_wider (dispatch_uses _) (by simp)

/-- What a program does with the session that it has found: it revokes all the sessions of the user,
it rotates this one, or it throws. `S` holds from the first of the other calls on. -/
theorem RefreshTokenService.ensures_present {P : Protocol Api JsError} {s : P.Phase}
    {Q : P.Phase → LoginResponse → Prop} (S : P.Phase → Prop) {env : Env} {users : IUserRepository}
    {userId sessionId : Value} {hashedToken : Text} {ip ua : String} {session : DeviceSession}
    (hrevokeAll : Ensures P s (revokeAll userId) Q)
    (hnow : Ensures P s SystemClock.now fun s' _ ↦ S s')
    (hfind : ∀ s', S s' → Ensures P s' (users.findById userId) fun s'' _ ↦ S s'')
    (hrotate : ∀ s' user now, S s' → session.refreshToken = hashedToken →
      session.isRevoked = false →
      Ensures P s' (rotate env users userId ip ua session user now) Q) :
    Ensures P s (present env users userId sessionId hashedToken ip ua session) Q := by
  unfold present
  split
  · exact hrevokeAll
  · next hhash =>
    split
    · exact ensures_throw
    · next hrevoked =>
      split
      · exact ensures_throw
      · apply Ensures.seq hnow
        intro s₁ now hs₁
        split
        · exact ensures_throw
        · apply Ensures.seq (hfind s₁ hs₁)
          intro s₂ user hs₂
          cases user with
          | none => exact ensures_throw
          | some user =>
            dsimp only
            split
            · exact ensures_throw
            · apply hrotate s₂ user now hs₂
              · exact not_not.mp hhash
              · exact Bool.eq_false_iff.mpr hrevoked

/-- A refresh reads users and writes sessions. -/
theorem RefreshTokenService.execute_uses {users : IUserRepository} (hu : users.Proper) (env : Env)
    (token : Text) (ip ua : String) :
    (execute env users token ip ua).Uses (Op.within [.userRead, .session, .audit]) := by
  unfold execute
  apply uses_bind (uses_within (verified_uses env token) _)
  intro decoded
  apply uses_bind
  · exact uses_bind (uses_perform (Op.within_of_area rfl (by simp))) fun _ ↦ trivial
  · intro session
    cases session with
    | none => exact trivial
    | some session =>
      dsimp only [present]
      split
      · exact uses_wider (revokeAll_uses _) (by simp)
      · split
        · exact trivial
        · split
          · exact trivial
          · apply uses_bind (uses_within SystemClock.now_uses _)
            intro now
            split
            · exact trivial
            · apply uses_bind (uses_wider (hu.findById_uses _) (by simp))
              intro user
              cases user with
              | none => exact trivial
              | some user =>
                dsimp only
                split
                · exact trivial
                · exact uses_wider (rotate_uses hu env _ ip ua session user now) (by simp)

/-- Blacklisting an access token writes Redis. -/
theorem LogoutService.blacklistAccessToken_uses (env : Env) (accessToken : Text) :
    (blacklistAccessToken env accessToken).Uses (Op.within [.redis]) := by
  unfold blacklistAccessToken
  split
  · exact trivial
  · split
    · apply uses_bind (uses_within SystemClock.unix_uses _)
      intro unix
      split
      · exact trivial
      · split
        · exact uses_perform (Op.within_of_area rfl (by simp))
        · exact trivial
    · exact trivial

/-- What a logout does once the access token is blacklisted. -/
theorem LogoutService.afterBlacklist_uses (env : Env) (r : LogoutRequest) (ip ua : String) :
    Uses (Op.within [.session, .audit]) (
      if (sessionId r).truthy then do
        let deviceSession ← PrismaDeviceSessionRepository.findById (sessionId r)
        match deviceSession with
        | none => pure ()
        | some deviceSession => endSession env r ip ua deviceSession
      else throw (.domainError "Invalid tokens provided for logout") : Program Unit) := by
  split
  · apply uses_bind
    · exact uses_bind (uses_perform (Op.within_of_area rfl (by simp))) fun _ ↦ trivial
    · intro session
      cases session with
      | none => exact trivial
      | some session =>
        dsimp only [endSession]
        split
        · exact trivial
        · split
          · apply uses_bind (uses_done _ _)
            intro session
            apply uses_bind (uses_perform (Op.within_of_area rfl (by simp)))
            intro _
            exact uses_wider (dispatch_uses _) (by simp)
          · exact trivial
  · exact trivial

/-- A logout writes Redis and sessions. -/
theorem LogoutService.execute_uses (env : Env) (r : LogoutRequest) (ip ua : String) :
    (execute env r ip ua).Uses (Op.within [.redis, .session, .audit]) := by
  unfold execute
  apply uses_bind (uses_wider (blacklistAccessToken_uses _ _) (by simp))
  intro _
  exact uses_wider (afterBlacklist_uses env r ip ua) (by simp)

/-- Revoking the sessions of a user reads and writes sessions. -/
theorem ResetPasswordService.revokeSessions_uses (user : User) :
    (revokeSessions user).Uses (Op.within [.session]) := by
  apply uses_bind
  · exact uses_bind (uses_perform (Op.within_of_area rfl (by simp))) fun _ ↦ trivial
  · intro sessions
    apply uses_each
    intro session _
    apply uses_bind (uses_done _ _)
    intro session
    exact uses_bind (uses_perform (Op.within_of_area rfl (by simp))) fun _ ↦ trivial

/-- The events of a password reset go to the audit log. -/
theorem ResetPasswordService.dispatchEvents_uses (r : ResetPasswordRequest) (user : User)
    (sessions : List DeviceSession) :
    (dispatchEvents r user sessions).Uses (Op.within [.audit]) :=
  uses_bind (dispatch_uses _) fun _ ↦
    uses_bind (uses_each fun _ _ ↦ dispatch_uses _) fun _ ↦ trivial

/-- A reset token is looked up. -/
theorem PrismaPasswordResetTokenRepository.findByToken_uses (hashedToken : Text) :
    (findByToken hashedToken).Uses (Op.within [.resetLookup]) :=
  uses_bind (uses_perform (Op.within_of_area rfl (by simp))) fun _ ↦ trivial

/-- A reset token is deleted. -/
theorem PrismaPasswordResetTokenRepository.delete_uses (hashedToken : Text) :
    (delete hashedToken).Uses (Op.within [.resetDelete]) :=
  uses_tryCatch (uses_perform (Op.within_of_area rfl (by simp))) fun _ ↦ trivial

/-- What a password reset does once the user is saved. -/
theorem ResetPasswordService.afterSave_uses (r : ResetPasswordRequest) (hashedToken : Text)
    (resetToken : OneTimeToken) (user : User) :
    Uses (Op.within [.session, .resetDelete, .audit]) (do
      let now ← SystemClock.now
      let _ ← .done (PasswordResetToken.markAsUsed resetToken now)
      PrismaPasswordResetTokenRepository.delete hashedToken
      let activeSessions ← revokeSessions user
      dispatchEvents r user activeSessions : Program Unit) := by
  apply uses_bind (uses_within SystemClock.now_uses _)
  intro now
  apply uses_bind (uses_done _ _)
  intro _
  apply uses_bind (uses_wider (PrismaPasswordResetTokenRepository.delete_uses _) (by simp))
  intro _
  apply uses_bind (uses_wider (revokeSessions_uses user) (by simp))
  intro sessions
  exact uses_wider (dispatchEvents_uses ..) (by simp)

/-- A token that was found is not looked up again. -/
theorem ResetPasswordService.redeem_uses {users : IUserRepository} (hu : users.Proper) (env : Env)
    (r : ResetPasswordRequest) (hashedToken : Text) (resetToken : OneTimeToken) :
    (redeem env users r hashedToken resetToken).Uses
      (Op.within [.userRead, .userWrite, .session, .resetDelete, .audit]) := by
  unfold redeem
  apply uses_bind (uses_within SystemClock.now_uses _)
  intro now
  split
  · exact trivial
  · split
    · exact trivial
    · apply uses_bind (uses_wider (hu.findById_uses _) (by simp))
      intro user
      cases user with
      | none => exact trivial
      | some user =>
        unfold changePassword
        apply uses_bind (uses_within (Argon2PasswordHasher.hash_uses ..) _)
        intro hash
        apply uses_bind (uses_done _ _)
        intro user
        apply uses_bind (uses_wider (hu.save_uses user) (by simp))
        intro _
        exact uses_wider (afterSave_uses r _ resetToken user) (by simp)

/-- A password reset reads and writes users, sessions and reset tokens. -/
theorem ResetPasswordService.execute_uses {users : IUserRepository} (hu : users.Proper) (env : Env)
    (r : ResetPasswordRequest) :
    (execute env users r).Uses
      (Op.within [.userRead, .userWrite, .session, .resetLookup, .resetDelete, .audit]) := by
  unfold execute
  apply uses_bind (uses_wider (PrismaPasswordResetTokenRepository.findByToken_uses _) (by simp))
  intro token
  cases token with
  | none => exact trivial
  | some token => exact uses_wider (redeem_uses hu env r _ token) (by simp)

/-- A verification token is looked up. -/
theorem PrismaEmailVerificationTokenRepository.findByToken_uses (hashedToken : Text) :
    (findByToken hashedToken).Uses (Op.within [.verificationToken]) :=
  uses_bind (uses_perform (Op.within_of_area rfl (by simp))) fun _ ↦ trivial

/-- A verification token is deleted. -/
theorem PrismaEmailVerificationTokenRepository.delete_uses (hashedToken : Text) :
    (delete hashedToken).Uses (Op.within [.verificationToken]) :=
  uses_tryCatch (uses_perform (Op.within_of_area rfl (by simp))) fun _ ↦ trivial

/-- What the verification of an email does once the user is saved. -/
theorem VerifyEmailService.afterSave_uses (r : VerifyEmailRequest) (hashedToken : Text)
    (verificationToken : OneTimeToken) :
    Uses (Op.within [.verificationToken, .audit]) (do
      let now ← SystemClock.now
      let verificationToken ← .done (EmailVerificationToken.markAsUsed verificationToken now)
      PrismaEmailVerificationTokenRepository.delete hashedToken
      dispatch (withMetadata verificationToken.domainEvents r.ipAddress r.userAgent) :
        Program Unit) := by
  apply uses_bind (uses_within SystemClock.now_uses _)
  intro now
  apply uses_bind (uses_done _ _)
  intro token
  apply uses_bind (uses_wider (PrismaEmailVerificationTokenRepository.delete_uses _) (by simp))
  intro _
  exact uses_wider (dispatch_uses _) (by simp)

/-- Verifying an email reads and writes users and verification tokens. -/
theorem VerifyEmailService.execute_uses {users : IUserRepository} (hu : users.Proper) (env : Env)
    (r : VerifyEmailRequest) :
    (execute env users r).Uses
      (Op.within [.userRead, .userWrite, .verificationToken, .audit]) := by
  unfold execute
  apply uses_bind
    (uses_wider (PrismaEmailVerificationTokenRepository.findByToken_uses _) (by simp))
  intro token
  cases token with
  | none => exact trivial
  | some token =>
    apply uses_bind (uses_within SystemClock.now_uses _)
    intro now
    split
    · exact trivial
    · split
      · exact trivial
      · apply uses_bind (uses_wider (hu.findById_uses _) (by simp))
        intro user
        cases user with
        | none => exact trivial
        | some user =>
          apply uses_bind (uses_wider (hu.save_uses _) (by simp))
          intro _
          exact uses_wider (afterSave_uses r _ token) (by simp)

/-- The users with an address are counted. -/
theorem PrismaUserRepository.emailExists_uses (email : String) :
    (PrismaUserRepository.emailExists email).Uses (Op.within [.userRead]) :=
  uses_bind (uses_perform (Op.within_of_area rfl (by simp))) fun _ ↦ trivial

/-- A verification token is written. -/
theorem PrismaEmailVerificationTokenRepository.save_uses (token : OneTimeToken) :
    (PrismaEmailVerificationTokenRepository.save token).Uses (Op.within [.verificationToken]) :=
  uses_perform (Op.within_of_area rfl (by simp))

/-- A mail is sent. -/
theorem ConsoleMailer.sendPasswordReset_uses (email token : String) :
    (ConsoleMailer.sendPasswordReset email token).Uses (Op.within [.mail]) :=
  uses_perform (Op.within_of_area rfl (by simp))

/-- Issuing a token for a new password stores it and sends a mail. -/
theorem ForgotPasswordService.issueToken_uses (env : Env) (r : ForgotPasswordRequest)
    (user : User) : (issueToken env r user).Uses (Op.within [.resetIssue, .mail, .audit]) := by
  apply uses_bind (uses_within (SecureRandomGenerator.generateToken_uses 32) _)
  intro rawToken
  apply uses_bind (uses_within SystemClock.now_uses _)
  intro now
  apply uses_bind (uses_perform (Op.within_of_area rfl (by simp)))
  intro _
  apply uses_bind (uses_wider (ConsoleMailer.sendPasswordReset_uses _ _) (by simp))
  intro _
  exact uses_wider (dispatch_uses _) (by simp)

/-- A request for a reset reads users, writes a reset token and sends a mail. -/
theorem ForgotPasswordService.execute_uses (env : Env) (r : ForgotPasswordRequest) :
    (execute env r).Uses (Op.within [.userRead, .resetIssue, .mail, .audit]) := by
  unfold execute
  dsimp only
  split
  · exact trivial
  · apply uses_bind (uses_wider (PrismaUserRepository.proper.findByEmail_uses _) (by simp))
    intro user
    cases user with
    | none => exact trivial
    | some user => exact uses_wider (issueToken_uses env r user) (by simp)

/-- Issuing a verification token stores it and sends a mail. -/
theorem SendVerificationEmailService.issueToken_uses (env : Env) (user : User) :
    (issueToken env user).Uses (Op.within [.verificationToken, .mail]) := by
  apply uses_bind (uses_within (SecureRandomGenerator.generateToken_uses 32) _)
  intro rawToken
  apply uses_bind (uses_within SystemClock.now_uses _)
  intro now
  apply uses_bind (uses_wider (PrismaEmailVerificationTokenRepository.save_uses _) (by simp))
  intro _
  exact uses_perform (Op.within_of_area rfl (by simp))

/-- A request for a verification mail reads users, writes a verification token and sends a mail. -/
theorem SendVerificationEmailService.execute_uses (env : Env) (email : String) :
    (execute env email).Uses (Op.within [.userRead, .verificationToken, .mail]) := by
  unfold execute
  dsimp only
  apply uses_bind (uses_wider (PrismaUserRepository.proper.findByEmail_uses _) (by simp))
  intro user
  cases user with
  | none => exact trivial
  | some user =>
    dsimp only
    split
    · exact trivial
    · exact uses_wider (issueToken_uses env user) (by simp)

/-- The areas that a request touches. -/
def Request.areas : Request → List Area
  | .login _ => [.passwordCheck, .userRead, .userWrite, .session, .audit]
  | .refresh _ _ _ => [.userRead, .session, .audit]
  | .logout _ _ _ => [.redis, .session, .audit]
  | .resetPassword _ => [.userRead, .userWrite, .session, .resetLookup, .resetDelete, .audit]
  | .verifyEmail _ => [.userRead, .userWrite, .verificationToken, .audit]
  | .guarded _ _ => [.audit]
  | .gateway _ => []

/-- Every request stays within its areas. -/
theorem serve_uses {users : IUserRepository} (hu : users.Proper) (env : Env) (req : Request) :
    (serve env users req).Uses (Op.within req.areas) := by
  cases req with
  | login r => exact uses_bind (LoginService.execute_uses hu env r) fun _ ↦ trivial
  | refresh token ip ua =>
    exact uses_bind (RefreshTokenService.execute_uses hu env token ip ua) fun _ ↦ trivial
  | logout r ip ua => exact uses_bind (LogoutService.execute_uses env r ip ua) fun _ ↦ trivial
  | resetPassword r => exact uses_bind (ResetPasswordService.execute_uses hu env r) fun _ ↦ trivial
  | verifyEmail r => exact uses_bind (VerifyEmailService.execute_uses hu env r) fun _ ↦ trivial
  | guarded guard req => exact uses_bind (Guard.handle_uses ..) fun _ ↦ trivial
  | gateway a => exact uses_bind (uses_within (Gateway.authMiddleware_uses ..) _) fun _ ↦ trivial

end Bankos
