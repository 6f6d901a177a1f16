import Bankos.Sessions.Refresh
import Bankos.Tokens.Minted
import Mathlib.Algebra.Order.Field.Rat
import Mathlib.Data.Rat.Lemmas

/-!
# Sessions and their refresh tokens

A session is stored under the hash of a refresh token that was signed for it: the token names its
user and its id and ends when it ends. A login signs for the user it has loaded. A refresh takes the
user from the old session and the subject from the presented token, and the two agree because the
old session is bound to that token. The record of a request lists what it has been told, and
`binding` is the protocol under which sessions are written.
-/

namespace Bankos

open Js Jwt Effects Storage Prog DatabaseMapper

/-- The session is stored under the hash of the token, and the claims of the token name the user of
the session, its id and, in seconds, its end. -/
structure DeviceSessionRow.BoundTo (env : Env) (r : DeviceSessionRow) (token : Text) : Prop where
  hash : r.refreshToken = env.sha256 token
  claims : ∃ claims seconds, JwtTokenService.decode token = some claims ∧
    claims.sub = .str r.userId ∧ claims.sessionId = .str r.id ∧
    claims.exp = .num ((seconds : Nat) : Rat) ∧ r.expiresAt = seconds * 1000

/-- The session is bound to a refresh token that has been signed. -/
def World.Binds (env : Env) (w : World) (r : DeviceSessionRow) : Prop :=
  env.parseUuid r.userId = some r.userId ∧
    ∃ token, w.MintedAs .refresh token ∧ r.BoundTo env token

/-- The ids of the users are UUIDs in canonical form, and every session is bound. -/
structure World.Bound (env : Env) (w : World) : Prop where
  users : ∀ u ∈ w.users, env.parseUuid u.id = some u.id
  sessions : ∀ r ∈ w.deviceSessions, w.Binds env r

/-- A world without sessions. -/
theorem World.Bound.of_empty {env : Env} {w : World}
    (husers : ∀ u ∈ w.users, env.parseUuid u.id = some u.id) (h : w.deviceSessions = .empty) :
    w.Bound env where
  users := husers
  sessions r hr := by
    rw [h] at hr
    exact absurd hr List.not_mem_nil

/-- A session stays bound while tokens are signed. -/
theorem World.Binds.mono {env : Env} {w w' : World} {r : DeviceSessionRow} (h : w.Binds env r)
    (hminted : w.minted ⊆ w'.minted) : w'.Binds env r := by
  obtain ⟨hcanonical, token, htoken, hbound⟩ := h
  exact ⟨hcanonical, token, hminted htoken, hbound⟩

/-- A session is bound whatever its flag is. -/
theorem World.Binds.flag {env : Env} {w : World} {r : DeviceSessionRow} (h : w.Binds env r)
    (b : Bool) : w.Binds env { r with isRevoked := b } := by
  obtain ⟨hcanonical, token, htoken, hbound⟩ := h
  exact ⟨hcanonical, token, htoken, hbound.hash, hbound.claims⟩

/-- A session stays bound under an update that writes its flag. -/
theorem World.Binds.write {env : Env} {w : World} {r : DeviceSessionRow} (h : w.Binds env r)
    (id : String) (b : Bool) : w.Binds env (r.write id b) := by
  unfold DeviceSessionRow.write
  split
  · exact h.flag b
  · exact h

/-- The presented token is the one that the session is bound to, if the hashes agree. -/
theorem DeviceSessionRow.BoundTo.eq {env : Env} (hinj : Function.Injective env.sha256)
    {r : DeviceSessionRow} {token presented : Text} (h : r.BoundTo env token)
    (hhash : env.sha256 presented = r.refreshToken) : presented = token :=
  hinj (hhash.trans h.hash)

/-! ### What a request is told -/

/-- The ids of the users and the sessions that a request has loaded, and the calls of `sign` with
the tokens that they gave. -/
structure Record where
  users : List String := []
  sessions : List DeviceSessionRow := []
  signed : List (SignCall × Text) := []

namespace Record

/-- The record after the reply to a call. -/
def next (s : Record) : (op : Op) → Except JsError op.Reply → Record
  | .user (.findUniqueById _), .ok (some r) => { s with users := r.id :: s.users }
  | .user (.findUniqueByEmail _), .ok (some r) => { s with users := r.id :: s.users }
  | .session (.findUniqueById _), .ok (some r) => { s with sessions := r :: s.sessions }
  | .session (.findUniqueByRefreshToken _), .ok (some r) => { s with sessions := r :: s.sessions }
  | .session (.findManyActive _), .ok rs => { s with sessions := rs ++ s.sessions }
  | .jwtSign c, .ok token => { s with signed := (c, token) :: s.signed }
  | _, _ => s

/-- The subject of the call is the user: the user was loaded, or it is the user of a loaded session
and the subject is that of a token with the hash of this session. -/
def Names (env : Env) (s : Record) (c : SignCall) (userId : String) : Prop :=
  c.subject = .str userId ∧ userId ∈ s.users ∨
    ∃ old ∈ s.sessions, old.userId = userId ∧ ∃ presented claims,
      JwtTokenService.decode presented = some claims ∧
        env.sha256 presented = old.refreshToken ∧ c.subject = claims.sub

/-- The session is stored for a refresh token that was signed for it. -/
def Opens (env : Env) (s : Record) (row : DeviceSessionRow) : Prop :=
  ∃ c token, (c, token) ∈ s.signed ∧ c.use = .refresh ∧
    c.expiresIn = env.config.refreshExpiration.seconds ∧ row.refreshToken = env.sha256 token ∧
    c.payload.sessionId = .str row.id ∧ (∀ e, decodedEnd env token = some e → row.expiresAt = e) ∧
    s.Names env c row.userId

/-- The session was loaded and is revoked. -/
def Revokes (s : Record) (row : DeviceSessionRow) : Prop :=
  ∃ r ∈ s.sessions, row = { r with isRevoked := true }

/-- The writes of sessions and the creations of users. -/
def allows (env : Env) (s : Record) : Op → Prop
  | .session (.upsert row) => s.Opens env row ∨ s.Revokes row
  | .user (.create data) => data.id ∈ s.users
  | _ => True

/-- The record `s'` has at least what is in `s`. -/
structure Extends (s s' : Record) : Prop where
  users : s.users ⊆ s'.users
  sessions : s.sessions ⊆ s'.sessions
  signed : s.signed ⊆ s'.signed

/-- A record has what is in it. -/
theorem Extends.refl (s : Record) : s.Extends s :=
  ⟨List.Subset.refl _, List.Subset.refl _, List.Subset.refl _⟩

/-- What is in a record is in one that extends another extension of it. -/
theorem Extends.trans {s s' s'' : Record} (h : s.Extends s') (h' : s'.Extends s'') :
    s.Extends s'' :=
  ⟨List.Subset.trans h.users h'.users, List.Subset.trans h.sessions h'.sessions,
    List.Subset.trans h.signed h'.signed⟩

/-- A reply tells nothing, or it tells of a user, of sessions or of a token. -/
inductive Hears (s : Record) : (op : Op) → Except JsError op.Reply → Record → Prop
  | nothing (op : Op) (r : Except JsError op.Reply) : Hears s op r s
  | userById (id : Value) (r : UserRow) :
    Hears s (.user (.findUniqueById id)) (.ok (some r)) { s with users := r.id :: s.users }
  | userByEmail (email : String) (r : UserRow) :
    Hears s (.user (.findUniqueByEmail email)) (.ok (some r)) { s with users := r.id :: s.users }
  | sessionById (id : Value) (r : DeviceSessionRow) :
    Hears s (.session (.findUniqueById id)) (.ok (some r)) { s with sessions := [r] ++ s.sessions }
  | sessionByToken (h : Text) (r : DeviceSessionRow) :
    Hears s (.session (.findUniqueByRefreshToken h)) (.ok (some r))
      { s with sessions := [r] ++ s.sessions }
  | active (userId : Value) (rs : List DeviceSessionRow) :
    Hears s (.session (.findManyActive userId)) (.ok rs) { s with sessions := rs ++ s.sessions }
  | signed (c : SignCall) (token : Text) :
    Hears s (.jwtSign c) (.ok token) { s with signed := (c, token) :: s.signed }

/-- What the record takes from a reply. -/
theorem hears_next (s : Record) (op : Op) (r : Except JsError op.Reply) :
    s.Hears op r (s.next op r) := by
  cases op with
  | user o =>
    cases o with
    | findUniqueById id =>
      rcases r with e | (_ | r)
      · exact .nothing _ _
      · exact .nothing _ _
      · exact .userById id r
    | findUniqueByEmail email =>
      rcases r with e | (_ | r)
      · exact .nothing _ _
      · exact .nothing _ _
      · exact .userByEmail email r
    | _ => exact .nothing _ _
  | session o =>
    cases o with
    | findUniqueById id =>
      rcases r with e | (_ | r)
      · exact .nothing _ _
      · exact .nothing _ _
      · exact .sessionById id r
    | findUniqueByRefreshToken h =>
      rcases r with e | (_ | r)
      · exact .nothing _ _
      · exact .nothing _ _
      · exact .sessionByToken h r
    | findManyActive userId =>
      cases r with
      | error e => exact .nothing _ _
      | ok rs => exact .active userId rs
    | upsert row => exact .nothing _ _
  | jwtSign c =>
    cases r with
    | error e => exact .nothing _ _
    | ok token => exact .signed c token
  | _ => exact .nothing _ _

/-- What was told before stays. -/
theorem Hears.extends {s s' : Record} {op : Op} {r : Except JsError op.Reply}
    (h : s.Hears op r s') : s.Extends s' := by
  have huser : ∀ id, s.Extends { s with users := id :: s.users } :=
    fun id ↦ ⟨List.subset_cons_self _ _, List.Subset.refl _, List.Subset.refl _⟩
  have hsessions : ∀ rs, s.Extends { s with sessions := rs ++ s.sessions } :=
    fun rs ↦ ⟨List.Subset.refl _, List.subset_append_right _ _, List.Subset.refl _⟩
  cases h with
  | nothing => exact .refl s
  | userById id r => exact huser r.id
  | userByEmail email r => exact huser r.id
  | sessionById id r => exact hsessions [r]
  | sessionByToken h r => exact hsessions [r]
  | active userId rs => exact hsessions rs
  | signed c token => exact ⟨List.Subset.refl _, List.Subset.refl _, List.subset_cons_self _ _⟩

/-- A reply leaves what was told before. -/
theorem extends_next (s : Record) (op : Op) (r : Except JsError op.Reply) :
    s.Extends (s.next op r) := (s.hears_next op r).extends

/-- A failed call tells nothing. -/
theorem next_error (s : Record) (op : Op) (e : JsError) : s.next op (.error e) = s := by
  cases op with
  | user o => cases o <;> rfl
  | session o => cases o <;> rfl
  | _ => rfl

end Record

/-- The discipline of the sessions and their tokens. -/
abbrev binding (env : Env) : Protocol Api JsError where
  Phase := Record
  allows := Record.allows env
  next := Record.next

/-- The calls that the discipline never restricts. -/
def Op.unbound : Op → Prop
  | .session (.upsert _) => False
  | .user (.create _) => False
  | _ => True

/-- Calls outside the sessions and the writes of users are not restricted. -/
theorem Op.within.unbound {op : Op} {areas : List Area} (h : op.within areas)
    (hs : .session ∉ areas) (hw : .userWrite ∉ areas) : op.unbound := by
  cases op with
  | session o => exact absurd (h _ rfl) hs
  | user o =>
    cases o with
    | create data => exact absurd (h _ rfl) hw
    | _ => trivial
  | _ => trivial

section Rules

variable {α β : Type} {env : Env} {s : Record}

/-- A program without a restricted call extends the record. -/
theorem ensures_records {p : Program α} (hp : p.Uses Op.unbound) :
    Ensures (binding env) s p fun s' _ ↦ s.Extends s' := by
  apply hp.ensures (P := binding env) fun s' ↦ s.Extends s'
  · intro s' op hs hop
    constructor
    · cases op with
      | session o =>
        cases o with
        | upsert row => exact hop.elim
        | _ => trivial
      | user o =>
        cases o with
        | create data => exact hop.elim
        | _ => trivial
      | _ => trivial
    · intro r
      exact hs.trans (s'.extends_next op r)
  · exact .refl s

/-- A program without a restricted call, in front of another one. -/
theorem ensures_unbound {p : Program α} {f : α → Program β} {Q : Record → β → Prop}
    (hp : p.Uses Op.unbound)
    (hf : ∀ s' a, s.Extends s' → Ensures (binding env) s' (f a) Q) :
    Ensures (binding env) s (p >>= f) Q :=
  Ensures.seq (ensures_records hp) hf

/-- Auxiliary calls are not restricted. -/
theorem uses_unbound {p : Program α} (hp : p.Uses Op.auxiliary) : p.Uses Op.unbound :=
  hp.mono fun _ h ↦ (h.within []).unbound (by simp) (by simp)

/-- Events are dispatched without a restricted call. -/
theorem dispatch_unbound (events : List DomainEvent) : (dispatch events).Uses Op.unbound :=
  (dispatch_uses events).mono fun _ h ↦ h.unbound (by simp) (by simp)

/-- Auxiliary calls in front of a program. -/
theorem ensures_aux {p : Program α} {f : α → Program β} {Q : Record → β → Prop}
    (hp : p.Uses Op.auxiliary)
    (hf : ∀ s' a, s.Extends s' → Ensures (binding env) s' (f a) Q) :
    Ensures (binding env) s (p >>= f) Q :=
  ensures_unbound (uses_unbound hp) hf

/-- A step that throws or returns a value without a call, in front of a program. -/
theorem ensures_value {r : Except JsError α} {f : α → Program β} {Q : Record → β → Prop}
    (hf : ∀ a, r = .ok a → Ensures (binding env) s (f a) Q) :
    Ensures (binding env) s ((done r : Program α) >>= f) Q :=
  Ensures.bind (ensures_done hf)

/-- A lookup by id gives the id of a user. -/
theorem ensures_findUser {users : IUserRepository} (hu : users.Proper) (id : Value) :
    Ensures (binding env) s (users.findById id) fun s' user ↦
      s.Extends s' ∧ ∀ u, user = some u → u.id ∈ s'.users := by
  rw [hu.findById]
  apply Ensures.bind
  apply ensures_perform trivial
  intro record
  apply ensures_pure
  refine ⟨s.extends_next (.user (.findUniqueById id)) (.ok record), ?_⟩
  intro u h
  cases record with
  | none => cases h
  | some r =>
    cases h
    exact List.mem_cons_self

/-- A lookup by email gives the id of a user. -/
theorem ensures_findByEmail {users : IUserRepository} (hu : users.Proper) (email : String) :
    Ensures (binding env) s (users.findByEmail email) fun s' user ↦
      ∀ u, user = some u → u.id ∈ s'.users := by
  rw [hu.findByEmail]
  apply Ensures.bind
  apply ensures_perform trivial
  intro record
  apply ensures_pure
  intro u h
  cases record with
  | none => cases h
  | some r =>
    cases h
    exact List.mem_cons_self

/-- A lookup by token hash loads the session. -/
theorem ensures_findSession (h : Text) :
    Ensures (binding env) s (PrismaDeviceSessionRepository.findByRefreshToken h) fun s' session ↦
      ∀ ds, session = some ds → toPrismaDeviceSession ds ∈ s'.sessions := by
  apply Ensures.bind
  apply ensures_perform trivial
  intro record
  apply ensures_pure
  intro ds hds
  cases record with
  | none => cases hds
  | some r =>
    cases hds
    exact List.mem_cons_self

/-- A lookup by id loads the session. -/
theorem ensures_findSessionById (id : Value) :
    Ensures (binding env) s (PrismaDeviceSessionRepository.findById id) fun s' session ↦
      ∀ ds, session = some ds → toPrismaDeviceSession ds ∈ s'.sessions := by
  apply Ensures.bind
  apply ensures_perform trivial
  intro record
  apply ensures_pure
  intro ds hds
  cases record with
  | none => cases hds
  | some r =>
    cases hds
    exact List.mem_cons_self

/-- The active sessions of a user are loaded. -/
theorem ensures_findActive (userId : Value) :
    Ensures (binding env) s (PrismaDeviceSessionRepository.findActiveSessions userId)
      fun s' sessions ↦ ∀ ds ∈ sessions, toPrismaDeviceSession ds ∈ s'.sessions := by
  apply Ensures.bind
  apply ensures_perform trivial
  intro rows
  apply ensures_pure
  intro ds hds
  obtain ⟨r, hr, rfl⟩ := List.mem_map.mp hds
  exact List.mem_append_left _ hr

/-- A loaded session is saved once it has been revoked. -/
theorem ensures_saveEnded {session session' : DeviceSession} {reason : String}
    (hload : toPrismaDeviceSession session ∈ s.sessions)
    (hrev : session.revoke reason = .ok session') :
    Ensures (binding env) s (PrismaDeviceSessionRepository.save session') fun s' _ ↦ s' = s := by
  obtain ⟨-, rfl⟩ := DeviceSession.revoke_ok hrev
  apply ensures_perform
  · exact .inr ⟨_, hload, rfl⟩
  · intro _
    rfl

/-- Each of some loaded sessions is revoked, saved and passed on. -/
theorem ensures_endEach {γ : Type} {sessions : List DeviceSession} {reason : String}
    {f : DeviceSession → Program γ}
    (hload : ∀ ds ∈ sessions, toPrismaDeviceSession ds ∈ s.sessions)
    (hf : ∀ ds, (f ds).Uses Op.unbound) :
    Ensures (binding env) s
      (each sessions fun ds ↦ do
        let ds ← (done (ds.revoke reason) : Program DeviceSession)
        PrismaDeviceSessionRepository.save ds
        f ds)
      fun s' _ ↦ s.Extends s' := by
  apply ensures_each (P := binding env) fun s' ↦ s.Extends s'
  · exact .refl s
  · intro ds hds s' hs'
    apply ensures_value
    intro ds' hds'
    apply Ensures.seq (ensures_saveEnded (hs'.sessions (hload ds hds)) hds')
    rintro _ _ rfl
    apply (ensures_records (hf ds')).mono
    intro s'' _ hs''
    exact hs'.trans hs''

/-- A loaded user is saved. -/
theorem ensures_saveUser {users : IUserRepository} (hu : users.Proper) (user : User)
    (hload : user.id ∈ s.users) :
    Ensures (binding env) s (users.save user) fun s' _ ↦ s' = s := by
  rcases hu.save user with h | h
  · rw [h]
    apply ensures_perform
    · exact hload
    · intro _
      rfl
  · rw [h]
    apply ensures_perform
    · exact trivial
    · intro _
      rfl

/-- The pair of tokens is signed for the subject and the payload. -/
theorem ensures_generateTokens (payload : Claims) (subject : Value) :
    Ensures (binding env) s (generateTokens env payload subject) fun s' tokens ↦
      s.Extends s' ∧ ∃ c, (c, tokens.refreshToken) ∈ s'.signed ∧ c.use = .refresh ∧
        c.expiresIn = env.config.refreshExpiration.seconds ∧ c.payload = payload ∧
        c.subject = subject := by
  unfold generateTokens
  apply ensures_aux (JwtTokenService.sign_uses ..)
  intro s₁ accessToken h₁
  apply Ensures.bind
  apply ensures_perform trivial
  intro refreshToken
  apply ensures_pure
  constructor
  · exact h₁.trans (s₁.extends_next (.jwtSign _) (.ok refreshToken))
  · exact ⟨_, List.mem_cons_self, rfl, rfl, rfl, rfl⟩

end Rules

/-! ### The services -/

section Services

variable {env : Env} {users : IUserRepository} {s : Record}

/-- The end of the new session is that of its token, if the token has one. -/
theorem LoginService.expiresAt_binds (refreshToken : Text) :
    Ensures (binding env) s (expiresAt env refreshToken) fun s' expiresAt ↦
      s.Extends s' ∧ ∀ e, decodedEnd env refreshToken = some e → expiresAt = e := by
  unfold expiresAt
  split
  · next t ht =>
    apply ensures_pure
    refine ⟨.refl s, ?_⟩
    intro e he
    rw [ht] at he
    exact Option.some.inj he
  · next ht =>
    apply ensures_aux SystemClock.now_uses
    intro s' now hs'
    apply ensures_pure
    refine ⟨hs', ?_⟩
    intro e he
    rw [ht] at he
    cases he

/-- A login opens a session for the user it has loaded. -/
theorem LoginService.openSession_binds (hu : users.Proper) (r : LoginRequest) {user : User}
    (hload : user.id ∈ s.users) :
    Ensures (binding env) s (openSession env users r user) fun _ _ ↦ True := by
  unfold openSession
  rw [hu.findRoles]
  apply ensures_aux (PrismaUserRepository.findRoles_uses _)
  intro s₁ directRoles h₁
  apply ensures_aux (AuthorizationEngine.resolveRoles_uses _)
  intro s₂ effectiveRoles h₂
  apply ensures_aux (AuthorizationEngine.resolvePermissions_uses _)
  intro s₃ effectivePermissions h₃
  apply ensures_aux SecureRandomGenerator.generateUUID_uses
  intro s₄ sessionId h₄
  apply Ensures.seq (ensures_generateTokens _ _)
  rintro s₅ tokens ⟨h₅, c, hc, huse, hexpires, hpayload, hsubject⟩
  apply Ensures.seq (expiresAt_binds tokens.refreshToken)
  rintro s₆ expiresAt ⟨h₆, hend⟩
  apply ensures_aux SystemClock.now_uses
  intro s₇ createdAt h₇
  have hall := ((((h₁.trans h₂).trans h₃).trans h₄).trans h₅).trans (h₆.trans h₇)
  apply Ensures.seq (Q := fun _ _ ↦ True)
  · apply ensures_perform
    · refine .inl ⟨c, tokens.refreshToken, h₇.signed (h₆.signed hc), huse, hexpires, rfl, ?_, hend,
        .inl ⟨hsubject, hall.users hload⟩⟩
      rw [hpayload]
      rfl
    · intro _
      trivial
  · intro s₈ _ _
    apply ensures_unbound (dispatch_unbound _)
    intro _ _ _
    exact ensures_pure trivial

/-- A login keeps to the discipline. -/
theorem LoginService.execute_binds (hu : users.Proper) (r : LoginRequest) :
    Ensures (binding env) s (execute env users r) fun _ _ ↦ True := by
  have hupdate : ∀ user, (users.update user).Uses Op.unbound := by
    intro user
    rw [hu.update]
    exact uses_perform trivial
  apply ensures_execute fun (s : Record) user ↦ user.id ∈ s.users
  · exact ensures_findByEmail hu
  · intro s hash
    have huses : (Argon2PasswordHasher.verify env hash r.passwordRaw).Uses Op.unbound :=
      (Argon2PasswordHasher.verify_uses ..).mono fun _ h ↦ h.unbound (by simp) (by simp)
    exact (ensures_records huses).mono fun _ _ h _ hload ↦ h.users hload
  · intro s user hload
    unfold rightPassword
    apply ensures_value
    intro user' huser'
    apply ensures_unbound (hupdate user')
    intro s' _ h
    apply openSession_binds hu
    rw [(User.recordLogin_ok huser').2]
    exact h.users hload
  · intro s user
    unfold wrongPassword
    apply ensures_unbound (hupdate _)
    intro _ _ _
    exact ensures_throw

/-- The verified claims of a refresh token are those that decode from it. -/
theorem RefreshTokenService.verified_binds (token : Text) :
    Ensures (binding env) s (verified env token) fun s' claims ↦
      s.Extends s' ∧ JwtTokenService.decode token = some claims := by
  refine ⟨trivial, fun r ↦ ?_⟩
  cases r with
  | error e => exact ensures_throw
  | ok now =>
    change Ensures (binding env) s
      (MonadExcept.tryCatch (done (JwtTokenService.verifyAt env token now)) _) _
    cases h : JwtTokenService.verifyAt env token now with
    | error e => exact ensures_throw
    | ok claims => exact ensures_pure ⟨.refl s, JwtTokenService.decode_of_verifyAt h⟩

/-- The replay branch ends loaded sessions. -/
theorem RefreshTokenService.revokeAll_binds (userId : Value) :
    Ensures (binding env) s (revokeAll userId) fun _ _ ↦ True := by
  unfold revokeAll
  apply Ensures.seq (ensures_findActive userId)
  intro s' sessions hload
  apply Ensures.seq (ensures_endEach hload fun _ ↦ dispatch_unbound _)
  intro _ _ _
  exact ensures_throw

/-- A rotation opens a session for the user of the old one, whose subject is that of the token with
the hash of the old one. -/
theorem RefreshTokenService.rotate_binds (hu : users.Proper) (ip ua : String) {token : Text}
    {claims : Claims} {session : DeviceSession} (user : User) (now : Nat)
    (hload : toPrismaDeviceSession session ∈ s.sessions)
    (hdecode : JwtTokenService.decode token = some claims)
    (hhash : session.refreshToken = env.sha256 token) :
    Ensures (binding env) s (rotate env users claims.sub ip ua session user now)
      fun _ _ ↦ True := by
  unfold rotate
  apply ensures_value
  intro session' hrev
  apply Ensures.seq (ensures_saveEnded hload hrev)
  rintro _ _ rfl
  obtain ⟨-, rfl⟩ := DeviceSession.revoke_ok hrev
  rw [hu.findRoles]
  apply ensures_aux (PrismaUserRepository.findRoles_uses _)
  intro s₁ directRoles h₁
  apply ensures_aux (AuthorizationEngine.resolveRoles_uses _)
  intro s₂ effectiveRoles h₂
  apply ensures_aux (AuthorizationEngine.resolvePermissions_uses _)
  intro s₃ effectivePermissions h₃
  apply ensures_aux SecureRandomGenerator.generateUUID_uses
  intro s₄ newSessionId h₄
  apply Ensures.seq (ensures_generateTokens _ _)
  rintro s₅ tokens ⟨h₅, c, hc, huse, hexpires, hpayload, hsubject⟩
  have hall := (((h₁.trans h₂).trans h₃).trans h₄).trans h₅
  apply Ensures.seq (Q := fun _ _ ↦ True)
  · apply ensures_perform
    · refine .inl ⟨c, tokens.refreshToken, hc, huse, hexpires, rfl, ?_, ?_, .inr
        ⟨_, hall.sessions hload, rfl, token, claims, hdecode, hhash.symm, hsubject⟩⟩
      · rw [hpayload]
        rfl
      · intro e he
        change (decodedEnd env tokens.refreshToken).getD _ = e
        rw [he]
        rfl
    · intro _
      trivial
  · intro s₆ _ _
    apply ensures_unbound (dispatch_unbound _)
    intro _ _ _
    exact ensures_pure trivial

/-- A refresh keeps to the discipline. -/
theorem RefreshTokenService.execute_binds (hu : users.Proper) (token : Text) (ip ua : String) :
    Ensures (binding env) s (execute env users token ip ua) fun _ _ ↦ True := by
  unfold execute
  apply Ensures.seq (verified_binds token)
  rintro s₁ claims ⟨-, hdecode⟩
  apply Ensures.seq (ensures_findSession _)
  intro s₂ session hload
  cases session with
  | none => exact ensures_throw
  | some session =>
    apply ensures_present (fun s ↦ s₂.Extends s)
    · exact revokeAll_binds _
    · exact ensures_records (uses_unbound SystemClock.now_uses)
    · intro s hs
      exact (ensures_findUser hu claims.sub).mono fun _ _ h ↦ hs.trans h.1
    · intro s user now hs hhash _
      apply rotate_binds hu ip ua user now _ hdecode hhash
      exact hs.sessions (hload session rfl)

/-- A logout ends a session that it has loaded. -/
theorem LogoutService.execute_binds (r : LogoutRequest) (ip ua : String) :
    Ensures (binding env) s (execute env r ip ua) fun _ _ ↦ True := by
  unfold execute
  apply ensures_unbound ((blacklistAccessToken_uses ..).mono fun _ h ↦
    h.unbound (by simp) (by simp))
  intro s₁ _ _
  split
  · apply Ensures.seq (ensures_findSessionById _)
    intro s₂ session hload
    cases session with
    | none => exact ensures_pure trivial
    | some session =>
      dsimp only [endSession]
      split
      · exact ensures_pure trivial
      · split
        · apply ensures_value
          intro session' hrev
          apply Ensures.seq (ensures_saveEnded (hload session rfl) hrev)
          rintro _ _ rfl
          apply (ensures_records (dispatch_unbound _)).mono
          intro _ _ _
          trivial
        · exact ensures_throw
  · exact ensures_throw

/-- A password reset ends the sessions that it has loaded. -/
theorem ResetPasswordService.revokeSessions_binds (user : User) :
    Ensures (binding env) s (revokeSessions user) fun _ _ ↦ True := by
  unfold revokeSessions
  apply Ensures.seq (ensures_findActive _)
  intro s' sessions hload
  apply (ensures_endEach hload fun _ ↦ uses_done _ _).mono
  intro _ _ _
  trivial

/-- The user that was loaded is saved with the new password. -/
theorem ResetPasswordService.changePassword_binds (hu : users.Proper) (r : ResetPasswordRequest)
    (hashedToken : Text) (resetToken : OneTimeToken) {user : User} (hload : user.id ∈ s.users) :
    Ensures (binding env) s (changePassword env users r hashedToken resetToken user)
      fun _ _ ↦ True := by
  unfold changePassword
  apply ensures_aux (Argon2PasswordHasher.hash_uses ..)
  intro s₁ newPasswordHash h₁
  apply ensures_value
  intro user' huser'
  apply Ensures.seq (ensures_saveUser hu user' ?_)
  · rintro s₂ _ -
    apply ensures_aux SystemClock.now_uses
    intro s₃ now _
    apply ensures_value
    intro _ _
    apply ensures_unbound ((PrismaPasswordResetTokenRepository.delete_uses _).mono fun _ h ↦
      h.unbound (by simp) (by simp))
    intro s₄ _ _
    apply Ensures.seq (revokeSessions_binds user')
    intro s₅ sessions _
    unfold dispatchEvents
    apply ensures_unbound (dispatch_unbound _)
    intro _ _ _
    apply ensures_unbound (uses_each fun _ _ ↦ dispatch_unbound _)
    intro _ _ _
    exact ensures_pure trivial
  · rw [(User.changePassword_ok huser').2.1]
    exact h₁.users hload

/-- A password reset saves the user and ends the sessions that it has loaded. -/
theorem ResetPasswordService.execute_binds (hu : users.Proper) (r : ResetPasswordRequest) :
    Ensures (binding env) s (execute env users r) fun _ _ ↦ True := by
  unfold execute
  apply ensures_unbound ((PrismaPasswordResetTokenRepository.findByToken_uses _).mono fun _ h ↦
    h.unbound (by simp) (by simp))
  intro s₁ resetToken _
  cases resetToken with
  | none => exact ensures_throw
  | some resetToken =>
    dsimp only [redeem]
    apply ensures_aux SystemClock.now_uses
    intro s₂ now _
    split
    · exact ensures_throw
    · split
      · exact ensures_throw
      · apply Ensures.seq (ensures_findUser hu _)
        rintro s₃ user ⟨-, huser⟩
        cases user with
        | none => exact ensures_throw
        | some user => exact changePassword_binds hu r _ resetToken (huser user rfl)

/-- A verification of an email saves the user that it has loaded. -/
theorem VerifyEmailService.execute_binds (hu : users.Proper) (r : VerifyEmailRequest) :
    Ensures (binding env) s (execute env users r) fun _ _ ↦ True := by
  have htokens : ∀ {α : Type} {p : Program α}, p.Uses (Op.within [.verificationToken]) →
      p.Uses Op.unbound := fun hp ↦ hp.mono fun _ h ↦ h.unbound (by simp) (by simp)
  unfold execute
  apply ensures_unbound (htokens (PrismaEmailVerificationTokenRepository.findByToken_uses _))
  intro s₁ verificationToken _
  cases verificationToken with
  | none => exact ensures_throw
  | some verificationToken =>
    dsimp only
    apply ensures_aux SystemClock.now_uses
    intro s₂ now _
    split
    · exact ensures_throw
    · split
      · exact ensures_throw
      · apply Ensures.seq (ensures_findUser hu _)
        rintro s₃ user ⟨-, huser⟩
        cases user with
        | none => exact ensures_throw
        | some user =>
          dsimp only [verifyEmail]
          apply Ensures.seq (ensures_saveUser hu user.verifyEmail ?_)
          · rintro s₄ _ -
            apply ensures_aux SystemClock.now_uses
            intro s₅ now _
            apply ensures_value
            intro _ _
            apply ensures_unbound (htokens (PrismaEmailVerificationTokenRepository.delete_uses _))
            intro s₆ _ _
            apply (ensures_records (dispatch_unbound _)).mono
            intro _ _ _
            trivial
          · rw [(User.verifyEmail_spec user).1]
            exact huser user rfl

/-- Every request keeps to the discipline. -/
theorem serve_binds (hu : users.Proper) (req : Request) :
    Ensures (binding env) s (serve env users req) fun _ _ ↦ True := by
  have hrecords : ∀ {α : Type} {p : Program α}, p.Uses Op.unbound →
      Ensures (binding env) s p fun _ _ ↦ True :=
    fun hp ↦ (ensures_records hp).mono fun _ _ _ ↦ trivial
  cases req with
  | login r => exact ensures_respond (LoginService.execute_binds hu r)
  | refresh token ip ua => exact ensures_respond (RefreshTokenService.execute_binds hu token ip ua)
  | logout r ip ua => exact ensures_respond (LogoutService.execute_binds r ip ua)
  | resetPassword r => exact ensures_respond (ResetPasswordService.execute_binds hu r)
  | verifyEmail r => exact ensures_respond (VerifyEmailService.execute_binds hu r)
  | guarded guard req =>
    exact ensures_respond (hrecords ((Guard.handle_uses ..).mono
      fun _ h ↦ h.unbound (by simp) (by simp)))
  | gateway a => exact ensures_respond (hrecords (uses_unbound (Gateway.authMiddleware_uses ..)))

end Services

/-! ### One call -/

/-- The end of a session that is computed from a token is in its claims. -/
theorem decodedEnd_of_exp {env : Env} {token : Text} {claims : Claims} {seconds : Nat}
    (hdecode : JwtTokenService.decode token = some claims)
    (hexp : claims.exp = .num ((seconds : Nat) : Rat)) (hpos : 0 < seconds) :
    decodedEnd env token = some (seconds * 1000) := by
  have hne : ((seconds : Nat) : Rat) ≠ 0 := by
    exact_mod_cast Nat.ne_of_gt hpos
  have hfloor : (((seconds : Nat) : Rat) * 1000).floor.toNat = seconds * 1000 := by
    have hcast : ((seconds : Nat) : Rat) * 1000 = (((seconds * 1000 : Nat) : Int) : Rat) := by
      push_cast
      rfl
    rw [hcast, Rat.floor_intCast, Int.toNat_natCast]
  unfold decodedEnd
  rw [hdecode]
  dsimp only
  rw [hexp, if_pos (by simp [Value.truthy, hne])]
  simp only [Value.toNumber, Option.map_some]
  exact congrArg some hfloor

section Step

variable {env : Env} {start : Nat} {w : World} {s : Record}

/-- What a request has been told is so in the world: the users have canonical ids, the sessions are
bound, and the tokens were signed after the time `start`. -/
structure Record.Fits (env : Env) (start : Nat) (w : World) (s : Record) : Prop where
  users : ∀ u ∈ s.users, env.parseUuid u = some u
  sessions : ∀ r ∈ s.sessions, w.Binds env r
  signed : ∀ c token, (c, token) ∈ s.signed → w.MintedAs c.use token ∧
    ∃ now draws, start ≤ now ∧ c.exec env now draws = .ok token

/-- What a request has been told stays so while tokens are signed. -/
theorem Record.Fits.mono {w' : World} (hs : s.Fits env start w) (hminted : w.minted ⊆ w'.minted) :
    s.Fits env start w' where
  users := hs.users
  sessions r hr := (hs.sessions r hr).mono hminted
  signed c token h := by
    obtain ⟨hused, hsign⟩ := hs.signed c token h
    exact ⟨hminted hused, hsign⟩

/-- A new session is bound to the token that was signed for it. -/
theorem Record.Opens.binds (hinj : Function.Injective env.sha256)
    (hpos : 0 < start / 1000 + env.config.refreshExpiration.seconds)
    (hs : s.Fits env start w) {row : DeviceSessionRow} (h : s.Opens env row) :
    w.Binds env row := by
  obtain ⟨c, token, hc, huse, hexpires, hhash, hsession, hend, hnames⟩ := h
  obtain ⟨hminted, now, draws, hnow, hsign⟩ := hs.signed c token hc
  have hdecode := Jwt.decode_sign hsign
  -- the subject is the user of the row, and its id is canonical
  have huser : env.parseUuid row.userId = some row.userId ∧ c.subject = .str row.userId := by
    rcases hnames with ⟨hsubject, hknown⟩ |
      ⟨old, hold, huserId, presented, claims, hclaims, hpresented, hsubject⟩
    · exact ⟨hs.users _ hknown, hsubject⟩
    · obtain ⟨hcanonical, bound, -, hbound⟩ := hs.sessions old hold
      obtain ⟨claims', seconds, hclaims', hsub, -⟩ := hbound.claims
      rw [← hbound.eq hinj hpresented, hclaims, Option.some.injEq] at hclaims'
      rw [← huserId, hsubject, hclaims', hsub]
      exact ⟨hcanonical, rfl⟩
  have hseconds : 0 < now / 1000 + c.expiresIn := by
    have hle : start / 1000 ≤ now / 1000 := Nat.div_le_div_right hnow
    rw [hexpires]
    omega
  refine ⟨huser.1, token, huse ▸ hminted, hhash, _, now / 1000 + c.expiresIn, hdecode, huser.2,
    hsession, rfl, ?_⟩
  exact hend _ (decodedEnd_of_exp hdecode rfl hseconds)

/-- Every user after a call was one before or was created by it. -/
theorem exec_users_ids (env : Env) (w : World) (op : Op) :
    ∀ u ∈ (exec env w op).2.users, (∃ v ∈ w.users, v.id = u.id) ∨
      ∃ data, op = .user (.create data) ∧ data.id = u.id := by
  intro u hu
  cases op with
  | user o =>
    cases o with
    | create data =>
      simp only [exec, UserOp.exec] at hu
      cases hi : w.users.insert data with
      | none =>
        rw [hi] at hu
        exact .inl ⟨u, hu, rfl⟩
      | some t =>
        rw [hi] at hu
        rcases (Table.mem_insert hi).mp hu with hu | rfl
        · exact .inl ⟨u, hu, rfl⟩
        · exact .inr ⟨u, rfl, rfl⟩
    | update id data =>
      rcases UserOp.exec_update env w.users id data with he | ⟨-, he⟩
      · simp only [exec, he] at hu
        obtain ⟨v, hv, rfl⟩ := UserTable.mem_write.mp hu
        exact .inl ⟨v, hv, (UserRow.write_keys id data v).1.symm⟩
      · simp only [exec, he] at hu
        exact .inl ⟨u, hu, rfl⟩
    | _ => exact .inl ⟨u, hu, rfl⟩
  | jwtSign c =>
    simp only [exec] at hu
    cases hsign : c.exec env w.now w.draws with
    | error e =>
      rw [hsign] at hu
      exact .inl ⟨u, hu, rfl⟩
    | ok token =>
      rw [hsign] at hu
      exact .inl ⟨u, hu, rfl⟩
  | _ => exact .inl ⟨u, hu, rfl⟩

/-- Every session after a write was one before, up to its flag, or is the one that is written. -/
theorem mem_exec_upsert {row : DeviceSessionRow} {r : DeviceSessionRow}
    (hr : r ∈ (exec env w (.session (.upsert row))).2.deviceSessions) :
    (∃ v ∈ w.deviceSessions, v.write row.id row.isRevoked = r) ∨ r ∈ w.deviceSessions ∨
      r = row := by
  by_cases hknown : ∃ v ∈ w.deviceSessions, v.id = row.id
  · obtain ⟨v, hv, hid⟩ := hknown
    simp only [exec, SessionOp.exec_upsert_known env w.users w.now hv hid] at hr
    exact .inl (Table.mem_map.mp hr)
  · have hnew : ∀ v ∈ w.deviceSessions, v.id ≠ row.id := fun v hv hid ↦ hknown ⟨v, hv, hid⟩
    rcases SessionOp.exec_upsert_new env w.users w.now hnew with ⟨t, he, hi⟩ | ⟨e, he⟩
    · simp only [exec, he] at hr
      rcases (Table.mem_insert hi).mp hr with hr | hr
      · exact .inr (.inl hr)
      · exact .inr (.inr hr)
    · simp only [exec, he] at hr
      exact .inr (.inl hr)

/-- An allowed call keeps the world bound. -/
theorem World.Bound.exec (hinj : Function.Injective env.sha256)
    (hpos : 0 < start / 1000 + env.config.refreshExpiration.seconds) (hw : w.Bound env)
    (hs : s.Fits env start w) {op : Op} (hop : s.allows env op) :
    (Bankos.exec env w op).2.Bound env where
  users u hu := by
    rcases exec_users_ids env w op u hu with ⟨v, hv, hid⟩ | ⟨data, rfl, hid⟩
    · rw [← hid]
      exact hw.users v hv
    · rw [← hid]
      exact hs.users _ hop
  sessions r hr := by
    apply World.Binds.mono _ (minted_subset env w op)
    by_cases hup : ∃ row, op = .session (.upsert row)
    · obtain ⟨row, rfl⟩ := hup
      rcases mem_exec_upsert hr with ⟨v, hv, rfl⟩ | hr | rfl
      · exact (hw.sessions v hv).write row.id row.isRevoked
      · exact hw.sessions r hr
      · rcases hop with hopens | ⟨v, hv, rfl⟩
        · exact hopens.binds hinj hpos hs
        · exact (hs.sessions v hv).flag true
    · rw [exec_deviceSessions env w fun row he ↦ hup ⟨row, he⟩] at hr
      exact hw.sessions r hr

/-- The user that is loaded is stored. -/
theorem Record.Fits.loadUser (hs : s.Fits env start w) {u : UserRow}
    (hu : env.parseUuid u.id = some u.id) :
    Record.Fits env start w { s with users := u.id :: s.users } where
  users id hid := by
    rcases List.mem_cons.mp hid with rfl | hid
    · exact hu
    · exact hs.users id hid
  sessions := hs.sessions
  signed := hs.signed

/-- The sessions that are loaded are stored. -/
theorem Record.Fits.loadSessions (hs : s.Fits env start w) {rows : List DeviceSessionRow}
    (hrows : ∀ r ∈ rows, w.Binds env r) :
    Record.Fits env start w { s with sessions := rows ++ s.sessions } where
  users := hs.users
  sessions r hr := by
    rcases List.mem_append.mp hr with hr | hr
    · exact hrows r hr
    · exact hs.sessions r hr
  signed := hs.signed

/-- The token that is given has been signed. -/
theorem Record.Fits.sign (hs : s.Fits env start w) {c : SignCall} {token : Text}
    (hminted : w.MintedAs c.use token)
    (hsign : ∃ now draws, start ≤ now ∧ c.exec env now draws = .ok token) :
    Record.Fits env start w { s with signed := (c, token) :: s.signed } where
  users := hs.users
  sessions := hs.sessions
  signed c' token' h := by
    rcases List.mem_cons.mp h with heq | h
    · cases heq
      exact ⟨hminted, hsign⟩
    · exact hs.signed c' token' h

/-- What a request is told by a call is so afterwards. -/
theorem Record.Hears.fits (hw : w.Bound env) (hnow : start ≤ w.now) (hs : s.Fits env start w)
    {op : Op} {r : Except JsError op.Reply} {s' : Record} (h : s.Hears op r s')
    (hr : (Bankos.exec env w op).1 = r) : s'.Fits env start (Bankos.exec env w op).2 := by
  have hsubset : w.minted ⊆ (Bankos.exec env w op).2.minted := minted_subset env w op
  cases h with
  | nothing => exact hs.mono hsubset
  | userById id u => exact (hs.loadUser (hw.users u (mem_of_findUserById hr))).mono hsubset
  | userByEmail email u => exact (hs.loadUser (hw.users u (mem_of_findUserByEmail hr))).mono hsubset
  | sessionById id row =>
    apply Record.Fits.mono _ hsubset
    apply hs.loadSessions
    intro r' hr'
    rw [List.mem_singleton.mp hr']
    exact hw.sessions row (mem_of_findUniqueById hr)
  | sessionByToken hash row =>
    apply Record.Fits.mono _ hsubset
    apply hs.loadSessions
    intro r' hr'
    rw [List.mem_singleton.mp hr']
    exact hw.sessions row (mem_of_findUniqueByRefreshToken hr).1
  | active userId rows =>
    apply Record.Fits.mono _ hsubset
    exact hs.loadSessions fun r hrow ↦ hw.sessions r (mem_of_findManyActive hr r hrow)
  | signed c token =>
    cases hsign : c.exec env w.now w.draws with
    | error e =>
      simp only [Bankos.exec, hsign] at hr
      cases hr
    | ok token' =>
      simp only [Bankos.exec, hsign] at hr hsubset ⊢
      cases hr
      apply (hs.mono hsubset).sign
      · exact List.mem_append_right _ List.mem_cons_self
      · exact ⟨w.now, w.draws, hnow, hsign⟩

/-- The reply of the world to a call. -/
theorem Record.Fits.exec (hw : w.Bound env) (hnow : start ≤ w.now) (hs : s.Fits env start w)
    (op : Op) : (s.next op (Bankos.exec env w op).1).Fits env start (Bankos.exec env w op).2 :=
  (s.hears_next op _).fits hw hnow hs rfl

end Step

/-! ### Runs -/

section Runs

variable {ι : Type} [DecidableEq ι] {env : Env} {users : IUserRepository} {reqs : ι → Request}
  {w : World} {ok : Server ι → ServerTurn ι → Prop} {q : Server ι}

/-- The run: the world stays bound, and what the requests have been told is so. -/
theorem binds_reached (hu : users.Proper) (hinj : Function.Injective env.sha256)
    (hw : w.Bound env) (hpos : 0 < w.now / 1000 + env.config.refreshExpiration.seconds)
    (hq : Server.Reaches env ok (Server.start env users reqs w) q) :
    q.world.Bound env ∧ w.now ≤ q.world.now ∧
      ∀ i, (Pool.phase (binding env) {} q.log i).Fits env w.now q.world := by
  refine hq.invariant (J := fun q ↦ q.world.Bound env ∧ w.now ≤ q.world.now ∧
    ∀ i, (Pool.phase (binding env) {} q.log i).Fits env w.now q.world) ?_ ?_ ?_ ?_
  · refine ⟨hw, Nat.le_refl _, fun i ↦ ⟨?_, ?_, ?_⟩⟩
    · exact fun u hu ↦ absurd hu List.not_mem_nil
    · exact fun r hr ↦ absurd hr List.not_mem_nil
    · exact fun c token h ↦ absurd h List.not_mem_nil
  · intro q' i op next hq' ⟨hbound, hnow, hfits⟩ _ hi
    have hop : (Pool.phase (binding env) {} q'.log i).allows env op :=
      Pool.Reaches.allows hq' (serve_binds hu (reqs i)) hi
    refine ⟨hbound.exec hinj hpos (hfits i) hop, ?_, ?_⟩
    · exact hnow.trans (Nat.le_of_eq (exec_now env _ op).symm)
    · rw [Pool.phase_record]
      apply (Function.forall_update_iff _ fun _ s ↦ Record.Fits env w.now _ s).mpr
      exact ⟨(hfits i).exec hbound hnow op, fun j _ ↦ (hfits j).mono (minted_subset env _ op)⟩
  · intro q' i e op next _ ⟨hbound, hnow, hfits⟩ _ _
    refine ⟨hbound, hnow, ?_⟩
    rw [Pool.phase_record]
    dsimp only
    rw [Record.next_error, Function.update_eq_self]
    exact hfits
  · intro q' t ⟨hbound, hnow, hfits⟩ _
    refine ⟨⟨hbound.users, hbound.sessions⟩, Nat.le_trans hnow (Nat.le_add_right _ _), fun i ↦ ?_⟩
    exact ⟨(hfits i).users, (hfits i).sessions, (hfits i).signed⟩

end Runs

/-! ### Acceptance -/

section Acceptance

variable {env : Env} {users : IUserRepository} {w w' : World}

/-- A refresh that returns has verified its token and has found a session that is not revoked. -/
theorem RefreshTokenService.run_returned {token : Text} {ip ua : String} {tokens : LoginResponse}
    (h : (execute env users token ip ua).run (exec env) w = (.ok tokens, w')) :
    ∃ claims row, JwtTokenService.verifyAt env token w.now = .ok claims ∧
      row ∈ w.deviceSessions ∧ row.refreshToken = env.sha256 token ∧ row.isRevoked = false := by
  have hrun := h
  unfold execute at hrun
  rw [run_bind, run_verified] at hrun
  cases hverify : JwtTokenService.verifyAt env token w.now with
  | error e =>
    rw [hverify] at hrun
    cases hrun
  | ok claims =>
    rw [hverify] at hrun
    dsimp only [SecureRandomGenerator.hashString] at hrun
    rw [run_bind, run_findByRefreshToken] at hrun
    cases hfind : w.deviceSessions.find fun r ↦ decide (r.refreshToken = env.sha256 token) with
    | none =>
      rw [hfind] at hrun
      cases hrun
    | some row =>
      obtain ⟨hrow, hhash⟩ := Table.find_some hfind
      have hhash : row.refreshToken = env.sha256 token := by simpa using hhash
      refine ⟨claims, row, rfl, hrow, hhash, Bool.eq_false_iff.mpr fun hrev ↦ ?_⟩
      obtain ⟨e, he⟩ := run_revoked hrow hhash hrev users ip ua
      rw [he] at h
      cases h

/-- A token is accepted only before the second of its end. -/
theorem lt_exp_of_verifyAt {token : Text} {claims : Claims} {now seconds : Nat}
    (h : JwtTokenService.verifyAt env token now = .ok claims)
    (hexp : claims.exp = .num ((seconds : Nat) : Rat)) : now < seconds * 1000 := by
  obtain ⟨publicKey, -, hverify⟩ := JwtTokenService.verify_of_verifyAt h
  have hlive : now / 1000 < seconds :=
    (Jwt.notExpired_num_iff hexp).mp (Jwt.notExpired_of_verify hverify)
  omega

/-- The active sessions of a user with an id in canonical form. -/
theorem run_findActiveSessions {userId : String} (h : env.parseUuid userId = some userId) :
    (PrismaDeviceSessionRepository.findActiveSessions (.str userId)).run (exec env) w =
      (.ok ((w.deviceSessions.rows.filter fun r ↦ decide (r.userId = userId) && r.active w.now).map
        toDomainDeviceSession), w) := by
  unfold PrismaDeviceSessionRepository.findActiveSessions
  rw [run_bind, run_request, exec_findManyActive h]
  rfl

/-- A refresh accepts the token of a bound session only while the session is active. -/
theorem DeviceSessionRow.BoundTo.active_of_accepted {r : DeviceSessionRow} {token : Text}
    {ip ua : String} {tokens : LoginResponse} (hr : r ∈ w.deviceSessions)
    (hbound : r.BoundTo env token)
    (h : (RefreshTokenService.execute env users token ip ua).run (exec env) w = (.ok tokens, w')) :
    r.active w.now = true := by
  obtain ⟨claims, row, hverify, hrow, hhash, hrev⟩ := RefreshTokenService.run_returned h
  have hsame : row = r :=
    DeviceSessionTable.eq_of_refreshToken hrow hr (hhash.trans hbound.hash.symm)
  obtain ⟨claims', seconds, hdecode, -, -, hexp, hend⟩ := hbound.claims
  have hclaims : some claims = some claims' :=
    (JwtTokenService.decode_of_verifyAt hverify).symm.trans hdecode
  rw [← Option.some.inj hclaims] at hexp
  have hlive := lt_exp_of_verifyAt hverify hexp
  rw [hsame] at hrev
  simp [DeviceSessionRow.active, hrev, hend, hlive]

end Acceptance

/-- Sessions and their tokens belong together in every reachable state: each session is stored under
the hash of exactly one refresh token that has been signed, whose claims name the user, the id and
the end of the session; and at every instant at which a refresh would accept this token, the session
is one of the active sessions of its user. -/
theorem sessions_bound {ι : Type} [DecidableEq ι] (env : Env)
    (hinj : Function.Injective env.sha256) (users : IUserRepository) (hu : users.Proper)
    (reqs : ι → Request) (w : World) (hw : w.Bound env)
    (hpos : 0 < w.now / 1000 + env.config.refreshExpiration.seconds) (q : Server ι)
    (hq : Server.Reaches env anyTurn (Server.start env users reqs w) q) :
    ∀ r ∈ q.world.deviceSessions, ∃ token, q.world.MintedAs .refresh token ∧
      r.BoundTo env token ∧
      (∀ other, q.world.MintedAs .refresh other → env.sha256 other = r.refreshToken →
        other = token) ∧
      ∀ t ip ua tokens w', (RefreshTokenService.execute env users token ip ua).run (exec env)
          { q.world with now := t } = (.ok tokens, w') →
        ∃ sessions, (PrismaDeviceSessionRepository.findActiveSessions (.str r.userId)).run
            (exec env) { q.world with now := t } = (.ok sessions, { q.world with now := t }) ∧
          toDomainDeviceSession r ∈ sessions := by
  intro r hr
  have hbound := (binds_reached hu hinj hw hpos hq).1
  obtain ⟨hcanonical, token, htoken, hbinds⟩ := hbound.sessions r hr
  refine ⟨token, htoken, hbinds, fun other _ hother ↦ hbinds.eq hinj hother, ?_⟩
  intro t ip ua tokens w' h
  have hactive : r.active t = true :=
    DeviceSessionRow.BoundTo.active_of_accepted (w := { q.world with now := t }) hr hbinds h
  refine ⟨_, run_findActiveSessions hcanonical, List.mem_map.mpr ⟨r, ?_, rfl⟩⟩
  apply List.mem_filter.mpr
  exact ⟨hr, by simp [hactive]⟩

/-- The deployment with a digest that has no collisions. -/
def Sample.injectiveEnv : Env := { Sample.env with sha256 := id }

/-- The server over it in which `alice` has logged in. -/
def Sample.boundLogin : Server Unit :=
  (Server.start injectiveEnv PrismaUserRepository (fun _ ↦ .login login) registered).play
    (exec injectiveEnv) World.pass (List.replicate 20 (.act ()))

/-- The case of one login. -/
theorem sessions_bound_login :
    Sample.boundLogin.world.deviceSessions.rows.length = 1 ∧
    ∀ r ∈ Sample.boundLogin.world.deviceSessions, ∃ token,
      Sample.boundLogin.world.MintedAs .refresh token ∧ r.BoundTo Sample.injectiveEnv token ∧
      (∀ other, Sample.boundLogin.world.MintedAs .refresh other →
        Sample.injectiveEnv.sha256 other = r.refreshToken → other = token) ∧
      ∀ t ip ua tokens w', (RefreshTokenService.execute Sample.injectiveEnv PrismaUserRepository
          token ip ua).run (exec Sample.injectiveEnv) { Sample.boundLogin.world with now := t } =
            (.ok tokens, w') →
        ∃ sessions, (PrismaDeviceSessionRepository.findActiveSessions (.str r.userId)).run
            (exec Sample.injectiveEnv) { Sample.boundLogin.world with now := t } =
              (.ok sessions, { Sample.boundLogin.world with now := t }) ∧
          toDomainDeviceSession r ∈ sessions :=
  ⟨by decide +kernel, sessions_bound Sample.injectiveEnv Function.injective_id PrismaUserRepository
    PrismaUserRepository.proper (fun _ ↦ .login Sample.login) Sample.registered
    (.of_empty (fun _ _ ↦ rfl) rfl) (by decide +kernel) Sample.boundLogin
    (Pool.reaches_play_any _ _)⟩

end Bankos
