import Bankos.Auth.Calls

/-!
# Helpers running alone

The result and the effect of the small pieces of the services when nothing else is in between.
-/

namespace Bankos

open Js Jwt Effects Storage Prog DatabaseMapper

/-! ### Calls that do not fail -/

/-- The check of a password; what Argon2 throws is caught by the hasher. -/
def Op.checksPassword : Op → Bool
  | .hasher (.verify _ _) => true
  | _ => false

/-- The area of a check of a password. -/
theorem area_of_checksPassword {op : Op} (h : op.checksPassword = true) :
    op.area = some .passwordCheck := by
  cases op with
  | hasher o =>
    cases o with
    | verify pchstr plaintext => rfl
    | hash password => cases h
  | _ => cases h

/-- The call has not failed. -/
def Answered (op : Op) (r : Except JsError op.Reply) : Prop :=
  r.isOk = true ∨ op.checksPassword = true

instance (op : Op) (r : Except JsError op.Reply) : Decidable (Answered op r) :=
  inferInstanceAs (Decidable (_ ∨ _))

/-- No call of the service fails when it runs alone from `w`. -/
def Unfailing {α : Type} (env : Env) (p : Program α) (w : World) : Prop :=
  p.Answers (exec env) Answered w

instance {α : Type} (env : Env) (p : Program α) (w : World) : Decidable (Unfailing env p w) :=
  inferInstanceAs (Decidable (p.Answers (exec env) Answered w))

/-- The rest of a service whose calls do not fail. -/
theorem Unfailing.after {α β : Type} {env : Env} {p : Program α} {f : α → Program β} {a : α}
    {w w' : World} (h : Unfailing env (p >>= f) w) (hp : p.run (exec env) w = (.ok a, w')) :
    Unfailing env (f a) w' := Answers.after h hp

/-- A program that throws nothing of its own and checks no password returns, if no call fails. -/
theorem returns_answered {α : Type} {p : Program α} {areas : List Area} (hp : p.Straight)
    (huses : p.Uses (Op.within areas)) (h : .passwordCheck ∉ areas) : p.Returns Answered := by
  apply hp.returns
  apply huses.mono
  intro op hop r hr
  cases r with
  | ok a => exact ⟨a, rfl⟩
  | error e =>
    have hcheck : op.checksPassword = true := hr.resolve_left (by simp [Except.isOk, Except.toBool])
    exact absurd (hop _ (area_of_checksPassword hcheck)) h

/-! ### The helpers -/

variable {α β : Type} (env : Env) (w : World)

/-- A call is answered by the world. -/
theorem run_request (op : Op) : (request op).run (exec env) w = exec env w op := rfl

/-- One call leaves one entry. -/
theorem trace_request (op : Op) :
    (request op).trace (exec env) w = [⟨op, (exec env w op).1⟩] := rfl

/-- One call whose reply is converted leaves one entry. -/
theorem trace_request_map (op : Op) (f : op.Reply → α) :
    (request op >>= fun a ↦ (pure (f a) : Program α)).trace (exec env) w =
      [⟨op, (exec env w op).1⟩] := by
  rw [trace_bind, trace_request, run_request]
  cases exec env w op with
  | mk r w' => cases r <;> rfl

@[simp] theorem run_now : SystemClock.now.run (exec env) w = (.ok w.now, w) := rfl

@[simp] theorem run_unix : SystemClock.unix.run (exec env) w = (.ok (w.now / 1000), w) := rfl

/-- An identifier is drawn. -/
theorem run_generateUUID :
    SecureRandomGenerator.generateUUID.run (exec env) w =
      (.ok (env.uuid w.draws), { w with draws := w.draws + 1 }) := rfl

/-- A sequence after a part that returned. -/
theorem run_bind_ok {p : Program α} {f : α → Program β} {a : α} {w' : World}
    (h : p.run (exec env) w = (.ok a, w')) :
    (p >>= f).run (exec env) w = (f a).run (exec env) w' := by
  rw [run_bind, h]

/-- A sequence after a part that threw. -/
theorem run_bind_error {p : Program α} {f : α → Program β} {e : JsError} {w' : World}
    (h : p.run (exec env) w = (.error e, w')) :
    (p >>= f).run (exec env) w = (.error e, w') := by
  rw [run_bind, h]

/-- A session is looked up by the hash of its token. -/
theorem run_findByRefreshToken (h : Text) :
    (PrismaDeviceSessionRepository.findByRefreshToken h).run (exec env) w =
      (.ok ((w.deviceSessions.find fun r ↦ decide (r.refreshToken = h)).map
        toDomainDeviceSession), w) := rfl

/-- A session is looked up by its id, if that is a UUID. -/
theorem run_findById (v : Value) :
    (PrismaDeviceSessionRepository.findById v).run (exec env) w =
      match uuidArgument env v with
      | .ok id => (.ok ((w.deviceSessions.find fun r ↦ decide (r.id = id)).map
          toDomainDeviceSession), w)
      | .error e => (.error e, w) := by
  unfold PrismaDeviceSessionRepository.findById
  rw [run_bind, run_request]
  simp only [exec, SessionOp.exec]
  cases uuidArgument env v <;> rfl

/-- A user is looked up by its id, if that is a UUID. -/
theorem run_findUserById (v : Value) :
    (PrismaUserRepository.findById v).run (exec env) w =
      match uuidArgument env v with
      | .ok id => (.ok ((w.users.find fun r ↦ decide (r.id = id)).map toDomainUser), w)
      | .error e => (.error e, w) := by
  unfold PrismaUserRepository.findById
  rw [run_bind, run_request]
  simp only [exec, UserOp.exec]
  cases uuidArgument env v <;> rfl

/-- A user is looked up by its email. -/
theorem run_findByEmail (email : String) :
    (PrismaUserRepository.findByEmail email).run (exec env) w =
      (.ok ((w.users.find fun r ↦ decide (r.email = email)).map toDomainUser), w) := rfl

/-- A password reset token is looked up by its hash. -/
theorem run_findByToken (h : Text) :
    (PrismaPasswordResetTokenRepository.findByToken h).run (exec env) w =
      (.ok ((w.passwordResetTokens.find fun r ↦ decide (r.token = h)).map fun r ↦
        PasswordResetToken.construct r.token r.userId r.expiresAt r.isUsed), w) := rfl

/-- Hashing a password takes the next salt. -/
theorem run_hash (password : String) :
    (Argon2PasswordHasher.hash env password).run (exec env) w =
      (.ok (env.argon2Hash w.draws (Argon2PasswordHasher.applyPepper env password)),
        { w with draws := w.draws + 1 }) := rfl

/-- Saving a user that is stored is refused. -/
theorem run_save_stored {r : UserRow} {user : User} (hr : r ∈ w.users) (hid : r.id = user.id) :
    (PrismaUserRepository.save user).run (exec env) w = (.error (.prismaError "P2002"), w) := by
  change exec env w (.user (.create (toPrismaUser user))) = _
  simp only [exec, UserOp.exec_create_stored env hr (show r.id = (toPrismaUser user).id from hid)]

/-- An update of a stored user writes its row. -/
theorem run_update {r : UserRow} {user : User} (hr : r ∈ w.users) (hid : r.id = user.id) :
    (PrismaUserRepository.update user).run (exec env) w =
      (.ok (), { w with
        users := w.users.write r.id (PrismaUserRepository.updateData user) }) := by
  change exec env w (.user (.update user.id (PrismaUserRepository.updateData user))) = _
  rw [← hid]
  rcases UserOp.exec_update env w.users r.id (PrismaUserRepository.updateData user) with h | ⟨h, -⟩
  · simp only [exec, h]
  · exact absurd rfl (h r hr)

/-- Checking a refresh token has no effect, and fails with one message. -/
theorem run_verified (token : Text) :
    (RefreshTokenService.verified env token).run (exec env) w =
      match JwtTokenService.verifyAt env token w.now with
      | .ok claims => (.ok claims, w)
      | .error _ => (.error (.domainError "Invalid refresh token"), w) := by
  change ((MonadExcept.tryCatch (done (JwtTokenService.verifyAt env token w.now)) _).run
    (exec env) w) = _
  cases JwtTokenService.verifyAt env token w.now <;> rfl

/-- The lifetime in seconds for which a logout at the time `now` blacklists an access token. -/
def LogoutService.blacklistTtl (accessToken : Text) (now : Nat) : Option Rat :=
  match JwtTokenService.decode accessToken with
  | none => none
  | some payload =>
    if payload.jti.truthy && payload.exp.truthy then
      match payload.exp.toNumber env.conversions with
      | none => none
      | some exp =>
        if 0 < exp - ((now / 1000 : Nat) : Rat) then some (exp - (now / 1000 : Nat)) else none
    else none

/-- The `jti` claim of a token, as far as it decodes. -/
def LogoutService.claimedJti (accessToken : Text) : Value :=
  match JwtTokenService.decode accessToken with
  | none => .undefined
  | some payload => payload.jti

/-- Blacklisting is one `SET`, or nothing. -/
theorem LogoutService.run_blacklistAccessToken (accessToken : Text) :
    (blacklistAccessToken env accessToken).run (exec env) w =
      match blacklistTtl env accessToken w.now with
      | none => (.ok (), w)
      | some ttl => exec env w (.redis (.setEx
          (RedisTokenBlacklistService.getBlacklistKey env (claimedJti accessToken)) "1" ttl)) := by
  unfold blacklistAccessToken blacklistTtl claimedJti
  cases JwtTokenService.decode accessToken with
  | none => rfl
  | some payload =>
    dsimp only
    split
    · rw [run_bind, run_unix]
      cases payload.exp.toNumber env.conversions with
      | none => rfl
      | some exp =>
        dsimp only
        split <;> rfl
    · rfl

end Bankos
