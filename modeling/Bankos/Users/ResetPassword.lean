import Bankos.Auth.Alone

/-!
# Resetting a password

`ResetPasswordService.execute` wired with the Prisma repositories. It hands the changed user
to `save`, which creates a row, and the row of the user is there already.
-/

namespace Bankos

open Js Jwt Effects Storage Prog DatabaseMapper

/-- Creating a user that was loaded from the table is refused, so the reset never gets past it. -/
theorem ResetPasswordService.run_changePassword (env : Env) {w : World} {r : UserRow}
    (hr : r ∈ w.users) (request : ResetPasswordRequest) (hashedToken : Text)
    (resetToken : OneTimeToken) :
    ∃ e, (changePassword env PrismaUserRepository request hashedToken resetToken
      (toDomainUser r)).run (exec env) w = (.error e, { w with draws := w.draws + 1 }) := by
  unfold changePassword
  dsimp only
  rw [run_bind, run_hash]
  dsimp only
  cases hchange : (toDomainUser r).changePassword
      (env.argon2Hash w.draws (Argon2PasswordHasher.applyPepper env request.newPasswordRaw)) with
  | error e => exact ⟨e, rfl⟩
  | ok user =>
    have hid : r.id = user.id := (User.changePassword_ok hchange).2.1.symm
    rw [done_ok_bind]
    exact ⟨_, run_bind_error env _ (run_save_stored env { w with draws := w.draws + 1 } hr hid)⟩

/-- A password reset over the Prisma repositories never returns normally. -/
theorem ResetPasswordService.run_fails (env : Env) (request : ResetPasswordRequest) (w : World) :
    ∃ e, ((execute env PrismaUserRepository request).run (exec env) w).1 = .error e := by
  unfold execute
  dsimp only
  rw [run_bind, run_findByToken]
  dsimp only
  cases w.passwordResetTokens.find fun r ↦
      decide (r.token = SecureRandomGenerator.hashString env request.token) with
  | none => exact ⟨_, rfl⟩
  | some row =>
    dsimp only [Option.map]
    unfold redeem
    rw [run_bind, run_now]
    dsimp only
    split
    · exact ⟨_, rfl⟩
    · split
      · exact ⟨_, rfl⟩
      · rw [PrismaUserRepository.proper.findById, run_bind, run_findUserById]
        cases uuidArgument env (.str (PasswordResetToken.construct row.token row.userId
            row.expiresAt row.isUsed).userId) with
        | error e => exact ⟨_, rfl⟩
        | ok id =>
          dsimp only
          cases hfind : w.users.find fun r ↦ decide (r.id = id) with
          | none => exact ⟨_, rfl⟩
          | some r =>
            obtain ⟨e, he⟩ := run_changePassword env (Table.find_some hfind).1 request
              (SecureRandomGenerator.hashString env request.token)
              (PasswordResetToken.construct row.token row.userId row.expiresAt row.isUsed)
            exact ⟨e, by rw [Option.map, he]⟩

/-- The user is stored, and the presented token is an unused and unexpired reset token of the
user; the new password meets the policy. -/
def Resettable (env : Env) (request : ResetPasswordRequest) (u : UserRow) (w : World) : Prop :=
  u ∈ w.users.rows ∧
    (∃ t ∈ w.passwordResetTokens.rows, t.token = env.sha256 request.token ∧ t.userId = u.id ∧
      t.isUsed = false ∧ w.now ≤ t.expiresAt) ∧
    PasswordPolicy.validate request.newPasswordRaw = true

instance (env : Env) (request : ResetPasswordRequest) (u : UserRow) (w : World) :
    Decidable (Resettable env request u w) :=
  inferInstanceAs (Decidable (_ ∧ _ ∧ _))

/-- The reset takes effect end to end: it returns, the stored hash of the user is one of the new
password, the token is gone, the active sessions of the user are revoked, and all other
users, sessions and tokens are as they were. -/
structure ResetTakesEffect (env : Env) (request : ResetPasswordRequest) (u : UserRow)
    (w w' : World) (result : Except JsError Unit) : Prop where
  returns : result = .ok ()
  hash : ∃ u' ∈ w'.users, u'.id = u.id ∧ ∃ salt, u'.passwordHash =
    env.argon2Hash salt (Argon2PasswordHasher.applyPepper env request.newPasswordRaw)
  token : ∀ t ∈ w'.passwordResetTokens, t.token ≠ env.sha256 request.token
  sessions : ∀ s ∈ w.deviceSessions, s.userId = u.id → s.active w.now = true →
    ∃ s' ∈ w'.deviceSessions, s'.id = s.id ∧ s'.isRevoked = true
  otherUsers : ∀ x, x.id ≠ u.id → (x ∈ w'.users ↔ x ∈ w.users)
  otherSessions : ∀ s, s.userId ≠ u.id → (s ∈ w'.deviceSessions ↔ s ∈ w.deviceSessions)
  otherTokens : ∀ t, t.token ≠ env.sha256 request.token →
    (t ∈ w'.passwordResetTokens ↔ t ∈ w.passwordResetTokens)

/-- The reset of the request, alone in the world `w`, takes effect for the user `u`. -/
def ResetsPassword (env : Env) (request : ResetPasswordRequest) (u : UserRow) (w : World) :
    Prop :=
  let r := (ResetPasswordService.execute env PrismaUserRepository request).run (exec env) w
  ResetTakesEffect env request u w r.2 r.1

/-- Over the Prisma repositories a password reset takes effect for no request, no user and no
store. -/
theorem resetPassword_never_takes_effect (env : Env) (request : ResetPasswordRequest)
    (u : UserRow) (w : World) : ¬ ResetsPassword env request u w := by
  intro h
  obtain ⟨e, he⟩ := ResetPasswordService.run_fails env request w
  have hret := h.returns
  rw [he] at hret
  cases hret

/-- The request of `alice` to reset her password. -/
def Sample.reset : ResetPasswordRequest :=
  ⟨.plain "reset-token", "Another-horse-2", "10.0.0.1", "browser"⟩

/-- The world in which `alice` has asked for a reset token. -/
def Sample.resetRequested : World :=
  { registered with
    passwordResetTokens := .single ⟨Sample.env.sha256 reset.token, alice.id, false, 4600000⟩ }

/-- A registered user with a usable token and a good password cannot reset the password. -/
theorem resetPassword_fails :
    ¬ ∀ (request : ResetPasswordRequest) (u : UserRow) (w : World),
      Resettable Sample.env request u w → ResetsPassword Sample.env request u w := by
  intro h
  have hready : Resettable Sample.env Sample.reset Sample.alice Sample.resetRequested := by
    decide +kernel
  have hret := (h Sample.reset Sample.alice Sample.resetRequested hready).returns
  have hthrows : ((ResetPasswordService.execute Sample.env PrismaUserRepository Sample.reset).run
      (exec Sample.env) Sample.resetRequested).1 = .error (.prismaError "P2002") := by
    decide +kernel
  rw [hthrows] at hret
  cases hret

end Bankos
