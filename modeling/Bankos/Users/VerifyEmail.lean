import Bankos.Auth.Alone

/-!
# Verifying an email

`VerifyEmailService.execute` wired with the Prisma repositories. As in the reset of a password, the
changed user goes to `save`, which creates a row that is there already.
-/

namespace Bankos

open Js Jwt Effects Storage Prog DatabaseMapper

variable (env : Env) {w : World}

/-- A verification token is looked up by its hash. -/
theorem run_findVerificationToken (w : World) (h : Text) :
    (PrismaEmailVerificationTokenRepository.findByToken h).run (exec env) w =
      (.ok ((w.emailVerificationTokens.find fun r ↦ decide (r.token = h)).map fun r ↦
        EmailVerificationToken.construct r.token r.userId r.expiresAt r.isUsed), w) := rfl

/-- Creating the user that was loaded is refused, and nothing is written. -/
theorem VerifyEmailService.run_verifyEmail {r : UserRow} (hr : r ∈ w.users)
    (request : VerifyEmailRequest) (hashedToken : Text) (verificationToken : OneTimeToken) :
    (verifyEmail PrismaUserRepository request hashedToken verificationToken
        (toDomainUser r)).run (exec env) w = (.error (.prismaError "P2002"), w) := by
  have hid : r.id = (toDomainUser r).verifyEmail.id := by
    unfold User.verifyEmail
    split <;> rfl
  unfold verifyEmail
  exact run_bind_error env w (run_save_stored env w hr hid)

/-- Over the Prisma repositories a verification throws and writes nothing. -/
theorem VerifyEmailService.run_fails (request : VerifyEmailRequest) (w : World) :
    ∃ e, (execute env PrismaUserRepository request).run (exec env) w = (.error e, w) := by
  unfold execute
  dsimp only
  rw [run_bind_ok env w (run_findVerificationToken env w _)]
  cases w.emailVerificationTokens.find fun r ↦
      decide (r.token = SecureRandomGenerator.hashString env request.token) with
  | none => exact ⟨_, rfl⟩
  | some row =>
    dsimp only [Option.map]
    rw [run_bind_ok env w (run_now env w)]
    split
    · exact ⟨_, rfl⟩
    · split
      · exact ⟨_, rfl⟩
      · rw [PrismaUserRepository.proper.findById, run_bind, run_findUserById]
        cases uuidArgument env (.str (EmailVerificationToken.construct row.token row.userId
            row.expiresAt row.isUsed).userId) with
        | error e => exact ⟨_, rfl⟩
        | ok id =>
          dsimp only
          cases hfind : w.users.find fun r ↦ decide (r.id = id) with
          | none => exact ⟨_, rfl⟩
          | some r => exact ⟨_, run_verifyEmail env (Table.find_some hfind).1 request _ _⟩

/-- The user is stored, and the presented token is an unused and unexpired verification token of the
user. -/
def Verifiable (env : Env) (request : VerifyEmailRequest) (u : UserRow) (w : World) : Prop :=
  u ∈ w.users.rows ∧
    ∃ t ∈ w.emailVerificationTokens.rows, t.token = env.sha256 request.token ∧ t.userId = u.id ∧
      t.isUsed = false ∧ w.now ≤ t.expiresAt

instance (env : Env) (request : VerifyEmailRequest) (u : UserRow) (w : World) :
    Decidable (Verifiable env request u w) :=
  inferInstanceAs (Decidable (_ ∧ _))

/-- The verification takes effect end to end: it returns, the flag of the user is set and the user's
other columns are as they were, the token is gone, and no other row has changed. -/
structure VerificationTakesEffect (env : Env) (request : VerifyEmailRequest) (u : UserRow)
    (w w' : World) (result : Except JsError Unit) : Prop where
  returns : result = .ok ()
  verified : { u with emailVerified := true } ∈ w'.users
  token : ∀ t ∈ w'.emailVerificationTokens, t.token ≠ env.sha256 request.token
  otherUsers : ∀ x, x.id ≠ u.id → (x ∈ w'.users ↔ x ∈ w.users)
  otherTokens : ∀ t, t.token ≠ env.sha256 request.token →
    (t ∈ w'.emailVerificationTokens ↔ t ∈ w.emailVerificationTokens)
  deviceSessions : w'.deviceSessions = w.deviceSessions
  passwordResetTokens : w'.passwordResetTokens = w.passwordResetTokens
  rbac : w'.rbac = w.rbac

/-- The verification of the request, alone in the world `w`, takes effect for the user `u`. -/
def VerifiesEmail (env : Env) (request : VerifyEmailRequest) (u : UserRow) (w : World) : Prop :=
  let r := (VerifyEmailService.execute env PrismaUserRepository request).run (exec env) w
  VerificationTakesEffect env request u w r.2 r.1

/-- Over the Prisma repositories a verification takes effect for no request, no user and no
store. -/
theorem verifyEmail_never_takes_effect (request : VerifyEmailRequest) (u : UserRow) (w : World) :
    ¬ VerifiesEmail env request u w := by
  intro h
  obtain ⟨e, he⟩ := VerifyEmailService.run_fails env request w
  have hreturned := h.returns
  rw [he] at hreturned
  cases hreturned

/-- The request of `alice` to verify her email. -/
def Sample.verification : VerifyEmailRequest :=
  ⟨.plain "verification-token", "10.0.0.1", "browser"⟩

/-- The world in which `alice` has been sent a verification token. -/
def Sample.verificationSent : World :=
  { registered with
    emailVerificationTokens :=
      .single ⟨Sample.env.sha256 verification.token, alice.id, false, 4600000⟩ }

/-- A registered user with a usable token cannot verify the email. -/
theorem verifyEmail_fails :
    ¬ ∀ (request : VerifyEmailRequest) (u : UserRow) (w : World),
      Verifiable Sample.env request u w → VerifiesEmail Sample.env request u w := by
  intro h
  have hready : Verifiable Sample.env Sample.verification Sample.alice Sample.verificationSent := by
    decide +kernel
  have hreturned := (h Sample.verification Sample.alice Sample.verificationSent hready).returns
  have hthrows : ((VerifyEmailService.execute Sample.env PrismaUserRepository
      Sample.verification).run (exec Sample.env) Sample.verificationSent).1 =
        .error (.prismaError "P2002") := by
    decide +kernel
  rw [hthrows] at hreturned
  cases hreturned

end Bankos
