import Bankos.Auth.Alone
import Bankos.Auth.Controller

/-!
# What the answers tell about accounts

A login that is refused, a request for a new password and one for a verification mail are answered
without regard to the store, as long as no call fails: the branches differ in what they read and
write, and not in the error they end with.
-/

namespace Bankos

open Js Jwt Effects Prog

/-! ### Programs that return -/

/-- A call that is answered returns. -/
theorem request_returns {op : Op} (h : op.checksPassword = false) :
    (request op).Returns Answered := by
  apply returns_perform
  rintro r (hr | hr)
  · cases r with
    | ok a => exact ⟨a, rfl⟩
    | error e => cases hr
  · rw [h] at hr
    cases hr

/-- Checking a password returns. -/
theorem Argon2PasswordHasher.verify_returns (env : Env) (pchstr plaintext : String) :
    (Argon2PasswordHasher.verify env pchstr plaintext).Returns Answered :=
  returns_tryCatch fun _ ↦ returns_pure false

/-- A lookup by email returns. -/
theorem PrismaUserRepository.findByEmail_returns (email : String) :
    (PrismaUserRepository.findByEmail email).Returns Answered :=
  returns_answered (straight_lookup _ _) (proper.findByEmail_uses _) (by simp)

/-- The dispatch of events returns. -/
theorem dispatch_returns (events : List DomainEvent) : (dispatch events).Returns Answered :=
  returns_answered (dispatch_straight _) (dispatch_uses _) (by simp)

/-- A session that is opened is returned. -/
theorem LoginService.openSession_returns (env : Env) (request : LoginRequest) (user : User) :
    (openSession env PrismaUserRepository request user).Returns Answered :=
  returns_answered (openSession_straight ..) (openSession_uses PrismaUserRepository.proper ..)
    (by simp)

/-! ### How the services end -/

/-- A login returns, or it throws the one error. -/
def LoginService.Ended (r : Except JsError LoginResponse) : Prop :=
  (∃ response, r = .ok response) ∨ r = .error (.domainError "Invalid credentials")

/-- A refusal throws the one error. -/
theorem LoginService.refuse_ends (env : Env) (passwordHash passwordRaw : String) :
    (refuse env passwordHash passwordRaw).Ends Answered Ended :=
  (Argon2PasswordHasher.verify_returns env _ _).then fun _ ↦ .inr rfl

/-- A wrong password is counted and refused as any other login. -/
theorem LoginService.wrongPassword_ends (user : User) :
    (wrongPassword PrismaUserRepository user).Ends Answered Ended :=
  (request_returns rfl).then fun _ ↦ .inr rfl

/-- A right password opens a session: that the user is not locked has been checked before. -/
theorem LoginService.rightPassword_ends (env : Env) (request : LoginRequest) {user : User}
    (hlocked : user.isLocked = false) :
    (rightPassword env PrismaUserRepository request user).Ends Answered Ended := by
  unfold rightPassword
  rw [User.recordLogin_unlocked hlocked]
  apply (request_returns rfl).then
  intro _
  exact Ends.mono (openSession_returns env request _) fun _ ↦ .inl

/-- Whatever the store answers, a login that is refused is refused with the one error. -/
theorem LoginService.execute_ends (env : Env) (request : LoginRequest) :
    (execute env PrismaUserRepository request).Ends Answered Ended := by
  unfold execute
  dsimp only
  split
  · apply (PrismaUserRepository.findByEmail_returns _).then
    intro user
    cases user with
    | none => exact refuse_ends env _ _
    | some user =>
      dsimp only
      by_cases hlocked : user.isLocked = true
      · rw [if_pos hlocked]
        exact refuse_ends env _ _
      · rw [if_neg hlocked]
        apply (Argon2PasswordHasher.verify_returns env _ _).then
        intro valid
        split
        · exact rightPassword_ends env request (Bool.eq_false_iff.mpr hlocked)
        · exact wrongPassword_ends user
  · exact refuse_ends env _ _

/-- A token for a new password is sent. -/
theorem ForgotPasswordService.issueToken_returns (env : Env) (request : ForgotPasswordRequest)
    (user : User) : (issueToken env request user).Returns Answered :=
  returns_answered (issueToken_straight ..) (issueToken_uses ..) (by simp)

/-- A request for a new password is refused for the form of its email, and for nothing else. -/
theorem ForgotPasswordService.execute_ends (env : Env) (request : ForgotPasswordRequest) :
    (execute env request).Ends Answered fun r ↦
      r = if EmailValidator.isValid (EmailValidator.normalize env request.email) = false then
        .error (.domainError "Invalid email format") else .ok () := by
  unfold execute
  dsimp only
  split
  · exact rfl
  · apply (PrismaUserRepository.findByEmail_returns _).then
    intro user
    cases user with
    | none => exact rfl
    | some user => exact Ends.mono (issueToken_returns env request user) fun _ ⟨_, h⟩ ↦ h

/-- A verification mail is sent. -/
theorem SendVerificationEmailService.issueToken_returns (env : Env) (user : User) :
    (issueToken env user).Returns Answered :=
  returns_answered (issueToken_straight ..) (issueToken_uses ..) (by simp)

/-- A request for a verification mail is never refused. -/
theorem SendVerificationEmailService.execute_ends (env : Env) (email : String) :
    (execute env email).Returns Answered := by
  apply (PrismaUserRepository.findByEmail_returns _).bind
  intro user
  cases user with
  | none => exact returns_pure ()
  | some user =>
    dsimp only
    split
    · exact returns_pure ()
    · exact issueToken_returns env user

/-! ### What is answered -/

/-- The answer to what a service has returned or thrown. -/
def AuthController.answerTo {α β : Type} (respond : α → HttpResponse β) :
    Except JsError α → HttpResponse β
  | .ok response => respond response
  | .error e => handleError e

/-- The controller answers in every case. -/
theorem AuthController.run_answer {α β : Type} (env : Env) (service : Program α)
    (respond : α → HttpResponse β) (w : World) :
    (answer service respond).run (exec env) w =
      (.ok (answerTo respond (service.run (exec env) w).1), (service.run (exec env) w).2) := by
  unfold answer
  rw [run_tryCatch, run_bind]
  cases hrun : service.run (exec env) w with
  | mk r w' => cases r <;> rfl

/-- For one request and any two stores, with no call failing: two refused logins are answered the
same, and so are two requests for a new password and two for a verification mail. -/
theorem answers_tell_no_account (env : Env) (w₁ w₂ : World) :
    (∀ (body : LoginRequest) (e₁ e₂ : JsError),
      Unfailing env (LoginService.execute env PrismaUserRepository body) w₁ →
      Unfailing env (LoginService.execute env PrismaUserRepository body) w₂ →
      ((LoginService.execute env PrismaUserRepository body).run (exec env) w₁).1 = .error e₁ →
      ((LoginService.execute env PrismaUserRepository body).run (exec env) w₂).1 = .error e₂ →
      ((AuthController.login env body).run (exec env) w₁).1 =
        ((AuthController.login env body).run (exec env) w₂).1) ∧
    (∀ body : ForgotPasswordRequest,
      Unfailing env (ForgotPasswordService.execute env body) w₁ →
      Unfailing env (ForgotPasswordService.execute env body) w₂ →
      ((AuthController.forgotPassword env body).run (exec env) w₁).1 =
        ((AuthController.forgotPassword env body).run (exec env) w₂).1) ∧
    (∀ email : String,
      Unfailing env (SendVerificationEmailService.execute env email) w₁ →
      Unfailing env (SendVerificationEmailService.execute env email) w₂ →
      ((AuthController.sendVerificationEmail env email).run (exec env) w₁).1 =
        ((AuthController.sendVerificationEmail env email).run (exec env) w₂).1) := by
  refine ⟨?_, ?_, ?_⟩
  · intro body e₁ e₂ hw₁ hw₂ he₁ he₂
    have hended : ∀ {w : World} {e : JsError},
        Unfailing env (LoginService.execute env PrismaUserRepository body) w →
        ((LoginService.execute env PrismaUserRepository body).run (exec env) w).1 = .error e →
        e = .domainError "Invalid credentials" := by
      intro w e hw he
      rcases (LoginService.execute_ends env body).run hw with ⟨response, h⟩ | h
      · rw [he] at h
        cases h
      · rw [he] at h
        exact Except.error.inj h
    unfold AuthController.login
    rw [AuthController.run_answer, AuthController.run_answer, he₁, he₂, hended hw₁ he₁,
      hended hw₂ he₂]
  · intro body hw₁ hw₂
    unfold AuthController.forgotPassword
    rw [AuthController.run_answer, AuthController.run_answer,
      (ForgotPasswordService.execute_ends env body).run hw₁,
      (ForgotPasswordService.execute_ends env body).run hw₂]
  · intro email hw₁ hw₂
    obtain ⟨_, h₁⟩ := (SendVerificationEmailService.execute_ends env email).run hw₁
    obtain ⟨_, h₂⟩ := (SendVerificationEmailService.execute_ends env email).run hw₂
    unfold AuthController.sendVerificationEmail
    rw [AuthController.run_answer, AuthController.run_answer, h₁, h₂]

/-- The case of `alice`, in the store that holds her and in an empty one: a wrong password, a
request for a new one, and a request for a verification mail. -/
theorem answers_tell_no_account_alice :
    ((AuthController.login Sample.env { Sample.login with passwordRaw := "guess" }).run
        (exec Sample.env) Sample.registered).1 =
      ((AuthController.login Sample.env { Sample.login with passwordRaw := "guess" }).run
        (exec Sample.env) {}).1 ∧
    ((AuthController.forgotPassword Sample.env ⟨"alice@bank.example", "10.0.0.1", "browser"⟩).run
        (exec Sample.env) Sample.registered).1 =
      ((AuthController.forgotPassword Sample.env ⟨"alice@bank.example", "10.0.0.1", "browser"⟩).run
        (exec Sample.env) {}).1 ∧
    ((AuthController.sendVerificationEmail Sample.env "alice@bank.example").run
        (exec Sample.env) Sample.registered).1 =
      ((AuthController.sendVerificationEmail Sample.env "alice@bank.example").run
        (exec Sample.env) {}).1 :=
  have h := answers_tell_no_account Sample.env Sample.registered {}
  ⟨h.1 _ (.domainError "Invalid credentials") (.domainError "Invalid credentials")
      (by decide +kernel) (by decide +kernel) (by decide +kernel) (by decide +kernel),
    h.2.1 _ (by decide +kernel) (by decide +kernel),
    h.2.2 _ (by decide +kernel) (by decide +kernel)⟩

end Bankos
