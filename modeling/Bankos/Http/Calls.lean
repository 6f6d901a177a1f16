import Bankos.Http.Server
import Bankos.Rbac.Calls

/-!
# Which calls the controllers make

What the services behind the authentication routes touch, and with them the programs of the
application: no route creates, deletes or edits a role or a permission, and only a registration
assigns one.
-/

namespace Bankos

open Js Jwt Effects Prog DatabaseMapper

/-- A controller makes the calls of its service. -/
theorem AuthController.answer_uses {α β : Type} {service : Program α} {respond : α → HttpResponse β}
    {allowed : Op → Prop} (h : service.Uses allowed) : (answer service respond).Uses allowed :=
  uses_tryCatch (uses_bind h fun _ ↦ trivial) fun _ ↦ trivial

/-- A controller answers with what becomes of the results of its service, or with an error. -/
theorem AuthController.answer_told {α β : Type} {service : Program α}
    {respond : α → HttpResponse β} {H : (op : Op) → Except JsError op.Reply → Prop} {R : α → Prop}
    {Q : HttpResponse β → Prop} (h : service.Told H R) (hok : ∀ a, R a → Q (respond a))
    (herror : ∀ e, Q (handleError e)) : (answer service respond).Told H Q := by
  apply told_tryCatch
  · apply Told.seq h
    intro a ha
    exact told_pure (hok a ha)
  · intro e
    exact told_pure (herror e)

/-- An error is answered with an error. -/
theorem AuthController.handleError_eq {α : Type} (e : JsError) : ∃ status code message,
    (handleError e : HttpResponse α) = ⟨status, .error code message⟩ ∧ 400 ≤ status := by
  have hrefusal : ∀ msg, ∃ status code message,
      (refusal msg : HttpResponse α) = ⟨status, .error code message⟩ ∧ 400 ≤ status := by
    intro msg
    unfold refusal
    split_ifs <;> exact ⟨_, _, _, rfl, by decide⟩
  cases e with
  | domainError msg => exact hrefusal msg
  | invalidStateError msg => exact hrefusal msg
  | _ => exact ⟨_, _, _, rfl, by decide⟩

namespace AuthCall

variable {c : AuthCall}

/-- A controller makes the calls of its service, in whatever words it answers. -/
theorem respond_uses {α : Type} {service : Program (HttpResponse α)} {f : α → AuthData}
    {allowed : Op → Prop} (h : service.Uses allowed) : (respond service f).Uses allowed :=
  uses_bind h fun _ ↦ trivial

/-- A controller keeps to the protocol of its service, in whatever words it answers. -/
theorem respond_obeys {P : Protocol Api JsError} {s : P.Phase} {α β : Type} {service : Program α}
    {toResponse : α → HttpResponse β} {f : β → AuthData}
    (h : service.Obeys P s fun _ _ ↦ True) :
    (respond (AuthController.answer service toResponse) f).Obeys P s fun _ _ ↦ True := by
  have hanswer : (AuthController.answer service toResponse).Obeys P s fun _ _ ↦ True := by
    apply obeys_tryCatch
    apply obeys_bind
    apply h.mono
    rintro s' (e | a) _
    · exact trivial
    · exact trivial
  apply obeys_bind
  apply hanswer.mono
  rintro s' (e | response) _
  · exact trivial
  · exact trivial

/-- What the service of the call touches. -/
def areas : AuthCall → List Area
  | register _ => [.userRead, .userWrite, .roleRead, .roleAssign, .verificationToken, .audit]
  | login _ => [.passwordCheck, .userRead, .userWrite, .session, .audit]
  | refresh .. => [.userRead, .session, .audit]
  | logout .. => [.redis, .session, .audit]
  | forgotPassword _ => [.userRead, .resetIssue, .mail, .audit]
  | resetPassword _ => [.userRead, .userWrite, .session, .resetLookup, .resetDelete, .audit]
  | verifyEmail _ => [.userRead, .userWrite, .verificationToken, .audit]
  | sendVerification _ => [.userRead, .verificationToken, .mail]

/-- A controller touches nothing else. -/
theorem program_uses (env : Env) (c : AuthCall) : (c.program env).Uses (Op.within c.areas) := by
  have hu := PrismaUserRepository.proper
  cases c with
  | register r =>
    exact respond_uses (AuthController.answer_uses (RegisterUserService.execute_uses env r))
  | login r =>
    exact respond_uses (AuthController.answer_uses (LoginService.execute_uses hu env r))
  | refresh token ip ua =>
    exact respond_uses (AuthController.answer_uses (RefreshTokenService.execute_uses hu env ..))
  | logout r ip ua =>
    exact respond_uses (AuthController.answer_uses (LogoutService.execute_uses env r ip ua))
  | forgotPassword r =>
    exact respond_uses (AuthController.answer_uses (ForgotPasswordService.execute_uses env r))
  | resetPassword r =>
    exact respond_uses (AuthController.answer_uses (ResetPasswordService.execute_uses hu env r))
  | verifyEmail r =>
    exact respond_uses (AuthController.answer_uses (VerifyEmailService.execute_uses hu env r))
  | sendVerification email =>
    exact respond_uses
      (AuthController.answer_uses (SendVerificationEmailService.execute_uses env email))

end AuthCall

/-- A request makes the calls of its controller. -/
theorem IdentityApp.handle_uses (app : IdentityApp) (req : IdentityRequest) {allowed : Op → Prop}
    (h : ∀ c, app.call req = some c → (c.program app.env).Uses allowed) :
    (app.handle req).Uses allowed := by
  rw [handle_eq, uses_mapResult]
  cases hcall : app.call req with
  | none => exact trivial
  | some c => exact uses_bind (h c hcall) fun _ ↦ trivial

/-- A request keeps to the protocol of its controller. -/
theorem IdentityApp.handle_obeys {P : Protocol Api JsError} {s : P.Phase} {app : IdentityApp}
    {req : IdentityRequest} (h : ∀ c : AuthCall, (c.program app.env).Obeys P s fun _ _ ↦ True) :
    (app.handle req).Obeys P s fun _ _ ↦ True := by
  unfold handle
  cases app.arrive req with
  | answered response => exact trivial
  | calls x c =>
    apply obeys_bind
    apply (h c).mono
    rintro s' (e | response) _
    · exact trivial
    · exact trivial

/-! ### Answers with tokens -/

/-- The answer carries the pair of tokens. -/
def AppResponse.Gives (response : AppResponse) (tokens : LoginResponse) : Prop :=
  response.body = .auth (.data (.tokens tokens))

section Tokens

variable {H : (op : Op) → Except JsError op.Reply → Prop} {Q : LoginResponse → Prop}

/-- A controller that makes no tokens answers with none. -/
theorem AuthCall.respond_tokenless {α : Type} {service : Program (HttpResponse α)}
    {f : α → AuthData} (hf : ∀ a tokens, f a ≠ .tokens tokens) :
    (respond service f).Told H fun response ↦
      ∀ tokens, response.body = .data (.tokens tokens) → Q tokens := by
  apply told_then
  rintro ⟨status, body⟩
  apply told_pure
  intro tokens h
  cases body with
  | success => cases h
  | data a => exact (hf a tokens (AuthResponse.data.inj h)).elim
  | error code message => cases h

/-- A controller that makes tokens answers with those of its service. -/
theorem AuthCall.respond_tokens {service : Program LoginResponse} (h : service.Told H Q) :
    (respond (AuthController.answer service fun response ↦ ⟨200, .data response⟩) .tokens).Told H
      fun response ↦ ∀ tokens, response.body = .data (.tokens tokens) → Q tokens := by
  apply Told.seq (R := fun response : HttpResponse LoginResponse ↦
    ∀ tokens, response.body = .data tokens → Q tokens)
  · apply AuthController.answer_told h
    · intro tokens htokens _ hbody
      cases hbody
      exact htokens
    · intro e tokens hbody
      obtain ⟨status, code, message, herror, -⟩ :=
        AuthController.handleError_eq (α := LoginResponse) e
      rw [herror] at hbody
      cases hbody
  · rintro ⟨status, body⟩ hbody
    apply told_pure
    intro tokens h
    cases body with
    | success => cases h
    | data returned =>
      cases h
      exact hbody _ rfl
    | error code message => cases h

/-- The rule for answers with tokens: they come from a login or from a refresh. -/
theorem IdentityApp.handle_tokens {app : IdentityApp} {req : IdentityRequest}
    (hlogin : ∀ r, app.call req = some (.login r) →
      (LoginService.execute app.env PrismaUserRepository r).Told H Q)
    (hrefresh : ∀ token ip ua, app.call req = some (.refresh token ip ua) →
      (RefreshTokenService.execute app.env PrismaUserRepository token ip ua).Told H Q) :
    (app.handle req).Told H fun response ↦ ∀ tokens, response.Gives tokens → Q tokens := by
  unfold IdentityApp.call at hlogin hrefresh
  unfold handle
  cases harrive : app.arrive req with
  | answered response =>
    apply told_pure
    intro tokens h
    exact (arrive_dataless harrive _ h).elim
  | calls x c =>
    rw [harrive] at hlogin hrefresh
    apply Told.seq (R := fun response : HttpResponse AuthData ↦
      ∀ tokens, response.body = .data (.tokens tokens) → Q tokens)
    · cases c with
      | login r => exact AuthCall.respond_tokens (hlogin r rfl)
      | refresh token ip ua => exact AuthCall.respond_tokens (hrefresh token ip ua rfl)
      | _ => exact AuthCall.respond_tokenless fun _ _ ↦ AuthData.noConfusion
    · intro response hresponse
      apply told_pure
      intro tokens h
      exact hresponse tokens (AppBody.auth.inj h)

end Tokens

/-! ### What a login and a refresh have checked when they return -/

/-- A user that is read is one of the rows that were told. -/
theorem PrismaUserRepository.told_toDomainUser {H : (op : Op) → Except JsError op.Reply → Prop}
    {R : UserRow → Prop} {p : Program (Option UserRow)}
    (hp : p.Told H fun record ↦ ∀ row, record = some row → R row) :
    (p >>= fun record ↦ pure (record.map toDomainUser)).Told H fun user ↦
      ∀ u, user = some u → ∃ row, u = toDomainUser row ∧ R row := by
  apply hp.seq
  intro record h
  apply told_pure
  intro u hu
  obtain ⟨row, hrow, rfl⟩ := Option.map_eq_some_iff.mp hu
  exact ⟨row, rfl, h row hrow⟩

/-- The rule for a new session: it returns the pair that is minted for it. -/
theorem LoginService.told_openSession {env : Env} {H : (op : Op) → Except JsError op.Reply → Prop}
    {Q : LoginResponse → Prop} {r : LoginRequest} {user : User}
    (hmint : ∀ payload : Claims, payload.nbf = .undefined →
      (generateTokens env payload (.str user.id)).Told H Q) :
    (openSession env PrismaUserRepository r user).Told H Q := by
  unfold openSession
  apply told_then
  intro directRoles
  apply told_then
  intro effectiveRoles
  apply told_then
  intro effectivePermissions
  apply told_then
  intro sessionId
  apply Told.seq (hmint _ rfl)
  intro tokens htokens
  apply told_then
  intro expiresAt
  apply told_then
  intro createdAt
  apply told_then
  intro _
  apply told_then
  intro _
  exact told_pure htokens

/-- The rule for a rotation: it returns the pair that is minted for the session that replaces the
old one. -/
theorem RefreshTokenService.told_rotate {env : Env}
    {H : (op : Op) → Except JsError op.Reply → Prop} {Q : LoginResponse → Prop} {userId : Value}
    {ip ua : String} {session : DeviceSession} {user : User} {now : Nat}
    (hmint : ∀ payload : Claims, payload.nbf = .undefined →
      (generateTokens env payload userId).Told H Q) :
    (rotate env PrismaUserRepository userId ip ua session user now).Told H Q := by
  unfold rotate
  apply told_then
  intro session
  apply told_then
  intro _
  apply told_then
  intro directRoles
  apply told_then
  intro effectiveRoles
  apply told_then
  intro effectivePermissions
  apply told_then
  intro newSessionId
  apply Told.seq (hmint _ rfl)
  intro tokens htokens
  apply told_then
  intro _
  apply told_then
  intro _
  exact told_pure htokens

/-- The rule for a login: what opens the session, for the user that was found under the address and
with the password, returns the pair. -/
theorem LoginService.told_execute {env : Env} {H : (op : Op) → Except JsError op.Reply → Prop}
    {Q : LoginResponse → Prop} {r : LoginRequest}
    (hopen : ∀ row user, H (.user (.findUniqueByEmail (EmailValidator.normalize env r.email)))
        (.ok (some row)) → row.isLocked = false →
      H (.hasher (.verify row.passwordHash (Argon2PasswordHasher.applyPepper env r.passwordRaw)))
        (.ok true) → user.id = row.id →
      (openSession env PrismaUserRepository r user).Told H Q) :
    (execute env PrismaUserRepository r).Told H Q := by
  have hrefuse : ∀ hash, (refuse env hash r.passwordRaw).Told H Q :=
    fun hash ↦ told_then fun _ ↦ told_throw
  unfold execute
  dsimp only
  split
  · apply Told.seq (R := fun user ↦ ∀ u, user = some u → ∃ row, u = toDomainUser row ∧
      H (.user (.findUniqueByEmail (EmailValidator.normalize env r.email))) (.ok (some row)))
    · apply PrismaUserRepository.told_toDomainUser
      apply told_perform
      rintro _ h row rfl
      exact h
    · intro user huser
      cases user with
      | none => exact hrefuse _
      | some user =>
        obtain ⟨row, rfl, hfound⟩ := huser user rfl
        dsimp only
        split
        · exact hrefuse _
        · next hlocked =>
          apply Told.seq (R := fun valid ↦ valid = true → H (.hasher (.verify row.passwordHash
            (Argon2PasswordHasher.applyPepper env r.passwordRaw))) (.ok true))
          · apply told_tryCatch
            · apply told_perform
              rintro _ h rfl
              exact h
            · intro _
              apply told_pure
              intro h
              cases h
          · intro valid hvalid
            split
            · next hright =>
              apply Told.seq (R := fun u : User ↦ u.id = row.id)
              · intro u hu
                rw [(User.recordLogin_ok hu).2]
                rfl
              · intro u hu
                apply told_then
                intro _
                exact hopen row u hfound (by simpa using hlocked) (hvalid hright) hu
            · apply told_then
              intro _
              exact told_throw
  · exact hrefuse _

/-- The rule for a refresh: the rotation, for the user that was found under the subject of a token
that has passed, returns the pair. -/
theorem RefreshTokenService.told_execute {env : Env}
    {H : (op : Op) → Except JsError op.Reply → Prop} {Q : LoginResponse → Prop}
    {token : Text} {ip ua : String}
    (hrotate : ∀ decoded t session row now,
      JwtTokenService.verifyAt env token t = .ok decoded →
      H (.user (.findUniqueById decoded.sub)) (.ok (some row)) →
      (rotate env PrismaUserRepository decoded.sub ip ua session (toDomainUser row) now).Told H Q) :
    (execute env PrismaUserRepository token ip ua).Told H Q := by
  apply Told.seq (R := fun decoded ↦ ∃ t, JwtTokenService.verifyAt env token t = .ok decoded)
  · apply told_tryCatch
    · apply told_then
      intro t decoded h
      exact ⟨t, h⟩
    · exact fun _ ↦ told_throw
  rintro decoded ⟨t, hverify⟩
  apply told_then
  intro session
  cases session with
  | none => exact told_throw
  | some session =>
    dsimp only [present]
    split
    · apply told_then
      intro _
      apply told_then
      intro _
      exact told_throw
    · split
      · exact told_throw
      · split
        · exact told_throw
        · apply told_then
          intro now
          split
          · exact told_throw
          · apply Told.seq (R := fun user ↦ ∀ u, user = some u → ∃ row, u = toDomainUser row ∧
              H (.user (.findUniqueById decoded.sub)) (.ok (some row)))
            · apply PrismaUserRepository.told_toDomainUser
              apply told_perform
              rintro _ h row rfl
              exact h
            · intro user huser
              cases user with
              | none => exact told_throw
              | some user =>
                obtain ⟨row, rfl, hfound⟩ := huser user rfl
                dsimp only
                split
                · exact told_throw
                · exact hrotate decoded t session row now hverify hfound

end Bankos
