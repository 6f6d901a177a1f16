import Bankos.Http.Pact
import Bankos.Sessions.Refresh
import Bankos.Users.ResetPassword

/-!
# What the application leaves behind

Under the application no user changes its email, its password or its verification, and the audit
trail is sound: each row that it adds was recorded by one request, which carries the address and the
agent of the row and has earned it. A login and a registration that are answered with data have
left such a row. `save` creates users, so a reset of a password and a verification of an email never
succeed and are never recorded.
-/

namespace Bankos

open Js Jwt Effects Storage Prog DatabaseMapper

/-! ### What is recorded -/

/-- The row that `AuditEventHandler.handle` saves. -/
def AuditEventHandler.row (event : DomainEvent) (id : String) (timestamp : Nat) :
    AuditEventRow where
  id := id
  eventType := event.eventName
  userId := event.userId
  payload := details event
  ipAddress := orUnknown (event.metadata.map (·.ipAddress))
  userAgent := orUnknown (event.metadata.map (·.userAgent))
  timestamp := timestamp

/-- Since the scene `s₀` the call `c` of `i` has recorded a row that it has earned. -/
def Gained {ι : Type} (env : Env) (s₀ : AppScene ι) (i : ι) (c : AuthCall) (s : AppScene ι) :
    Prop :=
  ∃ row ∈ s.world.auditEvents, row ∉ s₀.world.auditEvents ∧ s.Answered i (.auditCreate row) () ∧
    c.Records env i s row

section Services

variable {ι : Type} {env : Env} {calls : ι → Option AuthCall} {i : ι} {s₀ s s' : AppScene ι}
  {c : AuthCall}

/-- A row that has been recorded stays. -/
theorem Gained.later (h : Gained env s₀ i c s) (hs : Leads env calls s s') :
    Gained env s₀ i c s' := by
  obtain ⟨row, hrow, hnew, hown, hrecords⟩ := h
  exact ⟨row, hs.kept row hrow, hnew, hs.answered _ hown, hrecords.later hs⟩

/-- A stored user stays. -/
theorem Leads.stores {row : UserRow} (hs : Leads env calls s s') (h : s.world.Stores row) :
    s'.world.Stores row := by
  obtain ⟨u, hu, hremains⟩ := h
  obtain ⟨u', hu', hremains'⟩ := hs.users u hu
  exact ⟨u', hu', hremains.trans hremains'⟩

/-- A stored session stays. -/
theorem Leads.storesSession {row : DeviceSessionRow} (hs : Leads env calls s s')
    (h : s.world.StoresSession row) : s'.world.StoresSession row := by
  obtain ⟨d, hd, hremains⟩ := h
  obtain ⟨d', hd', hremains'⟩ := hs.sessions d hd
  exact ⟨d', hd', hremains.trans hremains'⟩

/-- An event that is dispatched is recorded by the call that has earned it. -/
theorem dispatch_trails {event : DomainEvent} (hi : calls i = some c)
    (hs : Leads env calls s₀ s)
    (h : ∀ s', Leads env calls s s' → ∀ id timestamp,
      c.Records env i s' (AuditEventHandler.row event id timestamp)) :
    (dispatch [event]).Keeps (trail env calls) i (fun s' _ ↦ Gained env s₀ i c s') s := by
  have hhandle : (AuditEventHandler.handle event).Keeps (trail env calls) i
      (fun s' _ ↦ Gained env s₀ i c s') s := by
    apply helper_then SecureRandomGenerator.generateUUID_uses
    intro s₁ id h₁
    apply helper_then SystemClock.now_uses
    intro s₂ timestamp h₂
    apply keeps_perform
    intro s₃ h₃
    have hleads : Leads env calls s s₃ := (h₁.trans h₂).trans h₃
    have hrecords := h s₃ hleads id timestamp
    have hallows : Op.earned env calls i s₃
        (.auditCreate (AuditEventHandler.row event id timestamp)) := ⟨c, hi, hrecords⟩
    refine ⟨hallows, fun _ hexec s₄ h₄ ↦ ?_⟩
    have hstored := exec_auditCreate_ok hexec
    have hgained : Gained env s₀ i c (s₃.act (exec env) i
        (.auditCreate (AuditEventHandler.row event id timestamp))) := by
      refine ⟨_, hstored.1, fun hold ↦ hstored.2 ((hs.trans hleads).kept _ hold),
        Scene.answered_act hexec, ?_⟩
      exact hrecords.later hallows.leads
    exact hgained.later h₄
  have hwrap : ∀ {α β : Type} {p : Program α} (f : α → β),
      p.Keeps (trail env calls) i (fun s' _ ↦ Gained env s₀ i c s') s →
      (p >>= fun a ↦ pure (f a)).Keeps (trail env calls) i (fun s' _ ↦ Gained env s₀ i c s') s :=
    fun f hp ↦ hp.seq fun _ _ _ hgained ↦ keeps_pure fun _ hs'' ↦ hgained.later hs''
  rw [dispatch_single]
  exact hwrap _ (hwrap _ (hwrap _ hhandle))

/-! ### Users that are looked up and written -/

/-- A user that is found under an address is stored under it. -/
theorem PrismaUserRepository.findByEmail_trails (email : String) :
    (findByEmail email).Keeps (trail env calls) i
      (fun (s' : AppScene ι) user ↦ ∀ u, user = some u →
        ∃ row, u = toDomainUser row ∧ row.email = email ∧
        s'.Answered i (.user (.findUniqueByEmail email)) (some row) ∧ s'.world.Stores row) s := by
  apply Keeps.seq (R := fun (s' : AppScene ι) record ↦ ∀ row, record = some row →
    row.email = email ∧ s'.Answered i (.user (.findUniqueByEmail email)) (some row) ∧
    s'.world.Stores row)
  · apply keeps_perform
    intro s₁ h₁
    refine ⟨trivial, ?_⟩
    rintro _ hexec s₂ h₂ row rfl
    have hfind : (s₁.world.users.find fun r ↦ decide (r.email = email)) = some row :=
      Except.ok.inj hexec
    obtain ⟨hrow, hemail⟩ := Table.find_some hfind
    have hstores : s₁.world.Stores row := ⟨row, hrow, rfl, rfl, rfl, rfl⟩
    exact ⟨by simpa using hemail, h₂.answered _ (Scene.answered_act hexec), h₂.stores hstores⟩
  · intro s₁ record h₁ hrecord
    apply keeps_pure
    intro s₂ h₂ u hu
    obtain ⟨row, rfl, rfl⟩ := Option.map_eq_some_iff.mp hu
    obtain ⟨hemail, hanswered, hstores⟩ := hrecord row rfl
    exact ⟨row, rfl, hemail, h₂.answered _ hanswered, h₂.stores hstores⟩

/-- A user that is found by its id is stored. -/
theorem PrismaUserRepository.findById_trails (id : Value) :
    (findById id).Keeps (trail env calls) i
      (fun (s' : AppScene ι) user ↦ ∀ u, user = some u →
        ∃ row, u = toDomainUser row ∧ s'.world.Stores row) s := by
  apply Keeps.seq (R := fun (s' : AppScene ι) record ↦
    ∀ row, record = some row → s'.world.Stores row)
  · apply keeps_perform
    intro s₁ h₁
    refine ⟨trivial, ?_⟩
    rintro _ hexec s₂ h₂ row rfl
    have hstores : s₁.world.Stores row := ⟨row, mem_of_findUserById hexec, rfl, rfl, rfl, rfl⟩
    exact h₂.stores hstores
  · intro s₁ record h₁ hrecord
    apply keeps_pure
    intro s₂ h₂ u hu
    obtain ⟨row, rfl, rfl⟩ := Option.map_eq_some_iff.mp hu
    exact ⟨row, rfl, h₂.stores (hrecord row rfl)⟩

/-- An update that writes the password and the verification that were read. -/
theorem PrismaUserRepository.update_trails {row : UserRow} {user : User} (h : s.world.Stores row)
    (hid : user.id = row.id) (hhash : user.passwordHash = row.passwordHash)
    (hverified : user.emailVerified = row.emailVerified) :
    (update user).Keeps (trail env calls) i (fun _ _ ↦ True) s := by
  apply keeps_perform
  intro s₁ h₁
  refine ⟨fun u hu huid ↦ ?_, fun _ _ _ _ ↦ trivial⟩
  obtain ⟨u', hu', hid', -, hhash', hverified'⟩ := h₁.stores h
  have hsame : u' = u := UserTable.eq_of_id hu' hu (hid'.trans (hid.symm.trans huid.symm))
  subst hsame
  exact ⟨hhash.trans hhash'.symm, hverified.trans hverified'.symm⟩

/-- A stored user is not saved. -/
theorem PrismaUserRepository.save_stored {row : UserRow} {user : User} (h : s.world.Stores row)
    (hid : user.id = row.id) :
    (save user).Keeps (trail env calls) i (fun _ _ ↦ False) s := by
  apply keeps_perform
  intro s₁ h₁
  refine ⟨trivial, fun _ hexec ↦ ?_⟩
  obtain ⟨u, hu, hid', -⟩ := h₁.stores h
  have hstored : UserOp.exec env s₁.world.users (.create (toPrismaUser user)) = _ :=
    UserOp.exec_create_stored env hu (hid'.trans hid.symm)
  simp only [exec, hstored] at hexec
  cases hexec

/-- A user that is saved is stored. -/
theorem PrismaUserRepository.save_trails {user : User} :
    (save user).Keeps (trail env calls) i (fun (s' : AppScene ι) _ ↦
      s'.Answered i (.user (.create (toPrismaUser user))) () ∧
        s'.world.Stores (toPrismaUser user)) s := by
  apply keeps_perform
  intro s₁ h₁
  refine ⟨trivial, fun _ hexec s₂ h₂ ↦ ?_⟩
  have hstores : (s₁.act (exec env) i (.user (.create (toPrismaUser user)))).world.Stores
      (toPrismaUser user) := by
    show World.Stores (exec env s₁.world _).2 _
    simp only [exec, UserOp.exec] at hexec ⊢
    cases hinsert : s₁.world.users.insert (toPrismaUser user) with
    | none =>
      rw [hinsert] at hexec
      cases hexec
    | some t => exact ⟨_, (Table.mem_insert hinsert).mpr (.inr rfl), rfl, rfl, rfl, rfl⟩
  exact ⟨h₂.answered _ (Scene.answered_act hexec), h₂.stores hstores⟩

/-! ### The services -/

/-- A session that is opened is recorded as a login of its user. -/
theorem LoginService.openSession_trails {r : LoginRequest} {row : UserRow} {user : User}
    (hi : calls i = some (.login r)) (hs : Leads env calls s₀ s)
    (hevents : user.domainEvents =
      [{ detail := .userLoggedIn row.id r.ipAddress r.userAgent }])
    (hemail : row.email = EmailValidator.normalize env r.email)
    (hfound : s.Answered i (.user (.findUniqueByEmail (EmailValidator.normalize env r.email)))
      (some row))
    (hverified : s.Answered i (.hasher (.verify row.passwordHash
      (Argon2PasswordHasher.applyPepper env r.passwordRaw))) true)
    (hpassword : env.argon2Verify row.passwordHash
      (Argon2PasswordHasher.applyPepper env r.passwordRaw) = some true)
    (hstores : s.world.Stores row) :
    (openSession env PrismaUserRepository r user).Keeps (trail env calls) i
      (fun s' _ ↦ Gained env s₀ i (.login r) s') s := by
  unfold openSession
  apply helper_then (PrismaUserRepository.findRoles_uses _)
  intro s₁ directRoles h₁
  apply helper_then (AuthorizationEngine.resolveRoles_uses _)
  intro s₂ effectiveRoles h₂
  apply helper_then (AuthorizationEngine.resolvePermissions_uses _)
  intro s₃ effectivePermissions h₃
  apply helper_then SecureRandomGenerator.generateUUID_uses
  intro s₄ sessionId h₄
  apply helper_then (generateTokens_uses ..)
  intro s₅ tokens h₅
  apply helper_then (expiresAt_uses ..)
  intro s₆ expiresAt h₆
  apply helper_then SystemClock.now_uses
  intro s₇ createdAt h₇
  apply silent_then (PrismaDeviceSessionRepository.save_uses _) rfl
  intro s₈ _ h₈
  have hlater : Leads env calls s s₈ :=
    (((h₁.trans h₂).trans (h₃.trans h₄)).trans ((h₅.trans h₆).trans (h₇.trans h₈)))
  rw [hevents]
  apply Keeps.seq (dispatch_trails hi (hs.trans hlater) _)
  · intro s₉ _ h₉ hgained
    exact keeps_pure fun s' hs' ↦ hgained.later hs'
  · intro s₉ h₉ id timestamp
    have hlast := hlater.trans h₉
    exact ⟨row, hlast.answered _ hfound, hlast.answered _ hverified, hlast.stores hstores, hemail,
      hpassword, rfl, rfl, rfl, rfl, rfl⟩

/-- A password that is accepted has been verified. -/
theorem Argon2PasswordHasher.verify_trails (pchstr plaintext : String) :
    (verify env pchstr plaintext).Keeps (trail env calls) i
      (fun (s' : AppScene ι) valid ↦ valid = true →
        s'.Answered i (.hasher (.verify pchstr (applyPepper env plaintext))) true ∧
          env.argon2Verify pchstr (applyPepper env plaintext) = some true) s := by
  apply keeps_tryCatch
  · apply keeps_perform
    intro s₁ h₁
    refine ⟨trivial, ?_⟩
    rintro _ hexec s₂ h₂ rfl
    refine ⟨h₂.answered _ (Scene.answered_act hexec), ?_⟩
    simp only [exec, HasherOp.exec] at hexec
    split at hexec
    · next b hb =>
      cases hexec
      exact hb
    · cases hexec
  · intro e s₁ h₁
    apply keeps_pure
    intro _ _ h
    cases h

/-- A login that returns has recorded that its user has logged in. -/
theorem LoginService.execute_trails {r : LoginRequest} (hi : calls i = some (.login r))
    (hs : Leads env calls s₀ s) :
    (execute env PrismaUserRepository r).Keeps (trail env calls) i
      (fun s' _ ↦ Gained env s₀ i (.login r) s') s := by
  have hrefuse : ∀ hash s', (refuse env hash r.passwordRaw).Keeps (trail env calls) i
      (fun s' _ ↦ Gained env s₀ i (.login r) s') s' :=
    fun hash s' ↦ silent_then (Argon2PasswordHasher.verify_uses ..) rfl fun _ _ _ ↦ keeps_throw
  unfold execute
  dsimp only
  split
  · apply Keeps.seq (PrismaUserRepository.findByEmail_trails _)
    intro s₁ user h₁ huser
    cases user with
    | none => exact hrefuse _ _
    | some user =>
      obtain ⟨row, rfl, hemail, hfound, hstores⟩ := huser user rfl
      dsimp only
      split
      · exact hrefuse _ _
      · apply Keeps.seq (Argon2PasswordHasher.verify_trails _ _)
        intro s₂ valid h₂ hvalid
        split
        · next hright =>
          obtain ⟨hverified, hpassword⟩ := hvalid hright
          apply Keeps.seq (R := fun _ user ↦ user.id = row.id ∧
            user.passwordHash = row.passwordHash ∧ user.emailVerified = row.emailVerified ∧
            user.domainEvents = [{ detail := .userLoggedIn row.id r.ipAddress r.userAgent }])
          · intro s₃ h₃ user huser
            rw [(User.recordLogin_ok huser).2]
            exact ⟨rfl, rfl, rfl, rfl⟩
          · rintro s₃ user h₃ ⟨hid, hhash, hunverified, hevents⟩
            have hfirst := h₂.trans h₃
            apply Keeps.seq (PrismaUserRepository.update_trails (hfirst.stores hstores) hid hhash
              hunverified)
            intro s₄ _ h₄ _
            have hlater := hfirst.trans h₄
            exact openSession_trails hi (hs.trans (h₁.trans hlater)) hevents hemail
              (hlater.answered _ hfound) ((h₃.trans h₄).answered _ hverified) hpassword
              (hlater.stores hstores)
        · obtain ⟨hid, -, hhash, hverified⟩ :=
            User.incrementFailedAttempts_spec (toDomainUser row) 5
          apply Keeps.seq (PrismaUserRepository.update_trails (h₂.stores hstores) hid hhash
            hverified)
          intro s₃ _ _ _
          exact keeps_throw
  · exact hrefuse _ _

/-- A registration that returns has recorded that its user has registered. -/
theorem RegisterUserService.execute_trails {r : RegisterUserRequest}
    (hi : calls i = some (.register r)) (hs : Leads env calls s₀ s) :
    (execute env r).Keeps (trail env calls) i
      (fun s' _ ↦ Gained env s₀ i (.register r) s') s := by
  unfold execute
  dsimp only
  split
  · exact keeps_throw
  · split
    · exact keeps_throw
    · apply silent_then (PrismaUserRepository.emailExists_uses _) rfl
      intro s₁ emailExists h₁
      split
      · exact keeps_throw
      · apply silent_then (PrismaRoleRepository.findByName_uses _) rfl
        intro s₂ defaultRole h₂
        cases defaultRole with
        | none => exact keeps_throw
        | some defaultRole =>
          unfold createUser
          apply helper_then (Argon2PasswordHasher.hash_uses ..)
          intro s₃ passwordHash h₃
          apply helper_then SecureRandomGenerator.generateUUID_uses
          intro s₄ id h₄
          apply Keeps.seq PrismaUserRepository.save_trails
          rintro s₅ _ h₅ ⟨hcreated, hstores⟩
          apply silent_then (PrismaUserRepository.assignRole_uses _ _) rfl
          intro s₆ _ h₆
          unfold issueToken
          apply helper_then (SecureRandomGenerator.generateToken_uses _)
          intro s₇ tokenRaw h₇
          apply helper_then SystemClock.now_uses
          intro s₈ now h₈
          apply silent_then (PrismaEmailVerificationTokenRepository.save_uses _) rfl
          intro s₉ _ h₉
          have hlater : Leads env calls s₅ s₉ := (h₆.trans h₇).trans (h₈.trans h₉)
          have hfirst : Leads env calls s s₅ := (h₁.trans h₂).trans ((h₃.trans h₄).trans h₅)
          apply Keeps.seq (dispatch_trails hi (hs.trans (hfirst.trans hlater)) _)
          · intro s' _ h' hgained
            exact keeps_pure fun s'' hs'' ↦ hgained.later hs''
          · intro s' h' id timestamp
            have hlast := hlater.trans h'
            exact ⟨_, hlast.answered _ hcreated, hlast.stores hstores, rfl, rfl, rfl, rfl, rfl,
              rfl⟩

/-- A request for a reset records that it was made. -/
theorem ForgotPasswordService.execute_trails {r : ForgotPasswordRequest}
    (hi : calls i = some (.forgotPassword r)) (hs : Leads env calls s₀ s) :
    (execute env r).Keeps (trail env calls) i (fun _ _ ↦ True) s := by
  unfold execute
  dsimp only
  split
  · exact keeps_throw
  · apply Keeps.seq (PrismaUserRepository.findByEmail_trails _)
    intro s₁ user h₁ huser
    cases user with
    | none => exact keeps_pure fun _ _ ↦ trivial
    | some user =>
      obtain ⟨row, rfl, hemail, hfound, hstores⟩ := huser user rfl
      unfold issueToken
      apply helper_then (SecureRandomGenerator.generateToken_uses _)
      intro s₂ rawToken h₂
      apply helper_then SystemClock.now_uses
      intro s₃ now h₃
      dsimp only
      apply Keeps.seq (R := fun (s' : AppScene ι) _ ↦ s'.Answered i (.resetToken (.upsert
        ⟨SecureRandomGenerator.hashString env (.plain rawToken), row.id, false,
          now + quarterHour⟩)) ())
      · apply keeps_perform
        exact fun s₄ _ ↦ ⟨trivial, fun _ hexec s₅ h₅ ↦
          h₅.answered _ (Scene.answered_act hexec)⟩
      · intro s₄ _ h₄ hissued
        apply silent_then (ConsoleMailer.sendPasswordReset_uses _ _) rfl
        intro s₅ _ h₅
        have hlater : Leads env calls s₁ s₅ := (h₂.trans h₃).trans (h₄.trans h₅)
        apply (dispatch_trails hi (hs.trans (h₁.trans hlater)) _).mono
        · exact fun _ _ _ _ ↦ trivial
        · intro s₆ h₆ id timestamp
          have hlast := hlater.trans h₆
          exact ⟨row, _, hlast.answered _ hfound, (h₅.trans h₆).answered _ hissued, rfl,
            hlast.stores hstores, hemail, rfl, rfl, rfl, rfl, rfl⟩

/-- A session that is found by its id is stored. -/
theorem PrismaDeviceSessionRepository.findById_trails (id : Value) :
    (findById id).Keeps (trail env calls) i (fun (s' : AppScene ι) session ↦
      ∀ d, session = some d → ∃ row, d = toDomainDeviceSession row ∧
        s'.Answered i (.session (.findUniqueById id)) (some row) ∧ s'.world.StoresSession row)
      s := by
  apply Keeps.seq (R := fun (s' : AppScene ι) record ↦ ∀ row, record = some row →
    s'.Answered i (.session (.findUniqueById id)) (some row) ∧ s'.world.StoresSession row)
  · apply keeps_perform
    intro s₁ h₁
    refine ⟨trivial, ?_⟩
    rintro _ hexec s₂ h₂ row rfl
    have hstores : s₁.world.StoresSession row := ⟨row, mem_of_findUniqueById hexec, rfl, rfl, rfl⟩
    exact ⟨h₂.answered _ (Scene.answered_act hexec), h₂.storesSession hstores⟩
  · intro s₁ record h₁ hrecord
    apply keeps_pure
    intro s₂ h₂ d hd
    obtain ⟨row, rfl, rfl⟩ := Option.map_eq_some_iff.mp hd
    obtain ⟨hanswered, hstores⟩ := hrecord row rfl
    exact ⟨row, rfl, h₂.answered _ hanswered, h₂.storesSession hstores⟩

/-- A logout records the end of the session whose token was presented. -/
theorem LogoutService.execute_trails {r : LogoutRequest} {ip ua : String}
    (hi : calls i = some (.logout r ip ua)) (hs : Leads env calls s₀ s) :
    (execute env r ip ua).Keeps (trail env calls) i (fun _ _ ↦ True) s := by
  unfold execute
  apply silent_then (blacklistAccessToken_uses ..) rfl
  intro s₁ _ h₁
  split
  · apply Keeps.seq (PrismaDeviceSessionRepository.findById_trails _)
    intro s₂ session h₂ hsession
    cases session with
    | none => exact keeps_pure fun _ _ ↦ trivial
    | some session =>
      obtain ⟨row, rfl, hfound, hstored⟩ := hsession session rfl
      dsimp only
      unfold endSession
      split
      · exact keeps_pure fun _ _ ↦ trivial
      · next hactive =>
        have hloaded : s₂.Answered i (.session (.findUniqueById (sessionId r)))
            (some { row with isRevoked := false }) := by
          have hdown : row.isRevoked = false := by simpa using hactive
          rw [← hdown]
          exact hfound
        dsimp only
        split
        · next htoken =>
          apply Keeps.seq (R := fun _ session ↦
            toPrismaDeviceSession session = { row with isRevoked := true } ∧
            session.domainEvents =
              [{ detail := .tokenRevoked row.id row.userId "User requested logout" }])
          · intro s₃ h₃ session hrevoke
            obtain ⟨-, rfl⟩ := DeviceSession.revoke_ok hrevoke
            exact ⟨rfl, rfl⟩
          · rintro s₃ session h₃ ⟨hsession, hevents⟩
            apply Keeps.seq (R := fun (s' : AppScene ι) _ ↦
              s'.Answered i (.session (.upsert { row with isRevoked := true })) ())
            · apply keeps_perform
              intro s₄ h₄
              refine ⟨trivial, fun _ hexec s₅ h₅ ↦ ?_⟩
              rw [hsession] at hexec h₅
              exact h₅.answered _ (Scene.answered_act hexec)
            · intro s₄ _ h₄ hsaved
              have hlater : Leads env calls s₂ s₄ := h₃.trans h₄
              rw [hevents]
              apply (dispatch_trails hi (hs.trans ((h₁.trans h₂).trans hlater)) _).mono
              · exact fun _ _ _ _ ↦ trivial
              · intro s₅ h₅ id timestamp
                have hlast := hlater.trans h₅
                exact ⟨{ row with isRevoked := true }, hlast.answered _ hloaded,
                  h₅.answered _ hsaved, rfl, hlast.storesSession hstored, htoken, rfl, rfl, rfl,
                  rfl, rfl⟩
        · exact keeps_throw
  · exact keeps_throw

/-- A refresh records nothing: the session that is found under a hash has this hash. -/
theorem RefreshTokenService.execute_trails (token : Text) (ip ua : String) :
    (execute env PrismaUserRepository token ip ua).Keeps (trail env calls) i (fun _ _ ↦ True)
      s := by
  apply helper_then (verified_uses env token)
  intro s₁ decoded h₁
  apply Keeps.seq (R := fun _ session ↦ ∀ d, session = some d →
    d.refreshToken = SecureRandomGenerator.hashString env token)
  · apply Keeps.seq (R := fun _ record ↦ ∀ row, record = some row →
      row.refreshToken = SecureRandomGenerator.hashString env token)
    · apply keeps_perform
      intro s₂ h₂
      refine ⟨trivial, ?_⟩
      rintro _ hexec s₃ h₃ row rfl
      exact (mem_of_findUniqueByRefreshToken hexec).2
    · intro s₂ record h₂ hrecord
      apply keeps_pure
      intro s₃ h₃ d hd
      obtain ⟨row, rfl, rfl⟩ := Option.map_eq_some_iff.mp hd
      exact hrecord row rfl
  · intro s₂ session h₂ hsession
    cases session with
    | none => exact keeps_throw
    | some session =>
      unfold present
      dsimp only
      rw [if_neg (not_not.mpr (hsession session rfl))]
      split
      · exact keeps_throw
      · split
        · exact keeps_throw
        · apply helper_then SystemClock.now_uses
          intro s₃ now h₃
          split
          · exact keeps_throw
          · apply silent_then (PrismaUserRepository.proper.findById_uses _) rfl
            intro s₄ user h₄
            cases user with
            | none => exact keeps_throw
            | some user =>
              dsimp only
              split
              · exact keeps_throw
              · exact (silent_keeps (rotate_uses PrismaUserRepository.proper ..) rfl).mono
                  fun _ _ _ _ ↦ trivial

/-- A reset of a password does not succeed: the user that is found is not saved. -/
theorem ResetPasswordService.execute_trails (r : ResetPasswordRequest) :
    (execute env PrismaUserRepository r).Keeps (trail env calls) i (fun _ _ ↦ False) s := by
  unfold execute
  dsimp only
  apply silent_then (PrismaPasswordResetTokenRepository.findByToken_uses _) rfl
  intro s₁ resetToken h₁
  cases resetToken with
  | none => exact keeps_throw
  | some resetToken =>
    unfold redeem
    apply helper_then SystemClock.now_uses
    intro s₂ now h₂
    split
    · exact keeps_throw
    · split
      · exact keeps_throw
      · apply Keeps.seq (PrismaUserRepository.findById_trails _)
        intro s₃ user h₃ huser
        cases user with
        | none => exact keeps_throw
        | some user =>
          obtain ⟨row, rfl, hstores⟩ := huser user rfl
          unfold changePassword
          apply helper_then (Argon2PasswordHasher.hash_uses ..)
          intro s₄ newPasswordHash h₄
          apply Keeps.seq (R := fun _ user ↦ user.id = row.id)
          · intro s₅ h₅ user huser
            exact (User.changePassword_ok huser).2.1
          · intro s₅ user h₅ hid
            apply Keeps.seq
              (PrismaUserRepository.save_stored ((h₄.trans h₅).stores hstores) hid)
            exact fun _ _ _ h ↦ h.elim

/-- A verification of an email does not succeed either. -/
theorem VerifyEmailService.execute_trails (r : VerifyEmailRequest) :
    (execute env PrismaUserRepository r).Keeps (trail env calls) i (fun _ _ ↦ False) s := by
  unfold execute
  dsimp only
  apply silent_then (PrismaEmailVerificationTokenRepository.findByToken_uses _) rfl
  intro s₁ verificationToken h₁
  cases verificationToken with
  | none => exact keeps_throw
  | some verificationToken =>
    apply helper_then SystemClock.now_uses
    intro s₂ now h₂
    split
    · exact keeps_throw
    · split
      · exact keeps_throw
      · apply Keeps.seq (PrismaUserRepository.findById_trails _)
        intro s₃ user h₃ huser
        cases user with
        | none => exact keeps_throw
        | some user =>
          obtain ⟨row, rfl, hstores⟩ := huser user rfl
          unfold verifyEmail
          have hid : (toDomainUser row).verifyEmail.id = row.id := by
            unfold User.verifyEmail
            split <;> rfl
          apply Keeps.seq (PrismaUserRepository.save_stored hstores hid)
          exact fun _ _ _ h ↦ h.elim

/-! ### The controllers -/

/-- What the answer to the call `c` of `i` says of the scene: data for what has been recorded, and
never a success for a reset or a verification. -/
def AuthCall.Leaves {ι : Type} (env : Env) (s₀ : AppScene ι) (i : ι) (s : AppScene ι)
    (response : HttpResponse AuthData) : AuthCall → Prop
  | .register r => ∀ data, response.body = .data data → Gained env s₀ i (.register r) s
  | .login r => ∀ data, response.body = .data data → Gained env s₀ i (.login r) s
  | .resetPassword _ => 400 ≤ response.status ∧ ∃ code message, response.body = .error code message
  | .verifyEmail _ => 400 ≤ response.status ∧ ∃ code message, response.body = .error code message
  | _ => True

/-- What an answer says stays so. -/
theorem AuthCall.Leaves.later {response : HttpResponse AuthData}
    (h : c.Leaves env s₀ i s response) (hs : Leads env calls s s') :
    c.Leaves env s₀ i s' response := by
  cases c with
  | register r => exact fun data hdata ↦ (h data hdata).later hs
  | login r => exact fun data hdata ↦ (h data hdata).later hs
  | _ => exact h

/-- A controller answers with the result of its service, or with an error. -/
theorem AuthCall.respond_trails {α β : Type} {service : Program α} {respond : α → HttpResponse β}
    {f : β → AuthData} {R : AppScene ι → α → Prop} {Q : AppScene ι → HttpResponse AuthData → Prop}
    (h : service.Keeps (trail env calls) i R s)
    (hlater : ∀ {s s' a}, Leads env calls s s' → R s a → R s' a)
    (hok : ∀ s' a, R s' a → Q s' ((respond a).map f))
    (herror : ∀ s' status code message, 400 ≤ status → Q s' ⟨status, .error code message⟩) :
    (AuthCall.respond (AuthController.answer service respond) f).Keeps (trail env calls) i Q s := by
  apply Keeps.seq (R := fun s' response ↦ (∃ a, R s' a ∧ response = respond a) ∨
    ∃ status code message, response = ⟨status, .error code message⟩ ∧ 400 ≤ status)
  · apply keeps_tryCatch
    · apply Keeps.seq h
      intro s₁ a h₁ ha
      exact keeps_pure fun s₂ h₂ ↦ .inl ⟨a, hlater h₂ ha, rfl⟩
    · intro e s₁ h₁
      exact keeps_pure fun _ _ ↦ .inr (AuthController.handleError_eq e)
  · rintro s₁ response h₁ (⟨a, ha, rfl⟩ | ⟨status, code, message, rfl, hstatus⟩)
    · exact keeps_pure fun s₂ h₂ ↦ hok s₂ a (hlater h₂ ha)
    · exact keeps_pure fun s₂ h₂ ↦ herror s₂ status code message hstatus

/-- A call keeps to the pact, and leaves what its answer says. -/
theorem AuthCall.program_trails (c : AuthCall) (hi : calls i = some c)
    (hs : Leads env calls s₀ s) :
    (c.program env).Keeps (trail env calls) i (fun s' response ↦ c.Leaves env s₀ i s' response)
      s := by
  cases c with
  | register r =>
    apply respond_trails (RegisterUserService.execute_trails hi hs)
    · exact fun hs h ↦ h.later hs
    · exact fun _ _ h _ _ ↦ h
    · rintro _ _ _ _ _ _ ⟨⟩
  | login r =>
    apply respond_trails (LoginService.execute_trails hi hs)
    · exact fun hs h ↦ h.later hs
    · exact fun _ _ h _ _ ↦ h
    · rintro _ _ _ _ _ _ ⟨⟩
  | refresh token ip ua =>
    apply respond_trails (RefreshTokenService.execute_trails token ip ua)
    · exact fun _ _ ↦ trivial
    · exact fun _ _ _ ↦ trivial
    · exact fun _ _ _ _ _ ↦ trivial
  | logout r ip ua =>
    apply respond_trails (LogoutService.execute_trails hi hs)
    · exact fun _ _ ↦ trivial
    · exact fun _ _ _ ↦ trivial
    · exact fun _ _ _ _ _ ↦ trivial
  | forgotPassword r =>
    apply respond_trails (ForgotPasswordService.execute_trails hi hs)
    · exact fun _ _ ↦ trivial
    · exact fun _ _ _ ↦ trivial
    · exact fun _ _ _ _ _ ↦ trivial
  | resetPassword r =>
    apply respond_trails (ResetPasswordService.execute_trails r)
    · exact fun _ h ↦ h
    · exact fun _ _ h ↦ h.elim
    · exact fun _ _ code message hstatus ↦ ⟨hstatus, code, message, rfl⟩
  | verifyEmail r =>
    apply respond_trails (VerifyEmailService.execute_trails r)
    · exact fun _ h ↦ h
    · exact fun _ _ h ↦ h.elim
    · exact fun _ _ code message hstatus ↦ ⟨hstatus, code, message, rfl⟩
  | sendVerification email =>
    apply respond_trails (silent_keeps (SendVerificationEmailService.execute_uses env email) rfl)
    · exact fun _ _ ↦ trivial
    · exact fun _ _ _ ↦ trivial
    · exact fun _ _ _ _ _ ↦ trivial

/-- A call keeps the session ledger. -/
theorem AuthCall.program_keeps (env : Env) (c : AuthCall) :
    (c.program env).Obeys sessionLedger {} fun _ _ ↦ True := by
  have hu := PrismaUserRepository.proper
  have hweak : ∀ {α : Type} {m : Ledger → Prop} {p : Program α} {Q : Ledger → α → Prop},
      Ensures (sessionProtocol m) {} p Q → p.Obeys sessionLedger {} fun _ _ ↦ True :=
    fun h ↦ (Obeys.allowing h fun _ _ ↦ Ledger.allows_of_allowsIf).mono fun _ _ _ ↦ trivial
  have hbeside : ∀ {α : Type} {p : Program α} {areas : List Area}, p.Uses (Op.within areas) →
      .session ∉ areas → p.Obeys sessionLedger {} fun _ _ ↦ True := fun hp h ↦
    hweak (m := fun _ ↦ True) (extends_of_uses (hp.mono fun _ hop ↦ hop.besideSessions h) _)
  cases c with
  | register r => exact respond_obeys (hbeside (RegisterUserService.execute_uses env r) (by simp))
  | login r => exact respond_obeys (hweak (LoginService.execute_keeps hu env r _))
  | refresh token ip ua =>
    exact respond_obeys (hweak (RefreshTokenService.execute_keeps hu env token ip ua rfl))
  | logout r ip ua => exact respond_obeys (hweak (LogoutService.execute_keeps env r ip ua _))
  | forgotPassword r =>
    exact respond_obeys (hbeside (ForgotPasswordService.execute_uses env r) (by simp))
  | resetPassword r => exact respond_obeys (hweak (ResetPasswordService.execute_keeps hu env r _))
  | verifyEmail r =>
    exact respond_obeys (hbeside (VerifyEmailService.execute_uses hu env r) (by simp))
  | sendVerification email =>
    exact respond_obeys (hbeside (SendVerificationEmailService.execute_uses env email) (by simp))

end Services

/-! ### Runs -/

/-- A request keeps to the pact, and leaves what its answer says. -/
theorem IdentityApp.handle_trails {ι : Type} {app : IdentityApp} {calls : ι → Option AuthCall}
    {i : ι} {req : IdentityRequest} {s : AppScene ι} (hi : calls i = app.call req) :
    (app.handle req).Keeps (trail app.env calls) i
      (fun s' response ↦ ∀ c, app.call req = some c → ∃ body, response.body = .auth body ∧
        c.Leaves app.env s i s' ⟨response.status, body⟩) s := by
  unfold IdentityApp.call at hi ⊢
  unfold handle
  cases harrive : app.arrive req with
  | answered response =>
    apply keeps_pure
    rintro _ _ _ ⟨⟩
  | calls x c =>
    rw [harrive] at hi
    apply Keeps.seq (c.program_trails hi (.refl s))
    intro s₁ response h₁ hleaves
    apply keeps_pure
    rintro s₂ h₂ _ ⟨⟩
    exact ⟨response.body, rfl, hleaves.later h₂⟩

/-- A row of the trail was recorded by one program at most. -/
theorem recorded_once {ι α : Type} [DecidableEq ι] {env : Env}
    {ok : Pool Api JsError ι α World → Turn JsError ι Nat → Prop} {rest : ι → Program α} {w : World}
    {q : Pool Api JsError ι α World} (hq : Pool.Reaches (exec env) World.pass ok (.start w rest) q)
    {i j : ι} {row : AuditEventRow} (hi : q.scene.Answered i (.auditCreate row) ())
    (hj : q.scene.Answered j (.auditCreate row) ()) : j = i := by
  -- the rows that were recorded are in the trail, and a row of the trail is not recorded again
  suffices h : ∀ row i, q.scene.Answered i (.auditCreate row) () → row ∈ q.world.auditEvents ∧
      ∀ j, q.scene.Answered j (.auditCreate row) () → j = i from (h row i hi).2 j hj
  clear hi hj
  apply hq.invariant (J := fun q : Pool Api JsError ι α World ↦ ∀ row i,
    q.scene.Answered i (.auditCreate row) () → row ∈ q.world.auditEvents ∧
      ∀ j, q.scene.Answered j (.auditCreate row) () → j = i)
  · intro row i h
    cases h
  · intro q k op next _ hJ _ _ row i hi
    have hcases : ∀ {l}, (q.scene.act (exec env) k op).Answered l (.auditCreate row) () →
        q.scene.Answered l (.auditCreate row) () ∨ l = k ∧ op = .auditCreate row ∧
          (exec env q.world (.auditCreate row)).1 = .ok () := Scene.of_answered_act
    rcases hcases hi with hold | ⟨rfl, rfl, hok⟩
    · obtain ⟨hrow, honly⟩ := hJ row i hold
      refine ⟨exec_trail_kept env q.world op row hrow, fun j hj ↦ ?_⟩
      rcases hcases hj with hold' | ⟨-, -, hok⟩
      · exact honly j hold'
      · exact absurd hrow (exec_auditCreate_ok hok).2
    · obtain ⟨hrow, hnew⟩ := exec_auditCreate_ok hok
      refine ⟨hrow, fun j hj ↦ ?_⟩
      rcases hcases hj with hold | ⟨hwho, -, -⟩
      · exact absurd (hJ row j hold).1 hnew
      · exact hwho
  · intro q k e op next _ hJ _ _ row i hi
    have hcases : ∀ {l}, (q.scene.record k op (.error e) q.world).Answered l (.auditCreate row) () →
        q.scene.Answered l (.auditCreate row) () := Scene.of_answered_fail
    obtain ⟨hrow, honly⟩ := hJ row i (hcases hi)
    exact ⟨hrow, fun j hj ↦ honly j (hcases hj)⟩
  · exact fun q t hJ _ ↦ hJ

section Runs

variable {ι : Type} [DecidableEq ι] {app : IdentityApp} {reqs : ι → IdentityRequest} {w : World}
  {ok : HttpServer ι → Turn JsError ι Nat → Prop} {q : HttpServer ι}

/-- The run: the scene has become another one as agreed. -/
theorem http_leads (hq : Pool.Reaches (exec app.env) World.pass ok (app.start reqs w) q) :
    Leads app.env (fun i ↦ app.call (reqs i)) ⟨w, []⟩ q.scene ∧
      ∀ i response c, q.Returned i response → app.call (reqs i) = some c →
        ∃ body, response.body = .auth body ∧
          c.Leaves app.env ⟨w, []⟩ i q.scene ⟨response.status, body⟩ := by
  have hpass : ∀ (s : AppScene ι) (t : Nat),
      (trail app.env fun i ↦ app.call (reqs i)).leads s ⟨s.world.pass t, s.log⟩ := Leads.pass
  have hrest : ∀ i, (app.handle (reqs i)).Keeps (trail app.env fun i ↦ app.call (reqs i)) i _
      ⟨w, []⟩ := fun i ↦ app.handle_trails rfl
  refine ⟨(hq.keeps hpass hrest).1, fun i response c hreturned hcall ↦ ?_⟩
  exact hq.keeps_returned hpass hrest hreturned c hcall

/-- The address and the agent of a request are never empty. -/
theorem orUnknown_orUnknown (field : Option String) :
    AuditEventHandler.orUnknown (some (orUnknown field)) = orUnknown field := by
  unfold AuditEventHandler.orUnknown
  dsimp only
  apply if_neg
  unfold orUnknown
  cases field with
  | none => decide
  | some s =>
    by_cases hs : s = ""
    · simp [hs]
    · simp [hs]

omit [DecidableEq ι] in
/-- A row that a request has earned is from its address and its agent. -/
theorem AuthCall.Records.seenFrom {c : AuthCall} {row : AuditEventRow} {req : IdentityRequest}
    {i : ι} {s : AppScene ι} (h : c.Records app.env i s row) (hadmitted : req.Admitted app c) :
    row.ipAddress = req.ipAddress ∧ row.userAgent = req.userAgent := by
  obtain ⟨fields, -, -, -, hreads⟩ := hadmitted.body
  have hown : ∀ {eventType userId payload ipAddress userAgent},
      row.Tells eventType userId payload ipAddress userAgent → ipAddress = req.ipAddress →
      userAgent = req.userAgent →
        row.ipAddress = req.ipAddress ∧ row.userAgent = req.userAgent := by
    rintro _ _ _ _ _ htells rfl rfl
    exact ⟨htells.ipAddress.trans (orUnknown_orUnknown _),
      htells.userAgent.trans (orUnknown_orUnknown _)⟩
  cases c with
  | register r =>
    obtain ⟨_, _, _, _, htells⟩ := h
    exact hown htells hreads.2.2.1 hreads.2.2.2
  | login r =>
    obtain ⟨_, _, _, _, _, _, htells⟩ := h
    exact hown htells hreads.2.2.1 hreads.2.2.2
  | logout r ip ua =>
    obtain ⟨_, _, _, _, _, _, htells⟩ := h
    exact hown htells hreads.2.2.1 hreads.2.2.2
  | forgotPassword r =>
    obtain ⟨_, _, _, _, _, _, _, htells⟩ := h
    exact hown htells hreads.2.1 hreads.2.2
  | _ => exact h.elim

/-- Whatever requests arrive, in whatever order and with whatever failures, every user that was
stored keeps its id, its email, its password hash and its verification, and no reset of a password
and no verification of an email that reaches its controller is answered with a success. -/
theorem http_keeps_credentials (app : IdentityApp) (reqs : ι → IdentityRequest) (w : World)
    (hq : Pool.Reaches (exec app.env) World.pass ok (app.start reqs w) q) :
    (∀ u ∈ w.users, ∃ u' ∈ q.world.users, u.Remains u') ∧
      ∀ i response c, q.Returned i response → (reqs i).Admitted app c →
        c.route = .resetPassword ∨ c.route = .verifyEmail →
        400 ≤ response.status ∧ ∃ code message, response.body = .auth (.error code message) := by
  obtain ⟨hleads, hanswers⟩ := http_leads hq
  refine ⟨hleads.users, fun i response c hreturned hadmitted hroute ↦ ?_⟩
  obtain ⟨body, hbody, hleaves⟩ :=
    hanswers i response c hreturned (IdentityApp.call_eq_some.mpr hadmitted)
  have herror : 400 ≤ response.status ∧ ∃ code message, body = .error code message := by
    cases c with
    | resetPassword r => exact hleaves
    | verifyEmail r => exact hleaves
    | _ => simp [AuthCall.route] at hroute
  obtain ⟨hstatus, code, message, rfl⟩ := herror
  exact ⟨hstatus, code, message, hbody⟩

end Runs

/-- `alice` logs in, and wants to reset her password with the token from her mail. -/
def Sample.signInAndReset : Nat → IdentityRequest
  | 0 => signIn
  | _ => { signIn with
      path := "/api/v1/auth/reset-password"
      body := .ok (some (.obj
        [("token", .str "reset-token"), ("newPasswordRaw", .str "Another-horse-2")])) }

/-- First the reset, then the login. -/
def Sample.resetThenSignIn : HttpServer Nat :=
  (app.start signInAndReset resetRequested).play (exec env) World.pass
    (List.replicate 10 (.act 1) ++ List.replicate 20 (.act 0))

/-- What the request `i` is answered. -/
def Sample.answered (i : Nat) : AppResponse :=
  match resetThenSignIn.result i with
  | some (.ok response) => response
  | _ => ⟨404, none, .empty⟩

/-- The reset is answered with an error, and `alice` keeps her password. -/
theorem http_keeps_credentials_reset :
    (400 ≤ (Sample.answered 1).status ∧
      ∃ code message, (Sample.answered 1).body = .auth (.error code message)) ∧
    ∃ u ∈ Sample.resetThenSignIn.world.users, Sample.alice.Remains u := by
  have hkeeps := http_keeps_credentials Sample.app Sample.signInAndReset Sample.resetRequested
    (Pool.reaches_play_any _ (List.replicate 10 (.act 1) ++ List.replicate 20 (.act 0)))
  refine ⟨hkeeps.2 1 _ (.resetPassword Sample.reset) ?_ ?_ (.inl rfl), ?_⟩
  · show Sample.resetThenSignIn.Returned 1 (Sample.answered 1)
    decide +kernel
  · exact IdentityApp.call_eq_some.mp rfl
  · exact hkeeps.1 Sample.alice List.mem_cons_self

section Runs

variable {ι : Type} [DecidableEq ι] {app : IdentityApp} {reqs : ι → IdentityRequest} {w : World}
  {ok : HttpServer ι → Turn JsError ι Nat → Prop} {q : HttpServer ι}

/-- The audit trail under the application is sound: each row that was not there before was recorded
by exactly one request, which reached its controller and has earned the row by what it did, and the
row carries its address and its agent. The trail misses no login and no registration that is
answered with data. And where identifiers are fresh, a session that a request has saved as revoked
is stored as revoked from then on. -/
theorem http_audit_trail (app : IdentityApp) (reqs : ι → IdentityRequest) (w : World)
    (hq : Pool.Reaches (exec app.env) World.pass ok (app.start reqs w) q) :
    (∀ row ∈ q.world.auditEvents, row ∈ w.auditEvents ∨ ∃ i c, (reqs i).Admitted app c ∧
      (∀ j, ⟨j, .auditCreate row, .ok ()⟩ ∈ q.log ↔ j = i) ∧ c.Records app.env i q.scene row ∧
        row.ipAddress = (reqs i).ipAddress ∧ row.userAgent = (reqs i).userAgent) ∧
    (∀ i response c data, q.Returned i response → (reqs i).Admitted app c →
      c.route = .register ∨ c.route = .login → response.body = .auth (.data data) →
      ∃ row ∈ q.world.auditEvents, row ∉ w.auditEvents ∧
        ⟨i, .auditCreate row, .ok ()⟩ ∈ q.log ∧ c.Records app.env i q.scene row) ∧
    (FreshUuids app.env w → ∀ i d, ⟨i, .session (.upsert d), .ok ()⟩ ∈ q.log →
      d.isRevoked = true → d ∈ q.world.deviceSessions) := by
  obtain ⟨hleads, hanswers⟩ := http_leads hq
  refine ⟨fun row hrow ↦ ?_, fun i response c data hreturned hadmitted hroute hdata ↦ ?_,
    fun hw i d hsaved hrevoked ↦ ?_⟩
  · rcases hleads.recorded row hrow with hold | ⟨i, c, hcall, hown, hrecords⟩
    · exact .inl hold
    · have hadmitted := IdentityApp.call_eq_some.mp hcall
      refine .inr ⟨i, c, hadmitted, fun j ↦ ⟨fun hj ↦ recorded_once hq hown hj, ?_⟩, hrecords,
        hrecords.seenFrom hadmitted⟩
      rintro rfl
      exact hown
  · obtain ⟨body, hbody, hleaves⟩ :=
      hanswers i response c hreturned (IdentityApp.call_eq_some.mpr hadmitted)
    rw [hbody] at hdata
    cases c with
    | register r => exact hleaves data (AppBody.auth.inj hdata)
    | login r => exact hleaves data (AppBody.auth.inj hdata)
    | _ => simp [AuthCall.route] at hroute
  · have haccounted := accounted_of_keeps hq
      (fun i ↦ IdentityApp.handle_obeys fun c ↦ c.program_keeps app.env) hw
    exact ((haccounted.fits i).revoked d (mem_revoked_of_answered hsaved hrevoked)).1

end Runs

/-- The tokens that the login is answered with. -/
def Sample.signInData : AuthData :=
  match (answered 0).body with
  | .auth (.data data) => data
  | _ => .none

/-- The application, for a client that holds the refresh token of `alice`. -/
def Sample.signOutApp : IdentityApp := { app with text := fun _ ↦ tokens.refreshToken }

/-- `alice` logs out with the tokens of her login. -/
def Sample.signOut : IdentityRequest :=
  { signIn with
    path := "/api/v1/auth/logout"
    authorization := some [.plain "Bearer", tokens.accessToken]
    body := .ok (some (.obj [("refreshToken", .str "refresh-token")])) }

/-- The server in which `alice` has logged out. -/
def Sample.signedOut : HttpServer Nat :=
  (signOutApp.start (fun _ ↦ signOut) loggedIn).play (exec env) World.pass
    (List.replicate 20 (.act 0))

/-- The audit row of the logout. -/
def Sample.signOutRow : AuditEventRow :=
  signedOut.world.auditEvents.rows.getLastD ⟨"", "", .undefined, [], "", "", 0⟩

/-- The login of `alice` after the reset has been recorded by its own request, and her logout by its
own; the session that the logout has ended is stored as revoked. -/
theorem http_audit_trail_login :
    (∃ row ∈ Sample.resetThenSignIn.world.auditEvents, row ∉ Sample.resetRequested.auditEvents ∧
      ⟨0, .auditCreate row, .ok ()⟩ ∈ Sample.resetThenSignIn.log ∧
      AuthCall.Records Sample.env 0 Sample.resetThenSignIn.scene row (.login Sample.login)) ∧
    (∃ (i : Nat) (c : AuthCall),
      (∀ j, ⟨j, .auditCreate Sample.signOutRow, .ok ()⟩ ∈ Sample.signedOut.log ↔ j = i) ∧
      c.Records Sample.env i Sample.signedOut.scene Sample.signOutRow) ∧
    ∀ i d, ⟨i, .session (.upsert d), .ok ()⟩ ∈ Sample.signedOut.log → d.isRevoked = true →
      d ∈ Sample.signedOut.world.deviceSessions := by
  have hin := http_audit_trail Sample.app Sample.signInAndReset Sample.resetRequested
    (Pool.reaches_play_any _ (List.replicate 10 (.act 1) ++ List.replicate 20 (.act 0)))
  have hout := http_audit_trail Sample.signOutApp (fun _ : Nat ↦ Sample.signOut) Sample.loggedIn
    (Pool.reaches_play_any _ (List.replicate 20 (.act 0)))
  refine ⟨hin.2.1 0 (Sample.answered 0) (.login Sample.login) Sample.signInData ?_ ?_ (.inr rfl) ?_,
    ?_, hout.2.2 Sample.freshUuids_loggedIn⟩
  · show Sample.resetThenSignIn.Returned 0 (Sample.answered 0)
    decide +kernel
  · exact IdentityApp.call_eq_some.mp rfl
  · decide +kernel
  · have hrow : Sample.signOutRow ∈ Sample.signedOut.world.auditEvents :=
      Table.mem_iff.mpr (by decide +kernel)
    have hnew : Sample.signOutRow ∉ Sample.loggedIn.auditEvents :=
      fun h ↦ absurd (Table.mem_iff.mp h) (by decide +kernel)
    obtain hold | ⟨i, c, -, hone, hrecords, -⟩ := hout.1 Sample.signOutRow hrow
    · exact absurd hold hnew
    · exact ⟨i, c, hone, hrecords⟩

end Bankos
