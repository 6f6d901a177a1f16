import Bankos.Sessions.Ledger

/-!
# The services keep the session ledger

A login creates one session; a refresh revokes the session it was shown and only then creates
one; a logout and a password reset revoke sessions they have loaded. Whatever the calls of a
request are answered, its writes of sessions are those that the ledger allows.
-/

namespace Bankos

open Js Jwt Effects Storage Prog DatabaseMapper

variable {α β : Type} {m : Ledger → Prop} {l : Ledger}

/-- A call on anything but sessions extends the ledger. -/
theorem Ledger.extends_next {op : Op} (hop : op.besideSessions) (r : Except JsError op.Reply) :
    l.Extends (l.next op r) := by
  cases op with
  | session o => exact hop.elim
  | system o =>
    cases o with
    | dateNow => exact .refl l
    | randomBytes length => exact .refl l
    | randomUUID =>
      cases r with
      | error e => exact .refl l
      | ok id => exact ⟨fun _ h ↦ List.mem_cons_of_mem _ h, fun _ h ↦ h, rfl, rfl⟩
  | _ => exact .refl l

/-- A program that makes no call on sessions extends the ledger. -/
theorem extends_of_uses {p : Program α} (hp : p.Uses Op.besideSessions) (l : Ledger) :
    Ensures (sessionProtocol m) l p fun l' _ ↦ l.Extends l' := by
  apply hp.ensures (P := sessionProtocol m) (fun l' ↦ l.Extends l')
  · intro l' op hl hop
    constructor
    · cases op <;> trivial
    · intro r
      exact hl.trans (Ledger.extends_next hop r)
  · exact .refl l

/-- A program that makes auxiliary calls only, in front of a program. -/
theorem ensures_beside {p : Program α} {f : α → Program β} {Q : Ledger → β → Prop}
    (hp : p.Uses Op.auxiliary)
    (hf : ∀ l' a, l.Extends l' → Ensures (sessionProtocol m) l' (f a) Q) :
    Ensures (sessionProtocol m) l (p >>= f) Q :=
  Ensures.seq (extends_of_uses (hp.mono fun _ h ↦ h.besideSessions) l) hf

/-- A program whose calls stay outside the sessions, in front of a program. -/
theorem ensures_outside {areas : List Area} {p : Program α} {f : α → Program β}
    {Q : Ledger → β → Prop} (hp : p.Uses (Op.within areas)) (hs : .session ∉ areas)
    (hf : ∀ l' a, l.Extends l' → Ensures (sessionProtocol m) l' (f a) Q) :
    Ensures (sessionProtocol m) l (p >>= f) Q :=
  Ensures.seq (extends_of_uses (hp.mono fun _ h ↦ h.besideSessions hs) l) hf

/-- The last part of a program makes no call on sessions. -/
theorem ensures_end {p : Program α} (hp : p.Uses Op.besideSessions) {Q : Ledger → α → Prop}
    (hQ : ∀ l' a, l.Extends l' → Q l' a) : Ensures (sessionProtocol m) l p Q :=
  (extends_of_uses hp l).mono hQ

/-- Drawing an identifier. -/
theorem ensures_generateUUID {f : String → Program β} {Q : Ledger → β → Prop}
    (hf : ∀ id, Ensures (sessionProtocol m) { l with drawn := id :: l.drawn } (f id) Q) :
    Ensures (sessionProtocol m) l (SecureRandomGenerator.generateUUID >>= f) Q :=
  Ensures.bind (ensures_perform trivial hf)

/-- A step that throws or returns a value without a call, in front of a program. -/
theorem ensures_pure_step {r : Except JsError α} {f : α → Program β} {Q : Ledger → β → Prop}
    (hf : ∀ a, r = .ok a → Ensures (sessionProtocol m) l (f a) Q) :
    Ensures (sessionProtocol m) l ((done r : Program α) >>= f) Q :=
  Ensures.bind (ensures_done hf)

/-- The ledger was extended by a lookup, and has the session that was found. -/
def Ledger.Found (l l' : Ledger) (session : Option DeviceSession) : Prop :=
  l.Extends l' ∧ ∀ s, session = some s → toPrismaDeviceSession s ∈ l'.loaded

/-- A reply to a lookup is in the ledger. -/
theorem Ledger.found_reply (l : Ledger) (record : Option DeviceSessionRow) :
    l.Found { l with loaded := record.toList ++ l.loaded } (record.map toDomainDeviceSession) := by
  constructor
  · exact ⟨fun _ h ↦ h, fun _ h ↦ List.mem_append_right _ h, rfl, rfl⟩
  · intro s hs
    obtain ⟨row, rfl, rfl⟩ := Option.map_eq_some_iff.mp hs
    rw [toPrismaDeviceSession_toDomainDeviceSession]
    exact List.mem_append_left _ (Option.mem_toList.mpr rfl)

/-- Looking a session up by its identifier. -/
theorem ensures_findById (id : Value) :
    Ensures (sessionProtocol m) l (PrismaDeviceSessionRepository.findById id) l.Found := by
  apply Ensures.bind
  apply ensures_perform trivial
  intro record
  apply ensures_pure
  cases record with
  | none => exact l.found_reply none
  | some row => exact l.found_reply (some row)

/-- Looking a session up by the hash of its token. -/
theorem ensures_findByRefreshToken (h : Text) :
    Ensures (sessionProtocol m) l (PrismaDeviceSessionRepository.findByRefreshToken h) l.Found := by
  apply Ensures.bind
  apply ensures_perform trivial
  intro record
  apply ensures_pure
  cases record with
  | none => exact l.found_reply none
  | some row => exact l.found_reply (some row)

/-- Loading the active sessions of a user. -/
theorem ensures_findActiveSessions (userId : Value) :
    Ensures (sessionProtocol m) l (PrismaDeviceSessionRepository.findActiveSessions userId)
      fun l' sessions ↦ ∀ s ∈ sessions, toPrismaDeviceSession s ∈ l'.loaded := by
  apply Ensures.bind
  apply ensures_perform trivial
  intro rows
  apply ensures_pure
  intro s hs
  obtain ⟨r, hr, rfl⟩ := List.mem_map.mp hs
  exact List.mem_append_left _ hr

/-- Saving a loaded session that has just been revoked. -/
theorem ensures_saveRevoked {session session' : DeviceSession} {reason : String}
    {f : Unit → Program β} {Q : Ledger → β → Prop}
    (hload : toPrismaDeviceSession session ∈ l.loaded) (hrev : session.revoke reason = .ok session')
    (hf : Ensures (sessionProtocol m)
      { l with revoked := toPrismaDeviceSession session' :: l.revoked } (f ()) Q) :
    Ensures (sessionProtocol m) l (PrismaDeviceSessionRepository.save session' >>= f) Q := by
  obtain ⟨hact, rfl⟩ := DeviceSession.revoke_ok hrev
  apply Ensures.bind
  apply ensures_perform
  · exact .inr ⟨_, hload, hact, rfl⟩
  · intro _
    exact hf

/-- Saving a session under an identifier that was drawn for it. -/
theorem ensures_saveCreated {session : DeviceSession} {f : Unit → Program β}
    {Q : Ledger → β → Prop} (hid : session.id ∈ l.drawn) (hact : session.isRevoked = false)
    (hm : m l)
    (hf : Ensures (sessionProtocol m)
      { l with
        created := toPrismaDeviceSession session :: l.created
        drawn := l.drawn.erase session.id } (f ()) Q) :
    Ensures (sessionProtocol m) l (PrismaDeviceSessionRepository.save session >>= f) Q := by
  apply Ensures.bind
  apply ensures_perform
  · exact .inl ⟨⟨hact, hid⟩, hm⟩
  · intro _
    change Ensures _ (if (toPrismaDeviceSession session).isRevoked then _ else _) _ _
    rw [if_neg (by simp [toPrismaDeviceSession, hact])]
    exact hf

/-! ### LoginService.ts -/

/-- A login creates its session under the identifier it has drawn. -/
theorem LoginService.openSession_keeps {users : IUserRepository} (hu : users.Proper) (env : Env)
    (r : LoginRequest) (user : User) (l : Ledger) :
    Ensures (sessionProtocol fun _ ↦ True) l (openSession env users r user) fun _ _ ↦ True := by
  unfold openSession
  rw [hu.findRoles]
  apply ensures_beside (PrismaUserRepository.findRoles_uses _)
  intro l directRoles _
  apply ensures_beside (AuthorizationEngine.resolveRoles_uses _)
  intro l effectiveRoles _
  apply ensures_beside (AuthorizationEngine.resolvePermissions_uses _)
  intro l effectivePermissions _
  apply ensures_generateUUID
  intro sessionId
  apply ensures_beside (generateTokens_uses ..)
  intro l₁ tokens h₁
  apply ensures_beside (expiresAt_uses ..)
  intro l₂ expiresAt h₂
  apply ensures_beside SystemClock.now_uses
  intro l₃ createdAt h₃
  have hid : sessionId ∈ l₃.drawn := h₃.drawn _ (h₂.drawn _ (h₁.drawn _ List.mem_cons_self))
  apply ensures_saveCreated hid rfl trivial
  apply ensures_outside (dispatch_uses _) (by simp)
  intro _ _ _
  exact ensures_pure trivial

/-- A login keeps the ledger. -/
theorem LoginService.execute_keeps {users : IUserRepository} (hu : users.Proper) (env : Env)
    (r : LoginRequest) (l : Ledger) :
    Ensures (sessionProtocol fun _ ↦ True) l (execute env users r) fun _ _ ↦ True := by
  apply ensures_execute (fun _ _ ↦ True)
  · intro email
    apply ensures_end ((hu.findByEmail_uses _).mono fun _ h ↦ h.besideSessions (by simp))
    exact fun _ _ _ _ _ ↦ trivial
  · intro l hash
    apply ensures_end ((Argon2PasswordHasher.verify_uses ..).mono
      fun _ h ↦ h.besideSessions (by simp))
    exact fun _ _ _ _ _ ↦ trivial
  · intro l user _
    unfold rightPassword
    apply ensures_pure_step
    intro user _
    apply ensures_outside (hu.update_uses _) (by simp)
    intro l _ _
    exact openSession_keeps hu env r user l
  · intro l user
    unfold wrongPassword
    apply ensures_outside (hu.update_uses _) (by simp)
    intro l _ _
    exact ensures_throw

/-! ### RefreshTokenService.ts -/

/-- The condition under which a refresh creates a session: it has created none, and it has
revoked one with the hash `h`. -/
def Exchanged (h : Text) (l : Ledger) : Prop :=
  l.created = [] ∧ ∃ r ∈ l.revoked, r.refreshToken = h

/-- A loop over loaded sessions that revokes each of them. -/
theorem ensures_revokeEach {γ : Type} {sessions : List DeviceSession}
    {f : DeviceSession → Program γ} {l : Ledger}
    (hload : ∀ s ∈ sessions, toPrismaDeviceSession s ∈ l.loaded)
    (hf : ∀ s ∈ sessions, ∀ l, toPrismaDeviceSession s ∈ l.loaded →
      Ensures (sessionProtocol m) l (f s) fun l' _ ↦ ∀ r ∈ l.loaded, r ∈ l'.loaded) :
    Ensures (sessionProtocol m) l (each sessions f) fun l' _ ↦ ∀ r ∈ l.loaded, r ∈ l'.loaded := by
  apply ensures_each (P := sessionProtocol m) fun l' ↦ ∀ r ∈ l.loaded, r ∈ l'.loaded
  · intro r hr
    exact hr
  · intro s hs l' hl'
    apply (hf s hs l' (hl' _ (hload s hs))).mono
    intro l'' _ h r hr
    exact h r (hl' r hr)

/-- The replay branch revokes sessions it has loaded and returns nothing. -/
theorem RefreshTokenService.revokeAll_keeps (userId : Value) (l : Ledger)
    (Q : Ledger → LoginResponse → Prop) :
    Ensures (sessionProtocol m) l (revokeAll userId) Q := by
  apply Ensures.seq (ensures_findActiveSessions userId)
  intro l sessions hs
  apply Ensures.seq
  · apply ensures_revokeEach hs
    intro s _ l hl
    apply ensures_pure_step
    intro s' hs'
    apply ensures_saveRevoked hl hs'
    apply ensures_end ((dispatch_uses _).mono fun _ h ↦ h.besideSessions (by simp))
    intro l' _ h
    exact h.loaded
  · intro _ _ _
    exact ensures_throw

/-- The rotation revokes the session it was given before it creates one. -/
theorem RefreshTokenService.rotate_keeps {users : IUserRepository} (hu : users.Proper) (env : Env)
    (userId : Value) (ip ua : String) {session : DeviceSession} (user : User) (now : Nat)
    {l : Ledger} (hload : toPrismaDeviceSession session ∈ l.loaded) (hnone : l.created = []) :
    Ensures (sessionProtocol (Exchanged session.refreshToken)) l
      (rotate env users userId ip ua session user now)
      fun l' _ ↦ ∃ r ∈ l'.revoked, r.refreshToken = session.refreshToken := by
  unfold rotate
  apply ensures_pure_step
  intro session' hrev
  apply ensures_saveRevoked hload hrev
  obtain ⟨-, rfl⟩ := DeviceSession.revoke_ok hrev
  rw [hu.findRoles]
  apply ensures_beside (PrismaUserRepository.findRoles_uses _)
  intro l₁ _ h₁
  apply ensures_beside (AuthorizationEngine.resolveRoles_uses _)
  intro l₂ _ h₂
  apply ensures_beside (AuthorizationEngine.resolvePermissions_uses _)
  intro l₃ _ h₃
  apply ensures_generateUUID
  intro newSessionId
  apply ensures_beside (generateTokens_uses ..)
  intro l₄ tokens h₄
  have hex : Exchanged session.refreshToken l₄ := by
    constructor
    · rw [h₄.created, h₃.created, h₂.created, h₁.created, hnone]
    · rw [h₄.revoked, h₃.revoked, h₂.revoked, h₁.revoked]
      exact ⟨_, List.mem_cons_self, rfl⟩
  apply ensures_saveCreated (h₄.drawn _ List.mem_cons_self) rfl hex
  apply ensures_outside (dispatch_uses _) (by simp)
  intro l₅ _ h₅
  apply ensures_pure
  rw [h₅.revoked]
  exact hex.2

/-- A refresh keeps the ledger, creates at most one session and does so only after it has
revoked the one with the hash of the presented token. -/
theorem RefreshTokenService.execute_keeps {users : IUserRepository} (hu : users.Proper) (env : Env)
    (token : Text) (ip ua : String) {l : Ledger} (hnone : l.created = []) :
    Ensures (sessionProtocol (Exchanged (env.sha256 token))) l (execute env users token ip ua)
      fun l' _ ↦ ∃ r ∈ l'.revoked, r.refreshToken = env.sha256 token := by
  unfold execute
  apply ensures_beside (verified_uses env token)
  intro l₁ decoded h₁
  apply Ensures.seq (ensures_findByRefreshToken _)
  intro l₂ session h₂
  cases session with
  | none => exact ensures_throw
  | some session =>
    apply ensures_present (fun l ↦ l₂.Extends l)
    · exact revokeAll_keeps _ _ _
    · exact extends_of_uses (SystemClock.now_uses.mono fun _ h ↦ h.besideSessions) l₂
    · intro l hl
      have huses : (users.findById decoded.sub).Uses Op.besideSessions :=
        (hu.findById_uses _).mono fun _ h ↦ h.besideSessions (by simp)
      exact (extends_of_uses huses l).mono fun _ _ h ↦ hl.trans h
    · intro l user now hl hhash _
      change session.refreshToken = env.sha256 token at hhash
      rw [← hhash]
      apply rotate_keeps hu env _ ip ua user now
      · exact hl.loaded _ (h₂.2 session rfl)
      · rw [hl.created, h₂.1.created, h₁.created, hnone]

/-! ### The other services -/

/-- A logout keeps the ledger. -/
theorem LogoutService.execute_keeps (env : Env) (r : LogoutRequest) (ip ua : String) (l : Ledger) :
    Ensures (sessionProtocol fun _ ↦ True) l (execute env r ip ua) fun _ _ ↦ True := by
  unfold execute
  apply ensures_outside (blacklistAccessToken_uses ..) (by simp)
  intro l _ _
  split
  · apply Ensures.seq (ensures_findById _)
    intro l session hfound
    cases session with
    | none => exact ensures_pure trivial
    | some session =>
      dsimp only
      unfold endSession
      split
      · exact ensures_pure trivial
      · dsimp only
        split
        · apply ensures_pure_step
          intro session' hrev
          apply ensures_saveRevoked (hfound.2 session rfl) hrev
          apply ensures_end ((dispatch_uses _).mono fun _ h ↦ h.besideSessions (by simp))
          intro _ _ _
          trivial
        · exact ensures_throw
  · exact ensures_throw

/-- A password reset revokes loaded sessions. -/
theorem ResetPasswordService.revokeSessions_keeps (user : User) (l : Ledger) :
    Ensures (sessionProtocol m) l (revokeSessions user) fun _ _ ↦ True := by
  apply Ensures.seq (ensures_findActiveSessions _)
  intro l sessions hs
  apply Ensures.mono
  · apply ensures_revokeEach hs
    intro s _ l hl
    apply ensures_pure_step
    intro s' hs'
    apply ensures_saveRevoked hl hs'
    apply ensures_pure
    intro _ h
    exact h
  · intro _ _ _
    trivial

/-- The part that changes the password keeps the ledger. -/
theorem ResetPasswordService.changePassword_keeps {users : IUserRepository} (hu : users.Proper)
    (env : Env) (r : ResetPasswordRequest) (hashedToken : Text) (resetToken : OneTimeToken)
    (user : User) (l : Ledger) :
    Ensures (sessionProtocol m) l (changePassword env users r hashedToken resetToken user)
      fun _ _ ↦ True := by
  unfold changePassword
  apply ensures_beside (Argon2PasswordHasher.hash_uses ..)
  intro l hash _
  apply ensures_pure_step
  intro user' _
  apply ensures_outside (hu.save_uses user') (by simp)
  intro l _ _
  apply ensures_beside SystemClock.now_uses
  intro l now' _
  apply ensures_pure_step
  intro token' _
  apply ensures_outside (PrismaPasswordResetTokenRepository.delete_uses _) (by simp)
  intro l _ _
  apply Ensures.seq (revokeSessions_keeps _ l)
  intro l sessions _
  apply ensures_outside (dispatch_uses _) (by simp)
  intro l _ _
  apply ensures_outside (uses_each fun _ _ ↦ dispatch_uses _) (by simp)
  intro l _ _
  exact ensures_pure trivial

/-- A password reset keeps the ledger. -/
theorem ResetPasswordService.execute_keeps {users : IUserRepository} (hu : users.Proper) (env : Env)
    (r : ResetPasswordRequest) (l : Ledger) :
    Ensures (sessionProtocol fun _ ↦ True) l (execute env users r) fun _ _ ↦ True := by
  unfold execute
  apply ensures_outside (PrismaPasswordResetTokenRepository.findByToken_uses _) (by simp)
  intro l token _
  cases token with
  | none => exact ensures_throw
  | some token =>
    dsimp only [redeem]
    apply ensures_beside SystemClock.now_uses
    intro l now _
    split
    · exact ensures_throw
    · split
      · exact ensures_throw
      · apply ensures_outside (hu.findById_uses _) (by simp)
        intro l user _
        cases user with
        | none => exact ensures_throw
        | some user => exact changePassword_keeps hu env r _ token user l

end Bankos
