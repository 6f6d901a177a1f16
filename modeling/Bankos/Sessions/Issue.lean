import Bankos.Rbac.Permissions
import Bankos.Sessions.Binding
import Bankos.Sessions.Logout

/-!
# Requests that run alone

The effect of a login, a refresh and a logout when nothing else happens in between. A login and a
rotation end alike: an identifier is drawn, two tokens are signed, the session is created and its
events are written to the audit log. All of this succeeds while what the generator gives out is
fresh.
-/

namespace Bankos

open Js Jwt Effects Storage Prog DatabaseMapper

/-! ### Fresh identifiers -/

/-- What the generator gives out next names no session, no audit event and no signed token, and
every session is stored under the hash of a signed token. -/
structure World.Fresh (env : Env) (w : World) : Prop where
  sessions : FreshUuids env w
  audits : ∀ n, w.draws ≤ n → ∀ a ∈ w.auditEvents, a.id ≠ env.uuid n
  minted : w.MintedApart env
  hashes : ∀ r ∈ w.deviceSessions, ∃ m ∈ w.minted, r.refreshToken = env.sha256 m.token

/-- A world in which nothing has been created or signed. -/
theorem World.Fresh.of_empty {env : Env} {w : World} (hsessions : w.deviceSessions = .empty)
    (haudits : w.auditEvents = .empty) (hminted : w.minted = []) : w.Fresh env where
  sessions n _ r hr := by
    rw [hsessions] at hr
    exact absurd hr List.not_mem_nil
  audits n _ a ha := by
    rw [haudits] at ha
    exact absurd ha List.not_mem_nil
  minted := .of_nil hminted
  hashes r hr := by
    rw [hsessions] at hr
    exact absurd hr List.not_mem_nil

/-- A user with the id is stored. -/
def World.HasUser (w : World) (id : String) : Prop := ∃ u ∈ w.users, u.id = id

/-- The world `w'` comes out of `w` without a write of a session: the ids of the users and the time
are the same, and what is fresh stays fresh. -/
structure World.Beside (env : Env) (w w' : World) : Prop where
  users : ∀ id, w'.HasUser id ↔ w.HasUser id
  sessions : w'.deviceSessions = w.deviceSessions
  now : w'.now = w.now
  draws : w.draws ≤ w'.draws
  minted : w.minted ⊆ w'.minted
  fresh : w.Fresh env → w'.Fresh env

namespace World.Beside

variable {env : Env} {w w' w'' : World}

/-- Nothing has happened beside the sessions. -/
theorem refl (env : Env) (w : World) : w.Beside env w where
  users _ := Iff.rfl
  sessions := rfl
  now := rfl
  draws := Nat.le_refl _
  minted := List.Subset.refl _
  fresh := id

/-- What happens beside the sessions in two steps happens beside them. -/
theorem trans (h : w.Beside env w') (h' : w'.Beside env w'') : w.Beside env w'' where
  users id := (h'.users id).trans (h.users id)
  sessions := h'.sessions.trans h.sessions
  now := h'.now.trans h.now
  draws := Nat.le_trans h.draws h'.draws
  minted := List.Subset.trans h.minted h'.minted
  fresh hw := h'.fresh (h.fresh hw)

end World.Beside

/-- The calls that write no session and no audit event and create no user. -/
def Op.beside : Op → Prop
  | .session (.upsert _) => False
  | .auditCreate _ => False
  | .user (.create _) => False
  | _ => True

section Calls

variable {env : Env} {w : World}

/-- A call beside the sessions leaves the ids of the users. -/
theorem hasUser_exec {op : Op} (hop : op.beside) (id : String) :
    (exec env w op).2.HasUser id ↔ w.HasUser id := by
  cases op with
  | user o =>
    cases o with
    | create data => exact hop.elim
    | update key data =>
      rcases UserOp.exec_update env w.users key data with he | ⟨-, he⟩
      · unfold World.HasUser
        simp only [exec, he]
        constructor
        · rintro ⟨u, hu, hid⟩
          obtain ⟨v, hv, rfl⟩ := UserTable.mem_write.mp hu
          exact ⟨v, hv, by rw [← hid, (UserRow.write_keys key data v).1]⟩
        · rintro ⟨v, hv, hid⟩
          exact ⟨_, UserTable.mem_write.mpr ⟨v, hv, rfl⟩,
            by rw [(UserRow.write_keys key data v).1, hid]⟩
      · unfold World.HasUser
        simp only [exec, he]
    | _ => exact Iff.rfl
  | jwtSign c =>
    unfold World.HasUser
    simp only [exec]
    cases c.exec env w.now w.draws <;> exact Iff.rfl
  | _ => exact Iff.rfl

/-- A call beside the sessions leaves the audit log. -/
theorem exec_auditEvents (env : Env) (w : World) {op : Op} (hop : op.beside) :
    (exec env w op).2.auditEvents = w.auditEvents := by
  cases op with
  | auditCreate row => exact hop.elim
  | jwtSign c =>
    simp only [exec]
    cases c.exec env w.now w.draws <;> rfl
  | _ => rfl

/-- What a call beside the sessions changes is beside the sessions. -/
theorem beside_exec (env : Env) (w : World) (op : Op) (hop : op.beside) :
    w.Beside env (exec env w op).2 := by
  have hsessions : (exec env w op).2.deviceSessions = w.deviceSessions := by
    apply exec_deviceSessions
    rintro row rfl
    exact hop
  have hdraws := exec_draws_le env w op
  have hminted := minted_subset env w op
  refine ⟨hasUser_exec hop, hsessions, exec_now env w op, hdraws, hminted, fun hw ↦ ?_⟩
  constructor
  · intro n hn r hr
    rw [hsessions] at hr
    exact hw.sessions n (Nat.le_trans hdraws hn) r hr
  · intro n hn a ha
    rw [exec_auditEvents env w hop] at ha
    exact hw.audits n (Nat.le_trans hdraws hn) a ha
  · exact hw.minted.exec op
  · intro r hr
    rw [hsessions] at hr
    obtain ⟨m, hm, hhash⟩ := hw.hashes r hr
    exact ⟨m, hminted hm, hhash⟩

/-- A program of such calls. -/
theorem beside_run {α : Type} {p : Program α} (hp : p.Uses Op.beside) (w : World) :
    w.Beside env (p.run (exec env) w).2 :=
  hp.run_keeps (J := fun w' ↦ w.Beside env w')
    (fun w' _ hop hw' ↦ hw'.trans (beside_exec env w' _ hop)) w (.refl env w)

end Calls

/-! ### The audit log -/

section Audit

variable {env : Env} {w : World}

/-- The event names no user or one with an id that the database accepts. -/
def DomainEvent.Auditable (env : Env) (e : DomainEvent) : Prop :=
  auditUserId env e.userId = .ok ()

/-- Writing an event to the audit log succeeds. -/
theorem AuditEventHandler.run_handle {e : DomainEvent} (he : e.Auditable env)
    (hfresh : w.Fresh env) :
    ∃ w', (handle e).run (exec env) w = (.ok (), w') ∧ w.Beside env w' := by
  have hdraw : w.Beside env { w with draws := w.draws + 1 } :=
    beside_exec env w (.system .randomUUID) trivial
  let row : AuditEventRow :=
    { id := env.uuid w.draws
      eventType := e.eventName
      userId := e.userId
      payload := details e
      ipAddress := orUnknown (e.metadata.map (·.ipAddress))
      userAgent := orUnknown (e.metadata.map (·.userAgent))
      timestamp := w.now }
  have hsome : (w.auditEvents.insert row).isSome := by
    rw [Table.insert_isSome]
    intro a ha
    exact decide_eq_false (hfresh.audits _ (Nat.le_refl _) a ha)
  obtain ⟨t, ht⟩ := Option.isSome_iff_exists.mp hsome
  have hrow : row.exec env w.auditEvents = (.ok (), t) := by
    simp only [AuditEventRow.exec, show auditUserId env row.userId = .ok () from he, ht]
  refine ⟨{ w with draws := w.draws + 1, auditEvents := t }, ?_, ?_⟩
  · change exec env { w with draws := w.draws + 1 } (.auditCreate row) = _
    simp only [exec, hrow]
  · refine hdraw.trans ⟨fun _ ↦ Iff.rfl, rfl, rfl, Nat.le_refl _, List.Subset.refl _, fun hw ↦ ?_⟩
    refine ⟨hw.sessions, ?_, ⟨hw.minted.jti, hw.minted.use⟩, hw.hashes⟩
    intro n hn a ha
    rcases (Table.mem_insert ht).mp ha with ha | rfl
    · exact hw.audits n hn a ha
    · intro heq
      have hsame := env.uuid_injective heq
      dsimp only at hn
      omega

/-- A loop over steps that succeed beside the sessions. -/
theorem run_eachBeside {β γ : Type} {xs : List β} {f : β → Program γ}
    (hf : ∀ x ∈ xs, ∀ w : World, w.Fresh env →
      ∃ y w', (f x).run (exec env) w = (.ok y, w') ∧ w.Beside env w') (hfresh : w.Fresh env) :
    ∃ ys w', (each xs f).run (exec env) w = (.ok ys, w') ∧ w.Beside env w' := by
  induction xs generalizing w with
  | nil => exact ⟨[], w, rfl, .refl env w⟩
  | cons x xs ih =>
    obtain ⟨y, w₁, hrun, hbeside⟩ := hf x List.mem_cons_self w hfresh
    obtain ⟨ys, w₂, hrest, hbeside'⟩ :=
      ih (fun y hy ↦ hf y (List.mem_cons_of_mem x hy)) (hbeside.fresh hfresh)
    refine ⟨y :: ys, w₂, ?_, hbeside.trans hbeside'⟩
    unfold each
    rw [run_bind_ok env w hrun, run_bind_ok env w₁ hrest]
    rfl

/-- Dispatching events succeeds. -/
theorem run_dispatch {events : List DomainEvent} (hevents : ∀ e ∈ events, e.Auditable env)
    (hfresh : w.Fresh env) :
    ∃ w', (dispatch events).run (exec env) w = (.ok (), w') ∧ w.Beside env w' := by
  have hhandlers : ∀ e ∈ events, ∀ w : World, w.Fresh env → ∃ ys w',
      (each [AuditEventHandler.handle] fun handler ↦ handler e).run (exec env) w = (.ok ys, w') ∧
        w.Beside env w' := by
    intro e he w hw
    apply run_eachBeside _ hw
    intro handler hhandler w hw
    rw [List.mem_singleton.mp hhandler]
    obtain ⟨w', hrun, hbeside⟩ := AuditEventHandler.run_handle (hevents e he) hw
    exact ⟨(), w', hrun, hbeside⟩
  obtain ⟨ys, w', hrun, hbeside⟩ := run_eachBeside hhandlers hfresh
  refine ⟨w', ?_, hbeside⟩
  unfold dispatch DomainEventDispatcher.dispatch
  rw [run_bind_ok env w hrun]
  rfl

/-- Every event of a user or a session whose id the database accepts. -/
theorem auditable_withMetadata {events : List DomainEvent} {userId : String}
    (hcanonical : env.parseUuid userId = some userId)
    (h : ∀ e ∈ events, e.userId = .str userId) (ip ua : String) :
    ∀ e ∈ withMetadata events ip ua, e.Auditable env := by
  intro e he
  obtain ⟨e', he', rfl⟩ := List.mem_map.mp he
  change auditUserId env e'.userId = .ok ()
  rw [h e' he']
  simp only [auditUserId, uuidArgument, hcanonical]
  rfl

end Audit

/-! ### Signing -/

/-- The active key is a pair and its id is not empty. -/
structure Env.KeysMatch (env : Env) : Prop where
  pair : env.publicKeyOf env.keyManager.activePrivateKey = env.keyManager.activeKey.publicKey
  id : env.keyManager.activeKeyId ≠ ""

/-- The call that signs a refresh token. -/
def refreshCall (env : Env) (payload : Claims) (subject : Value) : SignCall where
  use := .refresh
  payload := payload
  privateKey := env.keyManager.activePrivateKey
  keyid := env.keyManager.activeKeyId
  expiresIn := env.config.refreshExpiration.seconds
  issuer := env.config.issuer
  audience := env.config.audience
  subject := subject

section Signing

variable {env : Env} {w : World}

/-- A token with the right header, signature and claims is verified until it ends. -/
theorem verifyAt_jws (hkeys : env.KeysMatch) {jws : Jws} {t seconds : Nat}
    (hheader : jws.header = ⟨"RS256", some env.keyManager.activeKeyId⟩)
    (hsignature : jws.signature = .rs256 env.keyManager.activePrivateKey)
    (hnbf : jws.claims.nbf = .undefined) (hexp : jws.claims.exp = .num ((seconds : Nat) : Rat))
    (haud : jws.claims.aud = .str env.config.audience)
    (hiss : jws.claims.iss = .str env.config.issuer) (ht : t < seconds * 1000) :
    JwtTokenService.verifyAt env (.jws jws) t = .ok jws.claims := by
  have hkey : JwtTokenService.verificationKey env (.jws jws) =
      .ok env.keyManager.activeKey.publicKey :=
    JwtTokenService.headerKey_eq_ok.mpr ⟨env.keyManager.activeKeyId, env.keyManager.activeKey,
      by rw [hheader], hkeys.id, env.keyManager.getKey_active, rfl⟩
  have hlive : t / 1000 < seconds := by omega
  have hverify : Jwt.verify env.publicKeyOf (.jws jws) env.keyManager.activeKey.publicKey
      ⟨["RS256"], env.config.issuer, env.config.audience⟩ t = .ok jws.claims := by
    rw [Jwt.verify_jws_iff]
    refine ⟨rfl, ?_, ?_, ?_, ?_, ?_, ?_⟩
    · simp [hheader]
    · simp [validSignature, hheader, hsignature, hkeys.pair]
    · exact notBefore_undefined hnbf _
    · exact (notExpired_num_iff hexp).mpr hlive
    · exact (audienceMatches_str_iff haud).mpr (.inr rfl)
    · exact (issuerMatches_str_iff hiss).mpr (.inr rfl)
  unfold JwtTokenService.verifyAt
  rw [hkey]
  dsimp only
  rw [hverify]

/-- A refresh token that was signed is accepted as long as it lives. -/
theorem verifyAt_of_signed (hkeys : env.KeysMatch) {payload : Claims} {subject : Value}
    {now draws t : Nat} {token : Text} (hnbf : payload.nbf = .undefined)
    (h : (refreshCall env payload subject).exec env now draws = .ok token)
    (ht : t < (now / 1000 + env.config.refreshExpiration.seconds) * 1000) :
    ∃ claims, JwtTokenService.verifyAt env token t = .ok claims := by
  cases subject with
  | str userId =>
    cases h
    exact ⟨_, verifyAt_jws hkeys rfl rfl hnbf rfl rfl rfl ht⟩
  | _ => cases h

/-- The token is new: no token that was signed before carries its identifier. -/
theorem ne_of_signed {c : SignCall} {now draws : Nat} {token : Text}
    (h : c.exec env now draws = .ok token) (hw : w.MintedApart env) (hdraws : w.draws ≤ draws) :
    ∀ m ∈ w.minted, m.token ≠ token := by
  intro m hm heq
  obtain ⟨n, hn, hjti⟩ := hw.jti m hm
  rw [heq, SignCall.claimedJti h, Value.str.injEq] at hjti
  have hsame := env.uuid_injective hjti
  omega

/-- Two tokens are signed for a user. -/
theorem run_generateTokens (env : Env) (w : World) (payload : Claims) (userId : String) :
    ∃ tokens w', (generateTokens env payload (.str userId)).run (exec env) w = (.ok tokens, w') ∧
      w.Beside env w' ∧ w'.MintedAs .refresh tokens.refreshToken ∧
      (refreshCall env payload (.str userId)).exec env w.now (w.draws + 1) =
        .ok tokens.refreshToken := by
  have huses : (generateTokens env payload (.str userId)).Uses Op.beside :=
    uses_bind (uses_perform trivial) fun _ ↦ uses_bind (uses_perform trivial) fun _ ↦
      uses_done _ _
  have hbeside : w.Beside env _ := beside_run huses w
  refine ⟨_, _, rfl, hbeside, ?_, rfl⟩
  exact List.mem_append_right _ List.mem_cons_self

end Signing

/-! ### Creating a session -/

/-- The session goes with the refresh token: it is bound to it, and the token is verified until the
session ends. -/
structure DeviceSessionRow.IssuedWith (env : Env) (r : DeviceSessionRow) (token : Text) : Prop where
  bound : r.BoundTo env token
  canonical : env.parseUuid r.userId = some r.userId
  positive : 0 < r.expiresAt
  verified : ∀ t < r.expiresAt, ∃ claims, JwtTokenService.verifyAt env token t = .ok claims

/-- The world `w'` comes out of `w` by the creation of the session for a new refresh token. -/
structure World.Opens (env : Env) (w w' : World) (row : DeviceSessionRow) (token : Text) :
    Prop where
  users : ∀ id, w'.HasUser id ↔ w.HasUser id
  sessions : ∀ r, r ∈ w'.deviceSessions ↔ r ∈ w.deviceSessions ∨ r = row
  now : w'.now = w.now
  minted : w.minted ⊆ w'.minted
  fresh : w'.Fresh env
  active : row.isRevoked = false
  issued : row.IssuedWith env token
  known : w'.MintedAs .refresh token
  unminted : ∀ m ∈ w.minted, m.token ≠ token

section Creation

variable {env : Env} {w w' w'' : World} {row : DeviceSessionRow} {token : Text}

/-- Resolving roles alone. -/
theorem run_resolveRoles (env : Env) (w : World) (roleNames : List String) :
    (AuthorizationEngine.resolveRoles roleNames).run (exec env) w =
      (.ok (PermissionResolver.resolveEffectiveRoles roleNames w.rbac.allRoles), w) := rfl

/-- The end of the new session alone. -/
theorem LoginService.run_expiresAt {refreshToken : Text} {e : Nat}
    (h : decodedEnd env refreshToken = some e) :
    (expiresAt env refreshToken).run (exec env) w = (.ok e, w) := by
  unfold expiresAt
  rw [h]
  rfl

/-- What happens before the creation. -/
theorem World.Opens.after (h : w'.Opens env w'' row token) (hbefore : w.Beside env w') :
    w.Opens env w'' row token where
  users id := (h.users id).trans (hbefore.users id)
  sessions r := by rw [h.sessions, hbefore.sessions]
  now := h.now.trans hbefore.now
  minted := List.Subset.trans hbefore.minted h.minted
  fresh := h.fresh
  active := h.active
  issued := h.issued
  known := h.known
  unminted m hm := h.unminted m (hbefore.minted hm)

/-- What happens after it. -/
theorem World.Opens.before (h : w.Opens env w' row token) (hafter : w'.Beside env w'') :
    w.Opens env w'' row token where
  users id := (hafter.users id).trans (h.users id)
  sessions r := by rw [hafter.sessions, h.sessions]
  now := hafter.now.trans h.now
  minted := List.Subset.trans h.minted hafter.minted
  fresh := hafter.fresh h.fresh
  active := h.active
  issued := h.issued
  known := hafter.minted h.known
  unminted := h.unminted

/-- A session without a clash is created for a user that is there. -/
theorem exec_upsert_created (env : Env) (huser : w.HasUser row.userId)
    (hnew : ∀ s ∈ w.deviceSessions, s.id ≠ row.id ∧ s.refreshToken ≠ row.refreshToken) :
    ∃ t, w.deviceSessions.insert row = some t ∧
      exec env w (.session (.upsert row)) = (.ok (), { w with deviceSessions := t }) := by
  have hnone : (w.deviceSessions.find fun s ↦ decide (s.id = row.id)) = none := by
    rw [Table.find_none]
    intro s hs
    exact decide_eq_false (hnew s hs).1
  obtain ⟨u, hu, hid⟩ := huser
  have hfound := UserTable.find_id hu
  rw [hid] at hfound
  have hsome : (w.deviceSessions.insert row).isSome := by
    rw [Table.insert_isSome]
    intro s hs
    simp [DeviceSessionRow.clash, hnew s hs]
  obtain ⟨t, ht⟩ := Option.isSome_iff_exists.mp hsome
  refine ⟨t, ht, ?_⟩
  simp only [exec, SessionOp.exec, hnone, hfound, ht]

/-- A session under an identifier that has been drawn, with the hash of a token that has been
signed, leaves the world fresh. -/
theorem World.Fresh.insert {t : DeviceSessionTable} (hw : w.Fresh env)
    (ht : w.deviceSessions.insert row = some t) {n : Nat} (hn : n < w.draws)
    (hid : row.id = env.uuid n) (hknown : w.MintedAs .refresh token)
    (hhash : row.refreshToken = env.sha256 token) :
    World.Fresh env { w with deviceSessions := t } where
  sessions n' hn' s hs := by
    rcases (Table.mem_insert ht).mp hs with hs | rfl
    · exact hw.sessions n' hn' s hs
    · intro heq
      have hsame : n = n' := env.uuid_injective (hid.symm.trans heq)
      dsimp only at hn'
      omega
  audits := hw.audits
  minted := ⟨hw.minted.jti, hw.minted.use⟩
  hashes s hs := by
    rcases (Table.mem_insert ht).mp hs with hs | rfl
    · exact hw.hashes s hs
    · exact ⟨_, hknown, hhash⟩

/-- The session that goes with a new token is created. -/
theorem run_save_opens (hinj : Function.Injective env.sha256) (hfresh : w.Fresh env)
    (hbeside : w.Beside env w') {ds : DeviceSession} {n : Nat} (hfrom : w.draws ≤ n)
    (hto : n < w'.draws) (hid : ds.id = env.uuid n) (huser : w.HasUser ds.userId)
    (hactive : ds.isRevoked = false) (hissued : (toPrismaDeviceSession ds).IssuedWith env token)
    (hknown : w'.MintedAs .refresh token) (hunminted : ∀ m ∈ w.minted, m.token ≠ token) :
    ∃ w₂, (PrismaDeviceSessionRepository.save ds).run (exec env) w' = (.ok (), w₂) ∧
      w.Opens env w₂ (toPrismaDeviceSession ds) token := by
  have hhash : ds.refreshToken = env.sha256 token := hissued.bound.hash
  have hnew : ∀ s ∈ w'.deviceSessions, s.id ≠ (toPrismaDeviceSession ds).id ∧
      s.refreshToken ≠ (toPrismaDeviceSession ds).refreshToken := by
    intro s hs
    rw [hbeside.sessions] at hs
    constructor
    · intro heq
      exact hfresh.sessions n hfrom s hs (heq.trans hid)
    · intro heq
      obtain ⟨m, hm, hm'⟩ := hfresh.hashes s hs
      exact hunminted m hm (hinj (hm'.symm.trans (heq.trans hhash)))
  obtain ⟨t, ht, hexec⟩ := exec_upsert_created env ((hbeside.users ds.userId).mpr huser) hnew
  refine ⟨_, hexec, hbeside.users, ?_, hbeside.now, hbeside.minted, ?_, hactive, hissued, hknown,
    hunminted⟩
  · intro r
    rw [Table.mem_insert ht, hbeside.sessions]
  · exact (hbeside.fresh hfresh).insert ht hto hid hknown hhash

/-- A session goes with the token whose subject, session and end it has. -/
theorem DeviceSessionRow.issuedWith_of_signed (hkeys : env.KeysMatch) {payload : Claims}
    {now draws : Nat} (hpos : 0 < now / 1000 + env.config.refreshExpiration.seconds)
    (hnbf : payload.nbf = .undefined) (hsession : payload.sessionId = .str row.id)
    (hcall : (refreshCall env payload (.str row.userId)).exec env now draws = .ok token)
    (hcanonical : env.parseUuid row.userId = some row.userId)
    (hhash : row.refreshToken = env.sha256 token)
    (hexpires : row.expiresAt = (now / 1000 + env.config.refreshExpiration.seconds) * 1000) :
    row.IssuedWith env token where
  bound := ⟨hhash, _, _, Jwt.decode_sign hcall, rfl, hsession, rfl, hexpires⟩
  canonical := hcanonical
  positive := Nat.lt_of_lt_of_eq (Nat.mul_pos hpos (by decide)) hexpires.symm
  verified t ht := verifyAt_of_signed hkeys hnbf hcall (Nat.lt_of_lt_of_eq ht hexpires)

/-- An identifier is drawn and tokens are signed for it; the session that goes with them can be
created. -/
theorem run_issue (hinj : Function.Injective env.sha256) (hkeys : env.KeysMatch)
    (hfresh : w.Fresh env) (hpos : 0 < w.now / 1000 + env.config.refreshExpiration.seconds)
    {userId : String} (huser : w.HasUser userId)
    (hcanonical : env.parseUuid userId = some userId) (roles permissions : List String) :
    ∃ sessionId tokens expiresAt w₁, w.Beside env w₁ ∧
      (∀ {α : Type} (f : String → LoginResponse → Program α), (do
        let sessionId ← SecureRandomGenerator.generateUUID
        let tokens ← generateTokens env (tokenPayload roles permissions sessionId) (.str userId)
        f sessionId tokens).run (exec env) w = (f sessionId tokens).run (exec env) w₁) ∧
      decodedEnd env tokens.refreshToken = some expiresAt ∧
      ∀ ds : DeviceSession, ds.id = sessionId → ds.userId = userId →
        ds.refreshToken = env.sha256 tokens.refreshToken → ds.expiresAt = expiresAt →
        ds.isRevoked = false →
        ∃ w₂, (PrismaDeviceSessionRepository.save ds).run (exec env) w₁ = (.ok (), w₂) ∧
          w.Opens env w₂ (toPrismaDeviceSession ds) tokens.refreshToken := by
  have hdraw : w.Beside env { w with draws := w.draws + 1 } :=
    beside_exec env w (.system .randomUUID) trivial
  obtain ⟨tokens, w₁, hrun, hsigned, hknown, hcall⟩ :=
    run_generateTokens env { w with draws := w.draws + 1 }
      (tokenPayload roles permissions (env.uuid w.draws)) userId
  refine ⟨env.uuid w.draws, tokens, _, w₁, hdraw.trans hsigned, ?_,
    decodedEnd_of_exp (Jwt.decode_sign hcall) rfl hpos, ?_⟩
  · intro α f
    rw [run_bind_ok env w (run_generateUUID env w), run_bind_ok env _ hrun]
  · rintro ds hid rfl hhash hexpires hactive
    have hissued : (toPrismaDeviceSession ds).IssuedWith env tokens.refreshToken :=
      DeviceSessionRow.issuedWith_of_signed hkeys hpos rfl (congrArg Value.str hid.symm) hcall
        hcanonical hhash hexpires
    apply run_save_opens hinj hfresh (hdraw.trans hsigned) (Nat.le_refl _) hsigned.draws hid huser
      hactive hissued hknown
    exact ne_of_signed hcall hfresh.minted (Nat.le_add_right w.draws 2)

end Creation

/-! ### LoginService.ts -/

namespace LoginService

variable {env : Env} {w : World} {users : IUserRepository}

/-- A login for a stored user opens a session. -/
theorem run_openSession (hu : users.Proper) (hinj : Function.Injective env.sha256)
    (hkeys : env.KeysMatch) (hfresh : w.Fresh env)
    (hpos : 0 < w.now / 1000 + env.config.refreshExpiration.seconds) (r : LoginRequest)
    {user : User} (huser : w.HasUser user.id) (hcanonical : env.parseUuid user.id = some user.id)
    (hevents : ∀ e ∈ user.domainEvents, e.userId = .str user.id) :
    ∃ tokens row w', (openSession env users r user).run (exec env) w = (.ok tokens, w') ∧
      w.Opens env w' row tokens.refreshToken := by
  obtain ⟨sessionId, tokens, expiresAt, w₁, hbeside, hrun, hend, hsave⟩ :=
    run_issue hinj hkeys hfresh hpos huser hcanonical
      (PermissionResolver.resolveEffectiveRoles (w.rbac.directRoles user.id) w.rbac.allRoles)
      (w.rbac.permissionsOfRoles (w.rbac.directRoles user.id))
  obtain ⟨w₂, hsaved, hopens⟩ := hsave (DeviceSession.construct sessionId user.id
    (env.sha256 tokens.refreshToken) r.ipAddress r.userAgent expiresAt w₁.now false)
    rfl rfl rfl rfl rfl
  obtain ⟨w₃, hdispatch, hafter⟩ :=
    run_dispatch (auditable_withMetadata hcanonical hevents r.ipAddress r.userAgent) hopens.fresh
  refine ⟨tokens, _, w₃, ?_, hopens.before hafter⟩
  unfold openSession
  rw [hu.findRoles, run_bind_ok env w (run_findRoles env w user.id),
    run_bind_ok env w (run_resolveRoles env w _),
    run_bind_ok env w (run_resolvePermissions env w _), hrun]
  rw [run_bind_ok env w₁ (run_expiresAt hend), run_bind_ok env w₁ (run_now env w₁)]
  dsimp only [SecureRandomGenerator.hashString]
  rw [run_bind_ok env w₁ hsaved, run_bind_ok env w₂ hdispatch]
  rfl

/-- Checking a password has no effect; what the library throws counts as a refusal. -/
theorem run_verify (env : Env) (w : World) (pchstr plaintext : String) :
    (Argon2PasswordHasher.verify env pchstr plaintext).run (exec env) w =
      (.ok (decide (env.argon2Verify pchstr (Argon2PasswordHasher.applyPepper env plaintext) =
        some true)), w) := by
  unfold Argon2PasswordHasher.verify
  rw [run_tryCatch, run_request]
  simp only [exec, HasherOp.exec]
  cases env.argon2Verify pchstr (Argon2PasswordHasher.applyPepper env plaintext) with
  | none => rfl
  | some b => cases b <;> rfl

/-- A refusal throws and has no effect. -/
theorem run_refuse (env : Env) (w : World) (hash password : String) :
    (refuse env hash password).run (exec env) w =
      (.error (.domainError "Invalid credentials"), w) := by
  unfold refuse
  rw [run_bind_ok env w (run_verify env w hash password)]
  rfl

/-- What a login does: it throws and leaves the sessions, or it opens a session. -/
theorem run_execute (hu : users.Proper) (hinj : Function.Injective env.sha256)
    (hkeys : env.KeysMatch) (hfresh : w.Fresh env)
    (hpos : 0 < w.now / 1000 + env.config.refreshExpiration.seconds)
    (hcanonical : ∀ id, w.HasUser id → env.parseUuid id = some id) (r : LoginRequest) :
    (∃ e w', (execute env users r).run (exec env) w = (.error e, w') ∧ w.Beside env w') ∨
      ∃ tokens row w', (execute env users r).run (exec env) w = (.ok tokens, w') ∧
        w.Opens env w' row tokens.refreshToken := by
  have hrefuse : ∀ hash, ∃ e w', (refuse env hash r.passwordRaw).run (exec env) w =
      (.error e, w') ∧ w.Beside env w' := fun hash ↦
    ⟨_, w, run_refuse env w hash r.passwordRaw, .refl env w⟩
  have hupdate : ∀ user, ∃ result w', (users.update user).run (exec env) w = (result, w') ∧
      w.Beside env w' := by
    intro user
    have huses : (users.update user).Uses Op.beside := by
      rw [hu.update]
      exact uses_perform trivial
    exact ⟨_, _, rfl, beside_run huses w⟩
  unfold execute
  dsimp only
  split
  · rw [hu.findByEmail, run_bind_ok env w (run_findByEmail env w _)]
    cases hfind : w.users.find fun u ↦ decide (u.email = EmailValidator.normalize env r.email) with
    | none => exact .inl (hrefuse _)
    | some u =>
      obtain ⟨hstored, -⟩ := Table.find_some hfind
      dsimp only [Option.map]
      split
      · exact .inl (hrefuse _)
      · next hlocked =>
        rw [run_bind_ok env w (run_verify env w (toDomainUser u).passwordHash r.passwordRaw)]
        split
        · unfold rightPassword
          rw [User.recordLogin_unlocked (by simpa using hlocked), done_ok_bind]
          let user : User := { toDomainUser u with
            failedLoginAttempts := 0
            domainEvents := [{ detail := .userLoggedIn u.id r.ipAddress r.userAgent }] }
          obtain ⟨result, w₁, hrun, hbeside⟩ := hupdate user
          cases result with
          | error e => exact .inl ⟨e, w₁, run_bind_error env w hrun, hbeside⟩
          | ok _ =>
            have huser : w.HasUser u.id := ⟨u, hstored, rfl⟩
            have hpos₁ : 0 < w₁.now / 1000 + env.config.refreshExpiration.seconds := by
              rw [hbeside.now]
              exact hpos
            have hevents : ∀ e ∈ user.domainEvents, e.userId = .str user.id := by
              intro e he
              rw [List.mem_singleton.mp he]
              rfl
            obtain ⟨tokens, row, w₂, hopen, hopens⟩ := run_openSession hu hinj hkeys
              (hbeside.fresh hfresh) hpos₁ r ((hbeside.users u.id).mpr huser)
              (hcanonical u.id huser) hevents
            exact .inr ⟨tokens, row, w₂, (run_bind_ok env w hrun).trans hopen, hopens.after hbeside⟩
        · unfold wrongPassword
          obtain ⟨result, w₁, hrun, hbeside⟩ := hupdate ((toDomainUser u).incrementFailedAttempts 5)
          cases result with
          | error e => exact .inl ⟨e, w₁, run_bind_error env w hrun, hbeside⟩
          | ok _ => exact .inl ⟨_, w₁, run_bind_ok env w hrun, hbeside⟩
  · exact .inl (hrefuse _)

end LoginService

/-! ### RefreshTokenService.ts -/

/-- The session that the token is exchanged for: it is stored under its hash, it is neither revoked
nor past its end, and its user is there and not locked. -/
structure World.Redeems (env : Env) (w : World) (token : Text) (r : DeviceSessionRow) : Prop where
  stored : r ∈ w.deviceSessions
  hash : r.refreshToken = env.sha256 token
  unrevoked : r.isRevoked = false
  live : w.now < r.expiresAt
  owner : ∃ u ∈ w.users, u.id = r.userId ∧ u.isLocked = false

/-- The world after the session with the id has been revoked. -/
def World.revoking (w : World) (id : String) : World :=
  { w with deviceSessions := w.deviceSessions.revoke id }

/-- Revoking a session leaves what is fresh. -/
theorem World.Fresh.revoking {env : Env} {w : World} (h : w.Fresh env) (id : String) :
    (w.revoking id).Fresh env := by
  have hkeys : ∀ s ∈ (w.revoking id).deviceSessions, ∃ r ∈ w.deviceSessions,
      r.id = s.id ∧ r.refreshToken = s.refreshToken := by
    intro s hs
    obtain ⟨r, hr, rfl⟩ := DeviceSessionTable.mem_revoke.mp hs
    obtain ⟨hid, hhash⟩ := DeviceSessionRow.write_keys id true r
    exact ⟨r, hr, hid.symm, hhash.symm⟩
  refine ⟨?_, h.audits, ⟨h.minted.jti, h.minted.use⟩, ?_⟩
  · intro n hn s hs
    obtain ⟨r, hr, hid, -⟩ := hkeys s hs
    rw [← hid]
    exact h.sessions n hn r hr
  · intro s hs
    obtain ⟨r, hr, -, hhash⟩ := hkeys s hs
    rw [← hhash]
    exact h.hashes r hr

namespace RefreshTokenService

variable {env : Env} {w : World} {users : IUserRepository}

/-- A rotation revokes the session and opens another one for its user. -/
theorem run_rotate (hu : users.Proper) (hinj : Function.Injective env.sha256)
    (hkeys : env.KeysMatch) (hfresh : w.Fresh env)
    (hpos : 0 < w.now / 1000 + env.config.refreshExpiration.seconds) {row : DeviceSessionRow}
    (hstored : row ∈ w.deviceSessions) (hactive : row.isRevoked = false)
    (huser : w.HasUser row.userId) (hcanonical : env.parseUuid row.userId = some row.userId)
    (user : User) (ip ua : String) (now : Nat) :
    ∃ tokens row' w', (rotate env users (.str row.userId) ip ua (toDomainDeviceSession row) user
        now).run (exec env) w = (.ok tokens, w') ∧
      (w.revoking row.id).Opens env w' row' tokens.refreshToken := by
  obtain ⟨sessionId, tokens, expiresAt, w₁, hbeside, hrun, hend, hsave⟩ :=
    run_issue hinj hkeys (hfresh.revoking row.id) hpos huser hcanonical
      (PermissionResolver.resolveEffectiveRoles (w.rbac.directRoles user.id) w.rbac.allRoles)
      (w.rbac.permissionsOfRoles (w.rbac.directRoles user.id))
  obtain ⟨w₂, hsaved, hopens⟩ := hsave ((toDomainDeviceSession row).rotate sessionId
    (env.sha256 tokens.refreshToken) ip ua expiresAt now) rfl rfl rfl rfl rfl
  refine ⟨tokens, _, w₂, ?_, hopens⟩
  unfold rotate
  rw [DeviceSessionRow.revoke_toDomain hactive, done_ok_bind,
    run_bind_ok env w (LogoutService.run_saveRevoked hstored rfl rfl)]
  change Prog.run (exec env) _ (w.revoking row.id) = _
  rw [hu.findRoles, run_bind_ok env _ (run_findRoles env _ user.id),
    run_bind_ok env _ (run_resolveRoles env _ _),
    run_bind_ok env _ (run_resolvePermissions env _ _)]
  refine (hrun _).trans ?_
  dsimp only [SecureRandomGenerator.hashString]
  rw [hend]
  refine (run_bind_ok env w₁ hsaved).trans ?_
  rfl

/-- A verified token whose hash is stored goes to the checks of its session. -/
theorem run_found {token : Text} {claims : Claims} {row : DeviceSessionRow}
    (hverify : JwtTokenService.verifyAt env token w.now = .ok claims)
    (hstored : row ∈ w.deviceSessions) (hhash : row.refreshToken = env.sha256 token)
    (ip ua : String) :
    (execute env users token ip ua).run (exec env) w =
      (present env users claims.sub claims.sessionId (env.sha256 token) ip ua
        (toDomainDeviceSession row)).run (exec env) w := by
  have hfind := DeviceSessionTable.find_refreshToken hstored
  rw [hhash] at hfind
  unfold execute
  rw [run_bind, run_verified, hverify]
  dsimp only [SecureRandomGenerator.hashString]
  rw [run_bind, run_findByRefreshToken, hfind]
  rfl

/-- The claims of a verified token whose hash is stored are those of its session. -/
theorem claims_of_issued (hinj : Function.Injective env.sha256) {token issued : Text}
    {claims : Claims} {row : DeviceSessionRow} {t : Nat}
    (hverify : JwtTokenService.verifyAt env token t = .ok claims)
    (hhash : row.refreshToken = env.sha256 token) (hissued : row.IssuedWith env issued) :
    claims.sub = .str row.userId ∧ claims.sessionId = .str row.id ∧ t < row.expiresAt := by
  obtain ⟨claims', seconds, hdecode, hsub, hsession, hexp, hend⟩ := hissued.bound.claims
  have hdecode' := JwtTokenService.decode_of_verifyAt hverify
  rw [hissued.bound.eq hinj hhash.symm] at hdecode'
  have hsame : claims = claims' := Option.some.inj (hdecode'.symm.trans hdecode)
  subst hsame
  rw [hend]
  exact ⟨hsub, hsession, lt_exp_of_verifyAt hverify hexp⟩

/-- A token with a session to exchange is exchanged. -/
theorem run_redeemed (hu : users.Proper) (hinj : Function.Injective env.sha256)
    (hkeys : env.KeysMatch) (hfresh : w.Fresh env)
    (hpos : 0 < w.now / 1000 + env.config.refreshExpiration.seconds)
    (hissued : ∀ r ∈ w.deviceSessions, ∃ token, r.IssuedWith env token) {token : Text}
    {row : DeviceSessionRow} (h : w.Redeems env token row) (ip ua : String) :
    ∃ tokens row' w', (execute env users token ip ua).run (exec env) w = (.ok tokens, w') ∧
      (w.revoking row.id).Opens env w' row' tokens.refreshToken := by
  obtain ⟨issued, hrow⟩ := hissued row h.stored
  have hsame := hrow.bound.eq hinj h.hash.symm
  obtain ⟨claims, hverify⟩ := hrow.verified w.now h.live
  rw [← hsame] at hverify
  obtain ⟨hsub, hsession, -⟩ := claims_of_issued hinj hverify h.hash hrow
  obtain ⟨u, hu', hid, hlocked⟩ := h.owner
  obtain ⟨tokens, row', w', hrun, hopens⟩ := run_rotate hu hinj hkeys hfresh hpos h.stored
    h.unrevoked ⟨u, hu', hid⟩ hrow.canonical (toDomainUser u) ip ua w.now
  refine ⟨tokens, row', w', ?_, hopens⟩
  have hfound := UserTable.find_id hu'
  rw [hid] at hfound
  have huuid : uuidArgument env (.str row.userId) = .ok row.userId := by
    simp only [uuidArgument, hrow.canonical]
  have hlive : ¬ (toDomainDeviceSession row).expiresAt < w.now :=
    Nat.not_lt.mpr (Nat.le_of_lt h.live)
  rw [run_found hverify h.stored h.hash, hsub, hsession]
  unfold present
  rw [if_neg (by simp [h.hash]),
    if_neg (by simp [h.unrevoked]),
    if_neg (by simp),
    run_bind_ok env w (run_now env w),
    if_neg (by simp [DeviceSession.isExpired, hlive]), hu.findById, run_bind, run_findUserById,
    huuid]
  dsimp only
  rw [hfound]
  dsimp only [Option.map]
  rw [if_neg (by simp [hlocked])]
  exact hrun

/-- A token without a session to exchange is refused, and nothing changes. -/
theorem run_unredeemable (hu : users.Proper) (hinj : Function.Injective env.sha256)
    (hissued : ∀ r ∈ w.deviceSessions, ∃ token, r.IssuedWith env token) {token : Text}
    (h : ∀ row, ¬ w.Redeems env token row) (ip ua : String) :
    ∃ e, (execute env users token ip ua).run (exec env) w = (.error e, w) := by
  cases hverify : JwtTokenService.verifyAt env token w.now with
  | error e =>
    refine ⟨.domainError "Invalid refresh token", ?_⟩
    unfold execute
    rw [run_bind, run_verified, hverify]
  | ok claims =>
    cases hfind : w.deviceSessions.find fun r ↦ decide (r.refreshToken = env.sha256 token) with
    | none =>
      refine ⟨.domainError "Session not found", ?_⟩
      unfold execute
      rw [run_bind, run_verified, hverify]
      dsimp only [SecureRandomGenerator.hashString]
      rw [run_bind, run_findByRefreshToken, hfind]
      rfl
    | some row =>
      obtain ⟨hstored, hhash⟩ := Table.find_some hfind
      have hhash : row.refreshToken = env.sha256 token := by simpa using hhash
      obtain ⟨issued, hrow⟩ := hissued row hstored
      obtain ⟨hsub, hsession, hlive⟩ := claims_of_issued hinj hverify hhash hrow
      have huuid : uuidArgument env (.str row.userId) = .ok row.userId := by
        simp only [uuidArgument, hrow.canonical]
      rw [run_found hverify hstored hhash, hsub, hsession]
      unfold present
      rw [if_neg (by simp [hhash])]
      split
      · exact ⟨_, rfl⟩
      · next hactive =>
        rw [if_neg (by simp),
          run_bind_ok env w (run_now env w)]
        split
        · exact ⟨_, rfl⟩
        · rw [hu.findById, run_bind, run_findUserById, huuid]
          dsimp only
          cases hfound : w.users.find fun r ↦ decide (r.id = row.userId) with
          | none => exact ⟨_, rfl⟩
          | some u =>
            obtain ⟨hu', hid⟩ := Table.find_some hfound
            dsimp only [Option.map]
            split
            · exact ⟨_, rfl⟩
            · next hlocked =>
              refine absurd ?_ (h row)
              exact ⟨hstored, hhash, Bool.eq_false_iff.mpr hactive, hlive, u, hu',
                by simpa using hid, Bool.eq_false_iff.mpr hlocked⟩

end RefreshTokenService

/-! ### LogoutService.ts -/

namespace LogoutService

variable {env : Env} {w : World}

/-- Ending the session of the presented token revokes it and writes the event. -/
theorem run_endSession_ends {d : DeviceSessionRow} {r : LogoutRequest} (hfresh : w.Fresh env)
    (hstored : d ∈ w.deviceSessions) (hactive : d.isRevoked = false)
    (hcanonical : env.parseUuid d.userId = some d.userId)
    (hhash : d.refreshToken = env.sha256 r.refreshToken) (ip ua : String) :
    ∃ w', (endSession env r ip ua (toDomainDeviceSession d)).run (exec env) w = (.ok (), w') ∧
      (w.revoking d.id).Beside env w' := by
  have hevents : ∀ e ∈ ([{ detail := .tokenRevoked d.id d.userId "User requested logout" }] :
      List DomainEvent), e.userId = .str d.userId := by
    intro e he
    rw [List.mem_singleton.mp he]
    rfl
  obtain ⟨w', hdispatch, hbeside⟩ :=
    run_dispatch (auditable_withMetadata hcanonical hevents ip ua) (hfresh.revoking d.id)
  refine ⟨w', ?_, hbeside⟩
  unfold endSession
  rw [if_neg (by simp [hactive]),
    if_pos (show (toDomainDeviceSession d).refreshToken =
      SecureRandomGenerator.hashString env r.refreshToken from hhash),
    DeviceSessionRow.revoke_toDomain hactive, done_ok_bind,
    run_bind_ok env w (run_saveRevoked hstored rfl rfl)]
  exact hdispatch

/-- What a logout does: it throws and leaves the sessions; or the session that it looks up is not
there or revoked already; or it revokes the session of the presented token. -/
theorem run_execute (hfresh : w.Fresh env)
    (hcanonical : ∀ r ∈ w.deviceSessions, env.parseUuid r.userId = some r.userId)
    (r : LogoutRequest) (ip ua : String) :
    (∃ e w', (execute env r ip ua).run (exec env) w = (.error e, w') ∧ w.Beside env w') ∨
      ∃ id w', uuidArgument env (sessionId r) = .ok id ∧
        (execute env r ip ua).run (exec env) w = (.ok (), w') ∧
        (w.Beside env w' ∧ (∀ d ∈ w.deviceSessions, d.id = id → d.isRevoked = true) ∨
          (w.revoking id).Beside env w' ∧ ∃ d ∈ w.deviceSessions, d.id = id ∧
            d.isRevoked = false ∧ d.refreshToken = env.sha256 r.refreshToken) := by
  have hredis : ∀ w redis, World.Beside env w { w with redis := redis } := by
    intro w redis
    refine ⟨fun _ ↦ Iff.rfl, rfl, rfl, Nat.le_refl _, List.Subset.refl _, fun h ↦ ?_⟩
    exact ⟨h.sessions, h.audits, ⟨h.minted.jti, h.minted.use⟩, h.hashes⟩
  unfold execute
  obtain ⟨redis, ⟨-, hrun⟩ | ⟨-, e, hrun⟩⟩ := run_blacklist env r.accessToken w
  · rw [run_bind_ok env w hrun]
    split
    · cases hid : uuidArgument env (sessionId r) with
      | error e =>
        refine .inl ⟨e, _, ?_, hredis w redis⟩
        rw [run_bind, run_findById, hid]
      | ok id =>
        rw [run_bind, run_findById, hid]
        dsimp only
        cases hfind : w.deviceSessions.find fun d ↦ decide (d.id = id) with
        | none =>
          refine .inr ⟨id, _, rfl, rfl, .inl ⟨hredis w redis, ?_⟩⟩
          intro d hd hdid
          exact absurd hdid (by simpa using Table.find_none.mp hfind d hd)
        | some d =>
          obtain ⟨hstored, hdid⟩ := Table.find_some hfind
          have hdid : d.id = id := by simpa using hdid
          dsimp only [Option.map]
          by_cases hrev : d.isRevoked = true
          · refine .inr ⟨id, _, rfl, run_endSession_revoked hrev r ip ua _,
              .inl ⟨hredis w redis, ?_⟩⟩
            intro d' hd' hdid'
            rw [DeviceSessionTable.eq_of_id hd' hstored (hdid'.trans hdid.symm)]
            exact hrev
          · have hactive : d.isRevoked = false := Bool.eq_false_iff.mpr hrev
            by_cases hhash : d.refreshToken = env.sha256 r.refreshToken
            · obtain ⟨w', hends, hbeside⟩ := run_endSession_ends (w := { w with redis := redis })
                ((hredis w redis).fresh hfresh) hstored hactive (hcanonical d hstored) hhash ip ua
              refine .inr ⟨id, w', rfl, hends, .inr ⟨?_, d, hstored, hdid, hactive, hhash⟩⟩
              rw [← hdid]
              exact (hredis (w.revoking d.id) redis).trans hbeside
            · exact .inl ⟨_, _, run_endSession_other hactive hhash ip ua { w with redis := redis },
                hredis w redis⟩
    · exact .inl ⟨_, _, rfl, hredis w redis⟩
  · exact .inl ⟨e, _, run_bind_error env w hrun, hredis w redis⟩

end LogoutService

end Bankos
