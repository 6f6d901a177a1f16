import Bankos.Sessions.Logout
import Bankos.Rbac.Tables

/-!
# What a logout changes

What `LogoutService.execute` leaves of the store and of the blacklist, whatever its two tokens say.
The access token is blacklisted first, so a logout that is rejected later has had an effect already.
-/

namespace Bankos

open Js Jwt Effects Storage Prog DatabaseMapper

variable {env : Env} {w : World} {r : LogoutRequest}

namespace LogoutService

/-! ### Rejected logouts -/

/-- The logout puts an entry on the blacklist that was not there. -/
def Blacklists (env : Env) (accessToken : Text) (w : World) : Prop :=
  ∃ ttl, blacklistTtl env accessToken w.now = some ttl ∧ validTtl w.now ttl = true ∧
    w.redis (RedisTokenBlacklistService.getBlacklistKey env (claimedJti accessToken)) ≠
      some ⟨"1", w.now + ttl.num.toNat * 1000⟩

/-- The tokens name no session, or one that is active and the one of another refresh token. -/
def Mismatched (env : Env) (r : LogoutRequest) (w : World) : Prop :=
  (sessionId r).truthy = false ∨
    ∃ d ∈ w.deviceSessions, uuidArgument env (sessionId r) = .ok d.id ∧ d.isRevoked = false ∧
      d.refreshToken ≠ env.sha256 r.refreshToken

/-- A logout that throws a `DomainError` leaves the blacklist and the sessions as they were. -/
def RejectsCleanly (env : Env) (r : LogoutRequest) (ip ua : String) (w : World) : Prop :=
  let ending := (execute env r ip ua).run (exec env) w
  ∀ e, ending.1 = .error e → e.isDomainError = true →
    ending.2.redis = w.redis ∧ ending.2.deviceSessions = w.deviceSessions

/-- The blacklist stays as it was unless there is a new entry. -/
theorem blacklistAfter_eq_iff (h : BlacklistAccepted env r.accessToken w.now) :
    blacklistAfter env r.accessToken w = w.redis ↔ ¬ Blacklists env r.accessToken w := by
  unfold blacklistAfter Blacklists
  cases httl : blacklistTtl env r.accessToken w.now with
  | none => simp
  | some ttl =>
    have hvalid : validTtl w.now ttl = true := h ttl httl
    dsimp only
    rw [Function.update_eq_self_iff]
    constructor
    · rintro hsame ⟨ttl', hsome, -, hnew⟩
      cases hsome
      exact hnew hsame.symm
    · intro hnot
      by_contra hnew
      exact hnot ⟨ttl, rfl, hvalid, Ne.symm hnew⟩

/-- A new entry is one that Redis accepts. -/
theorem Blacklists.accepted {accessToken : Text} (h : Blacklists env accessToken w) :
    BlacklistAccepted env accessToken w.now := by
  obtain ⟨ttl, httl, hvalid, -⟩ := h
  intro ttl' httl'
  rw [httl, Option.mem_some_iff] at httl'
  rw [← httl']
  exact hvalid

/-- Tokens that fit no session are rejected once the blacklist is written. -/
theorem Outcome.of_mismatched {result : Except JsError Unit} {w' : World}
    (h : Outcome env r w result w') (haccepted : BlacklistAccepted env r.accessToken w.now)
    (hmismatched : Mismatched env r w) :
    ∃ e, result = .error e ∧ e.isDomainError = true ∧
      w' = { w with redis := blacklistAfter env r.accessToken w } := by
  cases h with
  | unlisted hrefused => exact absurd haccepted hrefused
  | unnamed => exact ⟨_, rfl, rfl, rfl⟩
  | malformed _ htruthy huuid =>
    rcases hmismatched with hfalsy | ⟨d, -, hid, -⟩
    · exact absurd hfalsy (by simp [htruthy])
    · rw [huuid] at hid
      cases hid
  | lapsed _ htruthy huuid hlapsed =>
    rcases hmismatched with hfalsy | ⟨d, hd, hid, hactive, -⟩
    · exact absurd hfalsy (by simp [htruthy])
    · rw [huuid] at hid
      cases hid
      rw [hlapsed d hd rfl] at hactive
      cases hactive
  | foreign => exact ⟨_, rfl, rfl, rfl⟩
  | ended htruthy huuid hd _ hhash =>
    rcases hmismatched with hfalsy | ⟨d', hd', hid, -, hother⟩
    · exact absurd hfalsy (by simp [htruthy])
    · rw [huuid, Except.ok.injEq] at hid
      rw [DeviceSessionTable.eq_of_id hd' hd hid.symm] at hother
      exact absurd hhash hother

/-- No others are rejected. -/
theorem Outcome.rejected {e : JsError} {w' : World} (h : Outcome env r w (.error e) w')
    (hdomain : e.isDomainError = true) :
    BlacklistAccepted env r.accessToken w.now ∧ Mismatched env r w ∧
      w' = { w with redis := blacklistAfter env r.accessToken w } := by
  cases h with
  | unlisted => cases hdomain
  | unnamed haccepted hfalsy => exact ⟨haccepted, .inl hfalsy, rfl⟩
  | malformed haccepted htruthy huuid =>
    rw [uuidArgument_error huuid] at hdomain
    cases hdomain
  | @foreign d haccepted htruthy huuid hd hactive hother =>
    exact ⟨haccepted, .inr ⟨d, hd, huuid, hactive, hother⟩, rfl⟩
  | ended htruthy huuid hd hactive hhash hresult hsessions =>
    rw [hresult e rfl] at hdomain
    cases hdomain

end LogoutService

/-- A rejected logout has no effect unless the tokens do not fit a session and the access token is
put on the blacklist before. -/
theorem rejectsCleanly_iff (env : Env) (r : LogoutRequest) (ip ua : String) (w : World) :
    LogoutService.RejectsCleanly env r ip ua w ↔
      ¬ (LogoutService.Blacklists env r.accessToken w ∧ LogoutService.Mismatched env r w) := by
  have houtcome := LogoutService.outcome env r ip ua w
  constructor
  · rintro hclean ⟨hblacklists, hmismatched⟩
    have haccepted := hblacklists.accepted
    obtain ⟨e, he, hdomain, hending⟩ := houtcome.of_mismatched haccepted hmismatched
    obtain ⟨hredis, -⟩ := hclean e he hdomain
    rw [hending] at hredis
    exact (LogoutService.blacklistAfter_eq_iff haccepted).mp hredis hblacklists
  · intro hnot e he hdomain
    rw [he] at houtcome
    obtain ⟨haccepted, hmismatched, hending⟩ := houtcome.rejected hdomain
    have hlisted := fun h ↦ hnot ⟨h, hmismatched⟩
    rw [hending]
    exact ⟨(LogoutService.blacklistAfter_eq_iff haccepted).mpr hlisted, rfl⟩

/-- The logout of `alice` with a refresh token that is not hers. -/
def Sample.foreignLogout : LogoutRequest := ⟨tokens.accessToken, .plain "another token"⟩

/-- A logout that is rejected has put the access token on the blacklist. -/
theorem rejected_logout_blacklists :
    ¬ ∀ (r : LogoutRequest) (ip ua : String) (w : World),
      LogoutService.RejectsCleanly Sample.env r ip ua w := by
  intro h
  let ending := (LogoutService.execute Sample.env Sample.foreignLogout "10.0.0.1" "browser").run
    (exec Sample.env) Sample.loggedIn
  have hthrows : ending.1 = .error (.domainError "Invalid refresh token for session") := by
    decide +kernel
  have hentry : ending.2.redis (RedisTokenBlacklistService.getBlacklistKey Sample.env
      (LogoutService.claimedJti Sample.tokens.accessToken)) ≠ none := by decide +kernel
  have hsame := (h Sample.foreignLogout "10.0.0.1" "browser" Sample.loggedIn _ hthrows rfl).1
  rw [hsame] at hentry
  exact hentry rfl

/-! ### The session that a logout changes -/

namespace LogoutService

/-- The session id that the access token claims or, if it claims none, the refresh token. -/
def Names (r : LogoutRequest) (id : String) : Prop :=
  claimedSession r.accessToken = .str id ∨
    (claimedSession r.accessToken).truthy = false ∧ claimedSession r.refreshToken = .str id

/-- What a logout may do to the stored rows: it may revoke one active session, which is the one
with the hash of the presented refresh token and with the id that the tokens name. -/
structure TouchesOnly (env : Env) (r : LogoutRequest) (w w' : World) : Prop where
  users : w'.users = w.users
  roles : w'.roles = w.roles
  permissions : w'.permissions = w.permissions
  userRoles : w'.userRoles = w.userRoles
  rolePermissions : w'.rolePermissions = w.rolePermissions
  passwordResetTokens : w'.passwordResetTokens = w.passwordResetTokens
  emailVerificationTokens : w'.emailVerificationTokens = w.emailVerificationTokens
  deviceSessions : w'.deviceSessions = w.deviceSessions ∨
    ∃ d ∈ w.deviceSessions, d.refreshToken = env.sha256 r.refreshToken ∧
      (∃ id, Names r id ∧ env.parseUuid id = some d.id) ∧ d.isRevoked = false ∧
      w'.deviceSessions.rows =
        w.deviceSessions.rows.map fun s ↦ if s = d then { s with isRevoked := true } else s

/-- A session id that is looked up is named by the tokens. -/
theorem names_of_uuidArgument {id : String} (huuid : uuidArgument env (sessionId r) = .ok id) :
    ∃ text, Names r text ∧ env.parseUuid text = some id := by
  cases hid : sessionId r with
  | str text =>
    rw [hid] at huuid
    refine ⟨text, ?_, ?_⟩
    · unfold sessionId at hid
      split at hid
      · exact .inl hid
      · next hfalsy => exact .inr ⟨by simpa using hfalsy, hid⟩
    · unfold uuidArgument at huuid
      dsimp only at huuid
      split at huuid
      · next id' hparse =>
        cases huuid
        exact hparse
      · cases huuid
  | _ =>
    rw [hid] at huuid
    cases huuid

/-- The calls of a logout leave every table but the sessions and the audit log alone. -/
theorem exec_otherTables (env : Env) {op : Op} (h : op.within [.redis, .session, .audit])
    (w : World) :
    (exec env w op).2.users = w.users ∧ (exec env w op).2.rbac = w.rbac ∧
      (exec env w op).2.passwordResetTokens = w.passwordResetTokens ∧
      (exec env w op).2.emailVerificationTokens = w.emailVerificationTokens := by
  refine ⟨exec_users env w fun harea ↦ absurd (h _ harea) (by decide),
    exec_rbac env w fun a ha ↦ ?_, ?_⟩
  · have hin := h a ha
    simp only [List.mem_cons, List.not_mem_nil, or_false] at hin
    rcases hin with rfl | rfl | rfl
    · rfl
    · rfl
    · rfl
  · cases op with
    | resetToken o => cases o <;> exact absurd (h _ rfl) (by decide)
    | verificationToken o => exact absurd (h _ rfl) (by decide)
    | jwtSign c =>
      simp only [exec]
      split <;> exact ⟨rfl, rfl⟩
    | _ => exact ⟨rfl, rfl⟩

/-- Revoking a session changes its row and no other. -/
theorem rows_revoke {t : DeviceSessionTable} {d : DeviceSessionRow} (hd : d ∈ t) :
    (t.revoke d.id).rows =
      t.rows.map fun s ↦ if s = d then { s with isRevoked := true } else s := by
  show t.rows.map (DeviceSessionRow.write d.id true) = _
  apply List.map_congr_left
  intro s hs
  unfold DeviceSessionRow.write
  by_cases hid : s.id = d.id
  · rw [if_pos hid, if_pos (DeviceSessionTable.eq_of_id hs hd hid)]
  · rw [if_neg hid, if_neg fun hsame ↦ hid (congrArg DeviceSessionRow.id hsame)]

end LogoutService

/-- A logout changes at most the session that both its tokens lead to. -/
theorem logout_touchesOnly (env : Env) (r : LogoutRequest) (ip ua : String) (w : World) :
    LogoutService.TouchesOnly env r w
      ((LogoutService.execute env r ip ua).run (exec env) w).2 := by
  have htables := (LogoutService.execute_uses env r ip ua).run_keeps
    (J := fun w' : World ↦ w'.users = w.users ∧ w'.rbac = w.rbac ∧
      w'.passwordResetTokens = w.passwordResetTokens ∧
      w'.emailVerificationTokens = w.emailVerificationTokens) (fun w' op hop hw' ↦ by
        obtain ⟨husers, hrbac, hreset, hverification⟩ :=
          LogoutService.exec_otherTables env hop w'
        exact ⟨husers.trans hw'.1, hrbac.trans hw'.2.1, hreset.trans hw'.2.2.1,
          hverification.trans hw'.2.2.2⟩) w ⟨rfl, rfl, rfl, rfl⟩
  obtain ⟨husers, hrbac, hreset, hverification⟩ := htables
  have houtcome := LogoutService.outcome env r ip ua w
  refine
    { users := husers
      roles := congrArg RbacTables.roles hrbac
      permissions := congrArg RbacTables.permissions hrbac
      userRoles := congrArg RbacTables.userRoles hrbac
      rolePermissions := congrArg RbacTables.rolePermissions hrbac
      passwordResetTokens := hreset
      emailVerificationTokens := hverification
      deviceSessions := ?_ }
  generalize (LogoutService.execute env r ip ua).run (exec env) w = ending at houtcome ⊢
  obtain ⟨result, w'⟩ := ending
  dsimp only at houtcome ⊢
  cases houtcome with
  | unlisted => exact .inl rfl
  | unnamed => exact .inl rfl
  | malformed => exact .inl rfl
  | lapsed => exact .inl rfl
  | foreign => exact .inl rfl
  | @ended d _ _ htruthy huuid hd hactive hhash hresult hsessions =>
    refine .inr ⟨d, hd, hhash, LogoutService.names_of_uuidArgument huuid, hactive, ?_⟩
    rw [hsessions]
    exact LogoutService.rows_revoke hd

end Bankos
