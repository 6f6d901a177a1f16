import Bankos.Sessions.Refresh

/-!
# Logout

How `LogoutService.execute` can end, and what it does to the session whose token is presented.
The session to end is found through the `sessionId` claim of a token that is only decoded, while
the session that the client holds is the one with the hash of the refresh token.
-/

namespace Bankos

open Js Jwt Effects Storage Prog DatabaseMapper

variable {ι : Type} [DecidableEq ι] {env : Env}

/-- Whether the error is a `DomainError`; `core/errors/InvalidStateError.ts` extends the class. -/
def JsError.isDomainError : JsError → Bool
  | .domainError _ => true
  | .invalidStateError _ => true
  | _ => false

/-- A text that is no UUID is not refused with a `DomainError`. -/
theorem uuidArgument_error {v : Value} {e : JsError} (h : uuidArgument env v = .error e) :
    e.isDomainError = false := by
  unfold uuidArgument at h
  split at h
  · split at h
    · cases h
    · cases h
      rfl
  · cases h
    rfl

/-- The error of an audit event that is not written is none of the domain. -/
theorem AuditEventRow.exec_error {t : AuditEventTable} {row : AuditEventRow} {e : JsError}
    (h : (row.exec env t).1 = .error e) : e.isDomainError = false := by
  unfold AuditEventRow.exec at h
  split at h
  · next e' huser =>
    cases h
    unfold auditUserId at huser
    split at huser
    · cases huser
    · cases huser
    · cases huuid : uuidArgument env row.userId with
      | error e' =>
        rw [huuid] at huser
        cases huser
        exact uuidArgument_error huuid
      | ok id =>
        rw [huuid] at huser
        cases huser
  · split at h
    · cases h
    · cases h
      rfl

/-- An event that cannot be dispatched does not throw a `DomainError`. -/
theorem run_dispatch_error {event : DomainEvent} {w : World} {e : JsError}
    (h : ((dispatch [event]).run (exec env) w).1 = .error e) : e.isDomainError = false := by
  have hhandle : ((AuditEventHandler.handle event).run (exec env) w).1 = .error e := by
    rw [dispatch_single, run_bind, run_bind, run_bind] at h
    rcases hrun : (AuditEventHandler.handle event).run (exec env) w with ⟨e' | _, w'⟩
    · rw [hrun] at h
      exact h
    · rw [hrun] at h
      cases h
  unfold AuditEventHandler.handle at hhandle
  rw [run_bind_ok env w (run_generateUUID env w), run_bind_ok env _ (run_now env _)] at hhandle
  exact AuditEventRow.exec_error hhandle

namespace LogoutService

/-- Redis takes the lifetime that the blacklisting asks for, if it asks for one. -/
def BlacklistAccepted (env : Env) (accessToken : Text) (now : Nat) : Prop :=
  ∀ ttl ∈ blacklistTtl env accessToken now, validTtl now ttl = true

instance (env : Env) (accessToken : Text) (now : Nat) :
    Decidable (BlacklistAccepted env accessToken now) :=
  inferInstanceAs (Decidable (∀ ttl ∈ blacklistTtl env accessToken now, _))

/-- What Redis holds once the access token has been blacklisted. -/
def blacklistAfter (env : Env) (accessToken : Text) (w : World) : String → Option RedisEntry :=
  match blacklistTtl env accessToken w.now with
  | none => w.redis
  | some ttl =>
    Function.update w.redis
      (RedisTokenBlacklistService.getBlacklistKey env (claimedJti accessToken))
      (some ⟨"1", w.now + ttl.num.toNat * 1000⟩)

/-- Blacklisting writes the entry if Redis takes its lifetime. -/
theorem run_blacklist_accepted {accessToken : Text} {w : World}
    (h : BlacklistAccepted env accessToken w.now) :
    (blacklistAccessToken env accessToken).run (exec env) w =
      (.ok (), { w with redis := blacklistAfter env accessToken w }) := by
  rw [run_blacklistAccessToken]
  unfold blacklistAfter
  unfold BlacklistAccepted at h
  cases httl : blacklistTtl env accessToken w.now with
  | none => rfl
  | some ttl =>
    rw [httl] at h
    have hvalid : validTtl w.now ttl = true := h ttl rfl
    simp only [exec, RedisOp.exec, hvalid, if_true]

/-- Redis answers a lifetime that it does not take with an error. -/
theorem run_blacklist_refused {accessToken : Text} {w : World}
    (h : ¬ BlacklistAccepted env accessToken w.now) :
    (blacklistAccessToken env accessToken).run (exec env) w =
      (.error (.replyError "ERR invalid expire time in 'set' command"), w) := by
  rw [run_blacklistAccessToken]
  unfold BlacklistAccepted at h
  cases httl : blacklistTtl env accessToken w.now with
  | none =>
    rw [httl] at h
    exact absurd (fun _ hnone ↦ by cases hnone) h
  | some ttl =>
    rw [httl] at h
    have hvalid : ¬ validTtl w.now ttl = true := fun hv ↦ h fun ttl' h' ↦ by
      rw [← Option.mem_some_iff.mp h']
      exact hv
    simp only [exec, RedisOp.exec, hvalid]
    rfl

/-- Blacklisting leaves everything but Redis alone, and returns when Redis takes the lifetime. -/
theorem run_blacklist (env : Env) (accessToken : Text) (w : World) :
    ∃ redis, (BlacklistAccepted env accessToken w.now ∧
        (blacklistAccessToken env accessToken).run (exec env) w =
          (.ok (), { w with redis := redis })) ∨
      (¬ BlacklistAccepted env accessToken w.now ∧
        ∃ e, (blacklistAccessToken env accessToken).run (exec env) w =
          (.error e, { w with redis := redis })) := by
  by_cases haccepted : BlacklistAccepted env accessToken w.now
  · exact ⟨_, .inl ⟨haccepted, run_blacklist_accepted haccepted⟩⟩
  · exact ⟨w.redis, .inr ⟨haccepted, _, run_blacklist_refused haccepted⟩⟩

/-- The stored session with the id `id`. -/
def named (w : World) (id : String) : Option DeviceSessionRow :=
  w.deviceSessions.find fun r ↦ decide (r.id = id)

/-- A logout that looks a session up goes on with the session of that id. -/
theorem run_named {r : LogoutRequest} {w : World} {id : String}
    (hacc : BlacklistAccepted env r.accessToken w.now) (htruthy : (sessionId r).truthy = true)
    (hid : uuidArgument env (sessionId r) = .ok id) (ip ua : String) :
    (execute env r ip ua).run (exec env) w =
      (match named w id with
        | none => pure ()
        | some d => endSession env r ip ua (toDomainDeviceSession d)).run (exec env)
          { w with redis := blacklistAfter env r.accessToken w } := by
  unfold execute
  rw [run_bind_ok env w (run_blacklist_accepted hacc), if_pos htruthy, run_bind, run_findById, hid]
  dsimp only [named]
  cases w.deviceSessions.find fun d ↦ decide (d.id = id) <;> rfl

/-- Ending a revoked session does nothing. -/
theorem run_endSession_revoked {d : DeviceSessionRow} (hd : d.isRevoked = true)
    (r : LogoutRequest) (ip ua : String) (w : World) :
    (endSession env r ip ua (toDomainDeviceSession d)).run (exec env) w = (.ok (), w) := by
  unfold endSession
  rw [if_pos (by simpa using hd)]
  rfl

/-- Ending a session with another token throws. -/
theorem run_endSession_other {d : DeviceSessionRow} {r : LogoutRequest} (hd : d.isRevoked = false)
    (hhash : d.refreshToken ≠ env.sha256 r.refreshToken) (ip ua : String) (w : World) :
    (endSession env r ip ua (toDomainDeviceSession d)).run (exec env) w =
      (.error (.domainError "Invalid refresh token for session"), w) := by
  unfold endSession
  rw [if_neg (by simp [hd])]
  dsimp only
  rw [if_neg (by exact hhash)]
  rfl

/-- Saving a stored session as revoked sets its flag. -/
theorem run_saveRevoked {d : DeviceSessionRow} {w : World} {session : DeviceSession}
    (hmem : d ∈ w.deviceSessions) (hid : d.id = session.id) (hrev : session.isRevoked = true) :
    (PrismaDeviceSessionRepository.save session).run (exec env) w =
      (.ok (), { w with deviceSessions := w.deviceSessions.revoke d.id }) := by
  have hsave := SessionOp.exec_upsert_known env w.users w.now hmem
    (show d.id = (toPrismaDeviceSession session).id from hid)
  change exec env w (.session (.upsert (toPrismaDeviceSession session))) = _
  simp only [exec, hsave]
  rw [hid]
  simp only [toPrismaDeviceSession, hrev]
  rfl

/-- Ending the session of the presented token sets its flag. -/
theorem run_endSession_presented {d : DeviceSessionRow} {r : LogoutRequest} {w : World}
    (hmem : d ∈ w.deviceSessions) (hd : d.isRevoked = false)
    (hhash : d.refreshToken = env.sha256 r.refreshToken) (ip ua : String) :
    ((endSession env r ip ua (toDomainDeviceSession d)).run (exec env) w).2.deviceSessions =
      w.deviceSessions.revoke d.id := by
  unfold endSession
  rw [if_neg (by simp [hd])]
  rw [if_pos (show (toDomainDeviceSession d).refreshToken =
    SecureRandomGenerator.hashString env r.refreshToken from hhash)]
  rw [DeviceSessionRow.revoke_toDomain hd, done_ok_bind,
    run_bind_ok env w (run_saveRevoked hmem rfl rfl)]
  refine (dispatch_uses _).run_keeps
    (J := fun w' : World ↦ w'.deviceSessions = w.deviceSessions.revoke d.id)
    (fun w' op hop hw' ↦ ?_) _ rfl
  refine (exec_deviceSessions env w' fun row hrow ↦ ?_).trans hw'
  rw [hrow] at hop
  exact hop.besideSessions (by simp)

/-- How a logout ends, with its result and the state that it leaves. -/
inductive Outcome (env : Env) (r : LogoutRequest) (w : World) : Except JsError Unit → World → Prop
  /-- Redis refuses the lifetime. -/
  | unlisted (hrefused : ¬ BlacklistAccepted env r.accessToken w.now) :
    Outcome env r w (.error (.replyError "ERR invalid expire time in 'set' command")) w
  /-- The tokens name no session. -/
  | unnamed (haccepted : BlacklistAccepted env r.accessToken w.now)
      (hfalsy : (sessionId r).truthy = false) :
    Outcome env r w (.error (.domainError "Invalid tokens provided for logout"))
      { w with redis := blacklistAfter env r.accessToken w }
  /-- What they name is no UUID. -/
  | malformed {e : JsError} (haccepted : BlacklistAccepted env r.accessToken w.now)
      (htruthy : (sessionId r).truthy = true) (huuid : uuidArgument env (sessionId r) = .error e) :
    Outcome env r w (.error e) { w with redis := blacklistAfter env r.accessToken w }
  /-- The session is not there, or is revoked. -/
  | lapsed {id : String} (haccepted : BlacklistAccepted env r.accessToken w.now)
      (htruthy : (sessionId r).truthy = true) (huuid : uuidArgument env (sessionId r) = .ok id)
      (hlapsed : ∀ d ∈ w.deviceSessions, d.id = id → d.isRevoked = true) :
    Outcome env r w (.ok ()) { w with redis := blacklistAfter env r.accessToken w }
  /-- The session is the one of another refresh token. -/
  | foreign {d : DeviceSessionRow} (haccepted : BlacklistAccepted env r.accessToken w.now)
      (htruthy : (sessionId r).truthy = true) (huuid : uuidArgument env (sessionId r) = .ok d.id)
      (hd : d ∈ w.deviceSessions) (hactive : d.isRevoked = false)
      (hother : d.refreshToken ≠ env.sha256 r.refreshToken) :
    Outcome env r w (.error (.domainError "Invalid refresh token for session"))
      { w with redis := blacklistAfter env r.accessToken w }
  /-- The session is ended, whatever becomes of the event. -/
  | ended {d : DeviceSessionRow} {result : Except JsError Unit} {w' : World}
      (htruthy : (sessionId r).truthy = true) (huuid : uuidArgument env (sessionId r) = .ok d.id)
      (hd : d ∈ w.deviceSessions) (hactive : d.isRevoked = false)
      (hhash : d.refreshToken = env.sha256 r.refreshToken)
      (hresult : ∀ e, result = .error e → e.isDomainError = false)
      (hsessions : w'.deviceSessions = w.deviceSessions.revoke d.id) :
    Outcome env r w result w'

/-- A session with the hash of the presented token is ended. -/
theorem outcome_endSession {r : LogoutRequest} {ip ua : String} {w : World} {d : DeviceSessionRow}
    {redis : String → Option RedisEntry}
    (htruthy : (sessionId r).truthy = true) (huuid : uuidArgument env (sessionId r) = .ok d.id)
    (hd : d ∈ w.deviceSessions) (hactive : d.isRevoked = false)
    (hhash : d.refreshToken = env.sha256 r.refreshToken) :
    Outcome env r w
      ((endSession env r ip ua (toDomainDeviceSession d)).run (exec env)
        { w with redis := redis }).1
      ((endSession env r ip ua (toDomainDeviceSession d)).run (exec env)
        { w with redis := redis }).2 := by
  refine .ended htruthy huuid hd hactive hhash (fun e he ↦ ?_) (run_endSession_presented
    (w := { w with redis := redis }) hd hactive hhash ip ua)
  unfold endSession at he
  rw [if_neg (by simp [hactive])] at he
  rw [if_pos (show (toDomainDeviceSession d).refreshToken =
    SecureRandomGenerator.hashString env r.refreshToken from hhash)] at he
  rw [DeviceSessionRow.revoke_toDomain hactive, done_ok_bind, run_bind_ok env _
    (run_saveRevoked (w := { w with redis := redis }) hd rfl rfl)] at he
  exact run_dispatch_error he

/-- Every logout ends in one of these ways. -/
theorem outcome (env : Env) (r : LogoutRequest) (ip ua : String) (w : World) :
    Outcome env r w ((execute env r ip ua).run (exec env) w).1
      ((execute env r ip ua).run (exec env) w).2 := by
  by_cases haccepted : BlacklistAccepted env r.accessToken w.now
  swap
  · unfold execute
    rw [run_bind_error env w (run_blacklist_refused haccepted)]
    exact .unlisted haccepted
  by_cases htruthy : (sessionId r).truthy = true
  swap
  · unfold execute
    rw [run_bind_ok env w (run_blacklist_accepted haccepted), if_neg htruthy]
    exact .unnamed haccepted (by simpa using htruthy)
  cases huuid : uuidArgument env (sessionId r) with
  | error e =>
    unfold execute
    rw [run_bind_ok env w (run_blacklist_accepted haccepted), if_pos htruthy, run_bind,
      run_findById, huuid]
    exact .malformed haccepted htruthy huuid
  | ok id =>
    rw [run_named haccepted htruthy huuid]
    cases hfind : named w id with
    | none =>
      refine .lapsed haccepted htruthy huuid fun d hd hid ↦ ?_
      have hmiss := Table.find_none.mp hfind d hd
      simp [hid] at hmiss
    | some d =>
      obtain ⟨hd, hid⟩ := Table.find_some hfind
      have hid : d.id = id := of_decide_eq_true hid
      rw [← hid] at huuid
      dsimp only
      by_cases hrevoked : d.isRevoked = true
      · rw [run_endSession_revoked hrevoked]
        refine .lapsed haccepted htruthy huuid fun d' hd' hid' ↦ ?_
        rw [DeviceSessionTable.eq_of_id hd' hd hid']
        exact hrevoked
      have hactive : d.isRevoked = false := Bool.eq_false_iff.mpr hrevoked
      by_cases hhash : d.refreshToken = env.sha256 r.refreshToken
      · exact outcome_endSession htruthy huuid hd hactive hhash
      · rw [run_endSession_other hactive hhash]
        exact .foreign haccepted htruthy huuid hd hactive hhash

/-- The logout overlooks the session that is presented: it gets as far as looking a session up,
and the session it looks up is not there or revoked already, while the session with the hash
of the refresh token is not revoked. -/
def Overlooks (env : Env) (r : LogoutRequest) (w : World) : Prop :=
  BlacklistAccepted env r.accessToken w.now ∧ (sessionId r).truthy = true ∧
    (∃ id, uuidArgument env (sessionId r) = .ok id ∧
      ∀ d ∈ w.deviceSessions, d.id = id → d.isRevoked = true) ∧
    ∃ s ∈ w.deviceSessions, s.refreshToken = env.sha256 r.refreshToken ∧ s.isRevoked = false

/-- A logout that overlooks the presented session returns and leaves the sessions alone. -/
theorem run_overlooks {r : LogoutRequest} {w : World} (h : Overlooks env r w) (ip ua : String) :
    ((execute env r ip ua).run (exec env) w).1 = .ok () ∧
      ((execute env r ip ua).run (exec env) w).2.deviceSessions = w.deviceSessions := by
  obtain ⟨hacc, htruthy, ⟨id, hid, hnamed⟩, -⟩ := h
  have houtcome := outcome env r ip ua w
  generalize (execute env r ip ua).run (exec env) w = ending at houtcome ⊢
  obtain ⟨result, w'⟩ := ending
  dsimp only at houtcome ⊢
  have hrevoked : ∀ d ∈ w.deviceSessions, uuidArgument env (sessionId r) = .ok d.id →
      d.isRevoked ≠ false := by
    intro d hd hd' hactive
    rw [hid] at hd'
    cases hd'
    rw [hnamed d hd rfl] at hactive
    cases hactive
  cases houtcome with
  | unlisted hrefused => exact absurd hacc hrefused
  | unnamed _ hfalsy =>
    rw [htruthy] at hfalsy
    cases hfalsy
  | malformed _ _ huuid =>
    rw [hid] at huuid
    cases huuid
  | lapsed => exact ⟨rfl, rfl⟩
  | foreign _ _ huuid hd hactive => exact absurd hactive (hrevoked _ hd huuid)
  | ended _ huuid hd hactive => exact absurd hactive (hrevoked _ hd huuid)

/-- A logout that returns without overlooking the presented session has revoked it. -/
theorem run_revokes {r : LogoutRequest} {w : World} {ip ua : String} (h : ¬ Overlooks env r w)
    (hok : ((execute env r ip ua).run (exec env) w).1 = .ok ()) :
    ∀ s ∈ ((execute env r ip ua).run (exec env) w).2.deviceSessions,
      s.refreshToken = env.sha256 r.refreshToken → s.isRevoked = true := by
  have houtcome := outcome env r ip ua w
  generalize (execute env r ip ua).run (exec env) w = ending at houtcome hok ⊢
  obtain ⟨result, w'⟩ := ending
  dsimp only at houtcome hok ⊢
  subst hok
  cases houtcome with
  | lapsed hacc htruthy hid hlapsed =>
    intro s hs hhash
    by_contra hact
    exact h ⟨hacc, htruthy, ⟨_, hid, hlapsed⟩, s, hs, hhash, by simpa using hact⟩
  | @ended d _ _ htruthy hid hd hactive hhash hresult hsessions =>
    rw [hsessions]
    intro s hs hsh
    obtain ⟨s₀, hs₀, rfl⟩ := DeviceSessionTable.mem_revoke.mp hs
    rw [(DeviceSessionRow.write_keys _ _ _).2] at hsh
    have he : s₀ = d := DeviceSessionTable.eq_of_refreshToken hs₀ hd (hsh.trans hhash.symm)
    rw [he]
    simp [DeviceSessionRow.write]

end LogoutService

/-! ### Runs of the server -/

/-- The session with the hash of the token, if there is one, is revoked, and from then on every
refresh with that token is rejected. -/
def SessionEnded (env : Env) (token : Text) (p : Server ι) : Prop :=
  ∀ s ∈ p.world.deviceSessions, s.refreshToken = env.sha256 token →
    s.isRevoked = true ∧
      ∀ q, Server.Reaches env anyTurn p q → ∀ ip ua, ∃ e,
        ((RefreshTokenService.execute env PrismaUserRepository token ip ua).run
          (exec env) q.world).1 = .error e

/-- Logout, in every state of every run: a logout that returns ends the presented session for
good, exactly unless it overlooks it. -/
theorem logout_ends_session_iff (env : Env) (w : World) (hw : FreshUuids env w)
    (reqs : ι → Request) (q : Server ι)
    (h : Server.Reaches env anyTurn (.start env PrismaUserRepository reqs w) q) (i : ι)
    (r : LogoutRequest) (ip ua : String) (hi : reqs i = .logout r ip ua) (hn : q.NotStarted i) :
    (let p := Pool.finish (exec env) i (q.rest i) q
     p.Returned i .done → SessionEnded env r.refreshToken p) ↔
      ¬ LogoutService.Overlooks env r q.world := by
  have hu := PrismaUserRepository.proper
  have hrest : q.rest i = (LogoutService.execute env r ip ua >>= fun _ ↦ pure .done) := by
    rw [Pool.Reaches.rest_of_notStarted h hn, hi]
    rfl
  have hworld : (Pool.finish (exec env) i (q.rest i) q).world =
      ((LogoutService.execute env r ip ua).run (exec env) q.world).2 := by
    rw [Pool.world_finish, hrest, run_bind]
    rcases (LogoutService.execute env r ip ua).run (exec env) q.world with ⟨e | a, w'⟩ <;> rfl
  have hret : (Pool.finish (exec env) i (q.rest i) q).Returned i .done ↔
      ((LogoutService.execute env r ip ua).run (exec env) q.world).1 = .ok () := by
    unfold Pool.Returned
    rw [Pool.rest_finish _ _ _ _ rfl, hrest, run_bind]
    rcases (LogoutService.execute env r ip ua).run (exec env) q.world with ⟨e | a, w'⟩
    · simp
    · simp
  constructor
  · intro hends hover
    obtain ⟨hok, hsame⟩ := LogoutService.run_overlooks hover ip ua
    obtain ⟨-, -, -, s, hs, hhash, hact⟩ := hover
    have hs' : s ∈ (Pool.finish (exec env) i (q.rest i) q).world.deviceSessions := by
      rw [hworld, hsame]
      exact hs
    rw [(hends (hret.mpr hok) s hs' hhash).1] at hact
    cases hact
  · intro hover p hp s hs hhash
    have hrev : s.isRevoked = true := by
      refine LogoutService.run_revokes hover (hret.mp hp) s ?_ hhash
      rw [← hworld]
      exact hs
    constructor
    · exact hrev
    · intro q' hq' ip' ua'
      have hpq : Server.Reaches env anyTurn (.start env PrismaUserRepository reqs w) p :=
        Pool.Reaches.trans h (Pool.reaches_finish i _ rfl fun _ ↦ trivial)
      have hmem := (Server.Reaches.advances hu hw hpq hq').mem_of_revoked hs hrev
      obtain ⟨e, he⟩ :=
        RefreshTokenService.run_revoked hmem hhash hrev PrismaUserRepository ip' ua'
      exact ⟨e, by rw [he]⟩

/-- The tokens that `alice` gets when she refreshes after her login. -/
def Sample.rotated : LoginResponse :=
  ((RefreshTokenService.execute Sample.env PrismaUserRepository tokens.refreshToken "10.0.0.1"
    "browser").run (exec Sample.env) loggedIn).1.toOption.getD ⟨.plain "", .plain ""⟩

/-- The logout that presents `accessToken` and the refresh token that `alice` holds after her
refresh. -/
def Sample.logoutWith (accessToken : Text) : LogoutRequest := ⟨accessToken, rotated.refreshToken⟩

/-- The requests of `alice`: a refresh, and a logout with the given access token. -/
def Sample.refreshAndLogout (accessToken : Text) : Bool → Request
  | false => .refresh tokens.refreshToken "10.0.0.1" "browser"
  | true => .logout (logoutWith accessToken) "10.0.0.1" "browser"

/-- The server in which `alice` has refreshed and not yet logged out. -/
def Sample.beforeLogout (accessToken : Text) : Server Bool :=
  (Server.start Sample.env PrismaUserRepository (refreshAndLogout accessToken) loggedIn).play
    (exec Sample.env) World.pass (List.replicate 12 (.act false))

/-- The case of a logout with the tokens of the refresh. -/
theorem logout_ends_session_iff_rotated :
    (let q := Sample.beforeLogout Sample.rotated.accessToken
     let p := Pool.finish (exec Sample.env) true (q.rest true) q
     p.Returned true .done → SessionEnded Sample.env Sample.rotated.refreshToken p) ↔
      ¬ LogoutService.Overlooks Sample.env (Sample.logoutWith Sample.rotated.accessToken)
        (Sample.beforeLogout Sample.rotated.accessToken).world :=
  logout_ends_session_iff Sample.env Sample.loggedIn Sample.freshUuids_loggedIn
    (Sample.refreshAndLogout Sample.rotated.accessToken) _ (Pool.reaches_play_any _ _) true
    (Sample.logoutWith Sample.rotated.accessToken) "10.0.0.1" "browser" rfl (by decide +kernel)

/-- A logout with the access token of the login and the refresh token of the refresh returns
and leaves the session of the refresh token as it was. -/
theorem logout_leaves_session :
    ¬ ∀ q, Server.Reaches Sample.env anyTurn
        (.start Sample.env PrismaUserRepository (Sample.refreshAndLogout Sample.tokens.accessToken)
          Sample.loggedIn) q → q.NotStarted true →
      let p := Pool.finish (exec Sample.env) true (q.rest true) q
      p.Returned true .done → SessionEnded Sample.env Sample.rotated.refreshToken p := by
  intro h
  let p := Pool.finish (exec Sample.env) true
    ((Sample.beforeLogout Sample.tokens.accessToken).rest true)
    (Sample.beforeLogout Sample.tokens.accessToken)
  have hret : p.Returned true .done := by decide +kernel
  have hactive : ∃ s ∈ p.world.deviceSessions.rows,
      s.refreshToken = Sample.env.sha256 Sample.rotated.refreshToken ∧ s.isRevoked = false := by
    decide +kernel
  obtain ⟨s, hs, hhash, hact⟩ := hactive
  have hended := h _ (Pool.reaches_play_any _ _) (by decide +kernel) hret
  rw [(hended s hs hhash).1] at hact
  cases hact

end Bankos
