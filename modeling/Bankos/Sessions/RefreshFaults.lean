import Bankos.Base.Disturbances
import Bankos.Sessions.Audit

/-!
# A refresh over a failing storage

One call on a repository fails while a refresh token is exchanged. The third of these calls saves
the old session as revoked, and nothing takes that back when a later one fails.
-/

namespace Bankos

open Js Jwt Effects Storage Prog DatabaseMapper

variable {env : Env} {w : World} {token : Text} {ip ua code : String}

/-- Whether the call is one on a repository. -/
def Op.onRepository : Op → Bool
  | .redis _ => false
  | .hasher _ => false
  | .system _ => false
  | .jwtSign _ => false
  | .mail _ => false
  | .counter _ => false
  | _ => true

/-- The calls that write no session. -/
def Op.savesNoSession (op : Op) : Prop := ∀ row, op ≠ .session (.upsert row)

/-- Wherever a failing repository call meets the program, it ends it with the sessions `sessions`
stored. -/
abbrev StruckWith {α : Type} (env : Env) (code : String) (sessions : DeviceSessionTable)
    (p : Program α) (w : World) : Prop :=
  Struck (exec env) Op.onRepository (.prismaError code) (fun v ↦ v.deviceSessions = sessions) p w

/-- Auxiliary calls write no session. -/
theorem uses_reading {α : Type} {p : Program α} (hp : p.Uses Op.auxiliary) :
    p.Uses Op.savesNoSession := by
  apply hp.mono
  rintro op hop row rfl
  exact hop

/-- Calls beside the repositories write no session. -/
theorem uses_savesNoSession {α : Type} {p : Program α}
    (hp : p.Uses fun op ↦ Op.onRepository op = false) : p.Uses Op.savesNoSession := by
  apply hp.mono
  rintro op hop row rfl
  cases hop

/-- A program that only reads sessions leaves them as they are. -/
theorem struckWith_reads {α : Type} {p : Program α} (hp : p.Escapes Op.onRepository)
    (huses : p.Uses Op.savesNoSession) (w : World) :
    StruckWith env code w.deviceSessions p w :=
  hp.struck huses (fun v _ hop hv ↦ (exec_deviceSessions env v hop).trans hv) rfl

/-- A program that only reads sessions, in front of another one. -/
theorem struckWith_bind {α β : Type} {sessions : DeviceSessionTable} {p : Program α}
    {f : α → Program β} (hp : p.Escapes Op.onRepository) (huses : p.Uses Op.savesNoSession)
    (hw : w.deviceSessions = sessions)
    (hf : ∀ a w', p.run (exec env) w = (.ok a, w') → w'.deviceSessions = sessions →
      StruckWith env code sessions (f a) w') : StruckWith env code sessions (p >>= f) w :=
  hp.struck_bind huses (fun v _ hop hv ↦ (exec_deviceSessions env v hop).trans hv) hw hf

/-- Saving a session, which a failure can only prevent. -/
theorem struckWith_save {sessions : DeviceSessionTable} (hw : w.deviceSessions = sessions)
    (session : DeviceSession) :
    StruckWith env code sessions (PrismaDeviceSessionRepository.save session) w :=
  struck_perform (I := Api) (J := fun v : World ↦ v.deviceSessions = sessions) hw _

/-- Verifying a token calls no repository. -/
theorem RefreshTokenService.verified_beside (token : Text) :
    (RefreshTokenService.verified env token).Uses fun op ↦ Op.onRepository op = false :=
  uses_tryCatch (uses_bind (uses_perform rfl) fun _ ↦ uses_done _ _) fun _ ↦ uses_done _ _

namespace RefreshTokenService

variable {d : DeviceSessionRow}

/-! ### The rotation -/

/-- What is left to do once the old session is saved, `RefreshTokenService.ts:73–118`. -/
def replace (env : Env) (userId : Value) (ip ua : String) (session : DeviceSession) (user : User)
    (now : Nat) : Program LoginResponse := do
  let directRoles ← PrismaUserRepository.findRoles user.id
  let effectiveRoles ← AuthorizationEngine.resolveRoles directRoles
  let effectivePermissions ← AuthorizationEngine.resolvePermissions directRoles
  let newSessionId ← SecureRandomGenerator.generateUUID
  let tokens ←
    generateTokens env (tokenPayload effectiveRoles effectivePermissions newSessionId) userId
  let newSession := session.rotate newSessionId
    (SecureRandomGenerator.hashString env tokens.refreshToken) ip ua
    ((decodedEnd env tokens.refreshToken).getD (now + sevenDays)) now
  PrismaDeviceSessionRepository.save newSession
  dispatch (withMetadata newSession.domainEvents ip ua)
  pure tokens

/-- A failure before the new session is saved leaves the sessions without it. -/
theorem struck_replace (ip ua code : String) (userId : Value) (session : DeviceSession)
    (user : User) (now : Nat) :
    StruckWith env code w.deviceSessions (replace env userId ip ua session user now) w := by
  unfold replace
  apply struckWith_bind (straight_lookup _ _).escapes
    (uses_reading (PrismaUserRepository.findRoles_uses _)) rfl
  intro directRoles v₁ _ h₁
  apply struckWith_bind (AuthorizationEngine.resolveRoles_straight _).escapes
    (uses_reading (AuthorizationEngine.resolveRoles_uses _)) h₁
  intro effectiveRoles v₂ _ h₂
  apply struckWith_bind (AuthorizationEngine.resolvePermissions_straight _).escapes
    (uses_reading (AuthorizationEngine.resolvePermissions_uses _)) h₂
  intro effectivePermissions v₃ _ h₃
  apply struckWith_bind (straight_perform _).escapes
    (uses_reading SecureRandomGenerator.generateUUID_uses) h₃
  intro newSessionId v₄ _ h₄
  apply struckWith_bind (generateTokens_straight _ _ _).escapes
    (uses_reading (generateTokens_uses _ _ _)) h₄
  intro tokens v₅ _ h₅
  -- a failure can only prevent the last write
  dsimp only
  apply (struckWith_save h₅ _).bind
  intro _ v₆ _
  exact struck_done _ _ _

/-- The state after the old session is saved. -/
def revoked (w : World) (d : DeviceSessionRow) : World :=
  { w with deviceSessions := w.deviceSessions.revoke d.id }

/-- The rotation saves the old session first. -/
theorem proceeds_rotate (hd : d ∈ w.deviceSessions) (hactive : d.isRevoked = false) (userId : Value)
    (user : User) (now : Nat) :
    Proceeds (exec env) Op.onRepository (.prismaError code)
      (fun v ↦ v.deviceSessions = w.deviceSessions) 1
      (rotate env PrismaUserRepository userId ip ua (toDomainDeviceSession d) user now) w
      (replace env userId ip ua { toDomainDeviceSession d with
        isRevoked := true
        domainEvents := [{ detail := .tokenRevoked d.id d.userId "revoked" }] } user
        now)
      (revoked w d) := by
  unfold rotate
  rw [DeviceSessionRow.revoke_toDomain hactive, done_ok_bind]
  exact (struckWith_save rfl _).proceeds (LogoutService.run_saveRevoked hd rfl rfl) _

/-! ### The whole refresh -/

/-- A part that only reads, and returns. -/
theorem proceeds_reads {α β : Type} {p : Program α} {n : Nat} {a : α}
    (hp : p.Escapes Op.onRepository) (huses : p.Uses Op.savesNoSession)
    (hcalls : affectedCalls (exec env) Op.onRepository p w = n)
    (hrun : p.run (exec env) w = (.ok a, w)) (f : α → Program β) :
    Proceeds (exec env) Op.onRepository (.prismaError code)
      (fun v ↦ v.deviceSessions = w.deviceSessions) n (p >>= f) w (f a) w := by
  rw [← hcalls]
  exact (struckWith_reads hp huses w).proceeds hrun f

/-- A lookup that succeeds. -/
theorem proceeds_lookup {α β : Type} {op : Op} {g : op.Reply → α} {a : α}
    (hop : op.onRepository = true) (hreads : op.savesNoSession)
    (hrun : (request op >>= fun r ↦ pure (g r) : Program α).run (exec env) w = (.ok a, w))
    (f : α → Program β) :
    Proceeds (exec env) Op.onRepository (.prismaError code)
      (fun v ↦ v.deviceSessions = w.deviceSessions) 1
      ((request op >>= fun r ↦ pure (g r)) >>= f) w (f a) w := by
  apply proceeds_reads (straight_lookup op g).escapes
    (uses_bind (uses_perform hreads) fun _ ↦ trivial) _ hrun
  exact affectedCalls_lookup (I := Api) hop g w

/-- A refresh that exchanges a session makes two lookups before the rotation. -/
theorem proceeds_exchanges (ip ua code : String) (h : w.Exchanges env token d) :
    ∃ userId user, Proceeds (exec env) Op.onRepository (.prismaError code)
      (fun v ↦ v.deviceSessions = w.deviceSessions) 2
      (execute env PrismaUserRepository token ip ua) w
      (rotate env PrismaUserRepository userId ip ua (toDomainDeviceSession d) user w.now) w := by
  obtain ⟨claims, hverify, hsession, u, hu, hsub, hunlocked⟩ := h.claims
  refine ⟨claims.sub, toDomainUser u, ?_⟩
  have hverified := run_verified env w token
  rw [hverify] at hverified
  have hfound := run_findByRefreshToken env w (SecureRandomGenerator.hashString env token)
  unfold SecureRandomGenerator.hashString at hfound
  rw [← h.hash, DeviceSessionTable.find_refreshToken h.stored] at hfound
  have huser := run_findUserById env w claims.sub
  rw [hsub] at huser
  dsimp only at huser
  rw [UserTable.find_id hu] at huser
  have hlive : ¬ d.expiresAt < w.now := Nat.not_lt.mpr h.live
  unfold execute SecureRandomGenerator.hashString
  rw [← h.hash]
  apply Proceeds.trans (n := 0) (m := 2) (proceeds_reads (verified_beside token).escapes
    (uses_savesNoSession (verified_beside token)) ((verified_beside token).affectedCalls_eq_zero w)
    hverified _)
  apply Proceeds.trans (n := 1) (m := 1) (proceeds_lookup rfl (by rintro row ⟨⟩) hfound _)
  dsimp only [Option.map]
  unfold present
  rw [if_neg (by simp), if_neg (by simp [h.unrevoked]), if_neg (by simp [hsession])]
  apply Proceeds.trans (n := 0) (m := 1) (proceeds_reads (straight_perform _).escapes
    (uses_reading SystemClock.now_uses) rfl (run_now env w) _)
  rw [if_neg (by exact fun hover ↦ hlive (of_decide_eq_true hover))]
  apply Proceeds.trans (n := 1) (m := 0) (proceeds_lookup rfl (by rintro row ⟨⟩) huser _)
  dsimp only [Option.map]
  rw [if_neg (by simp [hunlocked])]
  exact .refl _ _

/-- Any other refresh leaves the sessions alone when a repository call fails. -/
theorem struck_of_not_exchanges (h : ∀ d, ¬ w.Exchanges env token d) :
    StruckWith env code w.deviceSessions (execute env PrismaUserRepository token ip ua) w := by
  apply execute_of_not_exchanges (motive := fun p ↦ StruckWith env code w.deviceSessions p w) h
  · exact fun r ↦ struck_done _ _ _
  · intro f hf
    have hverified := run_verified env w token
    apply struckWith_bind (verified_beside token).escapes
      (uses_savesNoSession (verified_beside token)) rfl
    intro claims w' hrun _
    rw [hverified] at hrun
    cases hverify : JwtTokenService.verifyAt env token w.now with
    | error e =>
      rw [hverify] at hrun
      cases hrun
    | ok claims' =>
      rw [hverify] at hrun
      cases hrun
      exact hf claims hverify
  · intro hash f hf
    exact (proceeds_lookup rfl (by rintro row ⟨⟩) (run_findByRefreshToken env w hash) f).then_struck
      hf
  · intro f hf
    exact (proceeds_reads (straight_perform _).escapes (uses_reading SystemClock.now_uses) rfl
      (run_now env w) f).then_struck hf
  · intro sub f hf
    have hfound := run_findUserById env w sub
    cases hsub : uuidArgument env sub with
    | error e =>
      have hstraight : (PrismaUserRepository.findById sub).Straight := straight_lookup _ _
      apply struckWith_bind hstraight.escapes
        (uses_bind (uses_perform (by rintro row ⟨⟩)) fun _ ↦ trivial) rfl
      intro user w' hrun _
      rw [hfound, hsub] at hrun
      cases hrun
    | ok id =>
      rw [hsub] at hfound
      exact (proceeds_lookup rfl (by rintro row ⟨⟩) hfound f).then_struck (hf id hsub)

/-! ### All or nothing -/

/-- A refresh whose repository call at position `k` fails with the code `code`. -/
def failingRun (env : Env) (token : Text) (ip ua code : String) (w : World) (k : Nat) :
    Except JsError LoginResponse × World × Option Nat :=
  (execute env PrismaUserRepository token ip ua).run
    (failing (exec env) Op.onRepository (.prismaError code)) (w, some k)

/-- How many repository calls the refresh makes when none fails. -/
def repositoryCalls (env : Env) (token : Text) (ip ua : String) (w : World) : Nat :=
  affectedCalls (exec env) Op.onRepository (execute env PrismaUserRepository token ip ua) w

/-- A refresh whose repository call at position `k` fails, if it throws, leaves the same sessions
unrevoked; the detection of a replay is excepted. -/
def AllOrNothing (env : Env) (token : Text) (ip ua code : String) (w : World) (k : Nat) : Prop :=
  ∀ e s, failingRun env token ip ua code w k = (.error e, s) →
    e ≠ .domainError "Token replay detected" →
      ∀ d, d ∈ s.1.deviceSessions ∧ d.isRevoked = false ↔ d ∈ w.deviceSessions ∧ d.isRevoked = false

/-- A refresh whose repository call at position `k` fails, if it throws, leaves the same sessions
unrevoked, but for the one that it exchanges when the failure comes after the save of that session,
the third repository call. -/
def LosesOnlyExchanged (env : Env) (token : Text) (ip ua code : String) (w : World) (k : Nat) :
    Prop :=
  ∀ e s, failingRun env token ip ua code w k = (.error e, s) →
    e ≠ .domainError "Token replay detected" →
      ∀ d, d ∈ s.1.deviceSessions ∧ d.isRevoked = false ↔
        d ∈ w.deviceSessions ∧ d.isRevoked = false ∧ ¬ (2 < k ∧ w.Exchanges env token d)

/-- The active sessions when one is revoked. -/
theorem active_revoke {t : DeviceSessionTable} (hd : d ∈ t) (s : DeviceSessionRow) :
    s ∈ t.revoke d.id ∧ s.isRevoked = false ↔ s ∈ t ∧ s.isRevoked = false ∧ s ≠ d := by
  constructor
  · rintro ⟨hs, hactive⟩
    obtain ⟨r, hr, hwrite⟩ := DeviceSessionTable.mem_revoke.mp hs
    unfold DeviceSessionRow.write at hwrite
    split at hwrite
    · rw [← hwrite] at hactive
      cases hactive
    · next hother =>
      subst hwrite
      exact ⟨hr, hactive, fun hsame ↦ hother (congrArg DeviceSessionRow.id hsame)⟩
  · rintro ⟨hs, hactive, hne⟩
    refine ⟨DeviceSessionTable.mem_revoke.mpr ⟨s, hs, ?_⟩, hactive⟩
    unfold DeviceSessionRow.write
    rw [if_neg fun hid ↦ hne (DeviceSessionTable.eq_of_id hs hd hid)]

/-- A failure that leaves the sessions as they were, and exchanges none. -/
theorem losesOnlyExchanged_of_same {k : Nat} {w' : World}
    (hrun : failingRun env token ip ua code w k = (.error (.prismaError code), w', none))
    (hsessions : w'.deviceSessions = w.deviceSessions)
    (hnone : ∀ d, ¬ (2 < k ∧ w.Exchanges env token d)) :
    LosesOnlyExchanged env token ip ua code w k := by
  intro e s hs _ d
  rw [hrun] at hs
  cases hs
  rw [hsessions]
  exact and_congr_right fun _ ↦ (and_iff_left (hnone d)).symm

/-- A failure after the session `d` has been revoked. -/
theorem losesOnlyExchanged_of_revoked {k : Nat} {w' : World} (hlate : 2 < k)
    (hd : w.Exchanges env token d)
    (hrun : failingRun env token ip ua code w k = (.error (.prismaError code), w', none))
    (hsessions : w'.deviceSessions = w.deviceSessions.revoke d.id) :
    LosesOnlyExchanged env token ip ua code w k := by
  intro e s hs _ d'
  rw [hrun] at hs
  cases hs
  have hexchanged : d' ≠ d ↔ ¬ (2 < k ∧ w.Exchanges env token d') := by
    refine not_congr ⟨?_, fun h ↦ hd.unique h.2⟩
    rintro rfl
    exact ⟨hlate, hd⟩
  rw [hsessions, active_revoke hd.stored, hexchanged]

end RefreshTokenService

open RefreshTokenService in
/-- A refresh one of whose repository calls fails loses no session but the one that it exchanges,
and that one only after it has been saved as revoked. -/
theorem refresh_failure {k : Nat} (hk : k < repositoryCalls env token ip ua w) :
    LosesOnlyExchanged env token ip ua code w k := by
  by_cases hexchanges : ∃ d, w.Exchanges env token d
  · obtain ⟨d, hd⟩ := hexchanges
    obtain ⟨userId, user, hlookups⟩ := proceeds_exchanges ip ua code hd
    have hsaved := hlookups.trans (proceeds_rotate hd.stored hd.unrevoked userId user w.now)
    rcases Nat.lt_or_ge 2 k with hlate | hearly
    · -- the fault meets what follows the save of the old session
      obtain ⟨j, rfl⟩ := Nat.exists_eq_add_of_le hlate
      unfold repositoryCalls at hk
      rw [hsaved.calls] at hk
      obtain ⟨w', hstruck, hsessions⟩ := struck_replace ip ua code userId
        _ user w.now j (Nat.lt_of_add_lt_add_left hk)
      exact losesOnlyExchanged_of_revoked hlate hd ((hsaved.spared j).trans hstruck) hsessions
    · obtain ⟨w', hrun, hsessions⟩ := hsaved.struck k (Nat.lt_succ_of_le hearly)
      exact losesOnlyExchanged_of_same hrun hsessions fun _ h ↦ absurd h.1 (Nat.not_lt.mpr hearly)
  · obtain ⟨w', hrun, hsessions⟩ :=
      struck_of_not_exchanges (fun d hd ↦ hexchanges ⟨d, hd⟩) k hk
    exact losesOnlyExchanged_of_same hrun hsessions fun d h ↦ hexchanges ⟨d, h.2⟩

/-- The case of the refresh of `alice` after her login, with the lookup of her roles failing. -/
theorem refresh_failure_alice :
    RefreshTokenService.LosesOnlyExchanged Sample.env Sample.tokens.refreshToken "10.0.0.1"
      "browser" "P1001" Sample.loggedIn 3 := refresh_failure (by decide +kernel)

/-- The login of `alice`, as the one request. -/
def Sample.oneLogin : Unit → Request := fun _ ↦ .login login

/-- The server that has answered it. -/
def Sample.signedIn : Server Unit :=
  (Server.start Sample.env PrismaUserRepository oneLogin registered).play (exec Sample.env)
    World.pass (List.replicate 20 (.act ()))

/-- The refresh of `alice`, with the lookup of her roles failing. -/
def Sample.lostRefresh : Except JsError LoginResponse × World × Option Nat :=
  RefreshTokenService.failingRun Sample.env tokens.refreshToken "10.0.0.1" "browser" "P1001"
    signedIn.world 3

/-- A refresh that fails leaves `alice` without a session. -/
theorem refresh_loses_session :
    ¬ ∀ q, Server.Reaches Sample.env anyTurn
        (.start Sample.env PrismaUserRepository Sample.oneLogin Sample.registered) q →
      ∀ (token : Text) (ip ua code : String) (k : Nat),
        k < RefreshTokenService.repositoryCalls Sample.env token ip ua q.world →
          RefreshTokenService.AllOrNothing Sample.env token ip ua code q.world k := by
  intro h
  have hnothing := h Sample.signedIn (Pool.reaches_play_any _ _) Sample.tokens.refreshToken
    "10.0.0.1" "browser" "P1001" 3 (by decide +kernel)
  have hthrows : Sample.lostRefresh.1 = .error (.prismaError "P1001") := by decide +kernel
  have hactive : ∃ d ∈ Sample.signedIn.world.deviceSessions.rows, d.isRevoked = false := by
    decide +kernel
  have hlost : ∀ d ∈ Sample.lostRefresh.2.1.deviceSessions.rows, d.isRevoked = true := by
    decide +kernel
  obtain ⟨d, hd, hdown⟩ := hactive
  obtain ⟨hd', -⟩ := (hnothing _ _ (Prod.ext hthrows rfl) nofun d).mpr ⟨hd, hdown⟩
  rw [hlost d hd'] at hdown
  cases hdown

end Bankos
