import Bankos.Sessions.Issue
import Mathlib.Data.Set.Insert

/-!
# The history of a sequential run

Seen from outside, a refresh token is issued once and spent once. The book of a history holds the
tokens that were issued and those that were spent, and the sessions that are stored follow the book:
a session for every issued token, revoked when it is spent. So a refresh accepts a token when the
book says that it is issued and not spent, it has not ended and its user may log in.
-/

namespace Bankos

open Js Jwt Effects Storage Prog DatabaseMapper

/-! ### Histories -/

/-- A call of one of the three services that work on sessions. -/
inductive SessionCall where
  | login (r : LoginRequest)
  | refresh (refreshToken : Text) (ipAddress userAgent : String)
  | logout (r : LogoutRequest) (ipAddress userAgent : String)
  deriving DecidableEq, Repr

/-- The request that makes the call. -/
def SessionCall.request : SessionCall → Request
  | login r => .login r
  | refresh refreshToken ipAddress userAgent => .refresh refreshToken ipAddress userAgent
  | logout r ipAddress userAgent => .logout r ipAddress userAgent

/-- The refresh token that the call presents. -/
def SessionCall.presented : SessionCall → Option Text
  | login _ => none
  | refresh refreshToken _ _ => some refreshToken
  | logout r _ _ => some r.refreshToken

/-- The call, alone. -/
def SessionCall.run (c : SessionCall) (env : Env) (users : IUserRepository) (w : World) :
    Except JsError Response × World :=
  (serve env users c.request).run (exec env) w

/-- A call that was served and what it returned or threw. -/
structure Served where
  call : SessionCall
  result : Except JsError Response

/-- The history of calls that were served one after the other, from the world `w₀` to the world `w`.
Time passes between the calls, and nobody presents a token that would be verified and has not been
signed. -/
inductive Sequential (env : Env) (users : IUserRepository) (w₀ : World) :
    World → List Served → Prop where
  | start : Sequential env users w₀ w₀ []
  | call {w : World} {history : List Served} (elapsed : Nat) (c : SessionCall) :
      Sequential env users w₀ w history →
      (∀ token ∈ c.presented, w.Unforged env token) →
      Sequential env users w₀ (c.run env users (w.pass elapsed)).2
        (history ++ [⟨c, (c.run env users (w.pass elapsed)).1⟩])

namespace Served

/-- The call returned the refresh token. -/
def Issues (e : Served) (token : Text) : Prop :=
  ∃ tokens, e.result = .ok (.tokens tokens) ∧ tokens.refreshToken = token

/-- The call was a refresh of the token and succeeded. -/
def Exchanges (e : Served) (token : Text) : Prop :=
  ∃ ip ua a, e.call = .refresh token ip ua ∧ e.result = .ok a

/-- The call was a logout that presented the token and succeeded, and the session id that it
resolved is the token's own. -/
def LogsOut (env : Env) (e : Served) (token : Text) : Prop :=
  ∃ r ip ua a id, e.call = .logout r ip ua ∧ r.refreshToken = token ∧ e.result = .ok a ∧
    uuidArgument env (LogoutService.sessionId r) = .ok id ∧
    LogoutService.claimedSession token = .str id

end Served

/-! ### The book of the tokens -/

/-- The refresh tokens that were issued, and those that were exchanged or given up. -/
@[ext]
structure TokenBook where
  issued : Set Text
  spent : Set Text

namespace TokenBook

/-- One more token is issued. -/
def issue (b : TokenBook) (token : Text) : TokenBook := { b with issued := insert token b.issued }

/-- One more token is spent. -/
def spend (b : TokenBook) (token : Text) : TokenBook := { b with spent := insert token b.spent }

/-- The token was issued and is not spent. -/
def Usable (b : TokenBook) (token : Text) : Prop := token ∈ b.issued ∧ token ∉ b.spent

/-- The book of a history. -/
def ofHistory (env : Env) (history : List Served) : TokenBook where
  issued := { token | ∃ e ∈ history, e.Issues token }
  spent := { token | ∃ e ∈ history, e.Exchanges token ∨ e.LogsOut env token }

end TokenBook

/-- An update of a session that writes the flag leaves the token that it goes with. -/
theorem DeviceSessionRow.issuedWith_write {env : Env} {r : DeviceSessionRow} {id : String}
    {b : Bool} {token : Text} : (r.write id b).IssuedWith env token ↔ r.IssuedWith env token := by
  unfold write
  split
  · constructor
    · intro h
      exact ⟨⟨h.bound.hash, h.bound.claims⟩, h.canonical, h.positive, h.verified⟩
    · intro h
      exact ⟨⟨h.bound.hash, h.bound.claims⟩, h.canonical, h.positive, h.verified⟩
  · exact Iff.rfl

/-- The stored sessions follow the book: each goes with an issued token and is revoked when that is
spent, and every issued token has one. Nobody spends a token before it is signed. -/
structure TokenBook.Follows (env : Env) (w : World) (b : TokenBook) : Prop where
  fresh : w.Fresh env
  canonical : ∀ id, w.HasUser id → env.parseUuid id = some id
  unforged : ∀ token ∈ b.spent, w.Unforged env token
  session : ∀ r ∈ w.deviceSessions, ∃ token ∈ b.issued, r.IssuedWith env token
  token : ∀ token ∈ b.issued, w.MintedAs .refresh token ∧
    ∃ r ∈ w.deviceSessions, r.IssuedWith env token
  revoked : ∀ r ∈ w.deviceSessions, ∀ token, r.IssuedWith env token →
    (r.isRevoked = true ↔ token ∈ b.spent)

namespace TokenBook.Follows

variable {env : Env} {w w' : World} {b : TokenBook} {token : Text} {r s : DeviceSessionRow}

/-- Nothing is stored and nothing was issued. -/
theorem empty (hfresh : w.Fresh env) (hcanonical : ∀ id, w.HasUser id → env.parseUuid id = some id)
    (hempty : w.deviceSessions = .empty) : TokenBook.Follows env w ⟨∅, ∅⟩ where
  fresh := hfresh
  canonical := hcanonical
  unforged _ h := absurd h (Set.notMem_empty _)
  session r hr := by
    rw [hempty] at hr
    exact absurd hr List.not_mem_nil
  token _ h := absurd h (Set.notMem_empty _)
  revoked r hr := by
    rw [hempty] at hr
    exact absurd hr List.not_mem_nil

/-- Time passes. -/
theorem pass (h : Follows env w b) (ms : Nat) : Follows env (w.pass ms) b where
  fresh := ⟨h.fresh.sessions, h.fresh.audits, ⟨h.fresh.minted.jti, h.fresh.minted.use⟩,
    h.fresh.hashes⟩
  canonical := h.canonical
  unforged := h.unforged
  session := h.session
  token := h.token
  revoked := h.revoked

/-- Every session goes with a token. -/
theorem issued (h : Follows env w b) : ∀ r ∈ w.deviceSessions, ∃ token, r.IssuedWith env token := by
  intro r hr
  obtain ⟨token, -, hissued⟩ := h.session r hr
  exact ⟨token, hissued⟩

/-- The token of a session was issued. -/
theorem mem_issued (hinj : Function.Injective env.sha256) (h : Follows env w b)
    (hr : r ∈ w.deviceSessions) (hissued : r.IssuedWith env token) : token ∈ b.issued := by
  obtain ⟨other, hother, hr'⟩ := h.session r hr
  rw [hr'.bound.eq hinj hissued.bound.hash.symm]
  exact hother

/-- Something happens beside the sessions. -/
theorem beside (h : Follows env w b) (hb : w.Beside env w') : Follows env w' b where
  fresh := hb.fresh h.fresh
  canonical id hid := h.canonical id ((hb.users id).mp hid)
  unforged token htoken t claims hverify := by
    obtain ⟨use, huse⟩ := h.unforged token htoken t claims hverify
    exact ⟨use, hb.minted huse⟩
  session := by
    rw [hb.sessions]
    exact h.session
  token token htoken := by
    rw [hb.sessions]
    exact (h.token token htoken).imp_left fun hm ↦ hb.minted hm
  revoked := by
    rw [hb.sessions]
    exact h.revoked

/-- A session is opened for a new token. -/
theorem opens (hinj : Function.Injective env.sha256) (h : Follows env w b)
    (ho : w.Opens env w' r token) : Follows env w' (b.issue token) where
  fresh := ho.fresh
  canonical id hid := h.canonical id ((ho.users id).mp hid)
  unforged token htoken t claims hverify := by
    obtain ⟨use, huse⟩ := h.unforged token htoken t claims hverify
    exact ⟨use, ho.minted huse⟩
  session s hs := by
    rcases (ho.sessions s).mp hs with hs | rfl
    · obtain ⟨issued, hissued, hs⟩ := h.session s hs
      exact ⟨issued, Set.mem_insert_of_mem _ hissued, hs⟩
    · exact ⟨token, Set.mem_insert _ _, ho.issued⟩
  token issued hissued := by
    rcases Set.mem_insert_iff.mp hissued with rfl | hissued
    · exact ⟨ho.known, r, (ho.sessions r).mpr (.inr rfl), ho.issued⟩
    · obtain ⟨hm, s, hs, hsi⟩ := h.token issued hissued
      exact ⟨ho.minted hm, s, (ho.sessions s).mpr (.inl hs), hsi⟩
  revoked s hs other hother := by
    rcases (ho.sessions s).mp hs with hs | rfl
    · exact h.revoked s hs other hother
    · -- the token would have been verified, so nobody presented it before it was signed
      have hunspent : token ∉ b.spent := by
        intro hspent
        obtain ⟨claims, hverify⟩ := ho.issued.verified 0 ho.issued.positive
        obtain ⟨use, huse⟩ := h.unforged token hspent 0 claims hverify
        exact ho.unminted _ huse rfl
      rw [ho.issued.bound.eq hinj hother.bound.hash.symm, ho.active]
      exact iff_of_false Bool.false_ne_true hunspent

/-- A token is spent that no session goes with, or only a revoked one. -/
theorem spend (h : Follows env w b) (hunforged : w.Unforged env token)
    (hrevoked : ∀ r ∈ w.deviceSessions, r.IssuedWith env token → r.isRevoked = true) :
    Follows env w (b.spend token) where
  fresh := h.fresh
  canonical := h.canonical
  unforged other hother := by
    rcases Set.mem_insert_iff.mp hother with rfl | hother
    · exact hunforged
    · exact h.unforged other hother
  session := h.session
  token := h.token
  revoked r hr other hother := by
    constructor
    · intro hrev
      exact Set.mem_insert_of_mem _ ((h.revoked r hr other hother).mp hrev)
    · intro hspent
      rcases Set.mem_insert_iff.mp hspent with rfl | hspent
      · exact hrevoked r hr hother
      · exact (h.revoked r hr other hother).mpr hspent

/-- The session of a token is revoked. -/
theorem revoke (hinj : Function.Injective env.sha256) (h : Follows env w b)
    (hr : r ∈ w.deviceSessions) (hissued : r.IssuedWith env token) :
    Follows env (w.revoking r.id) (b.spend token) where
  fresh := h.fresh.revoking r.id
  canonical := h.canonical
  unforged other hother := by
    rcases Set.mem_insert_iff.mp hother with rfl | hother
    · exact fun t claims hverify ↦ ⟨.refresh, (h.token _ (h.mem_issued hinj hr hissued)).1⟩
    · exact h.unforged other hother
  session s' hs' := by
    obtain ⟨s, hs, rfl⟩ := DeviceSessionTable.mem_revoke.mp hs'
    obtain ⟨other, hother, hsi⟩ := h.session s hs
    exact ⟨other, hother, DeviceSessionRow.issuedWith_write.mpr hsi⟩
  token other hother := by
    obtain ⟨hm, s, hs, hsi⟩ := h.token other hother
    exact ⟨hm, _, DeviceSessionTable.mem_revoke.mpr ⟨s, hs, rfl⟩,
      DeviceSessionRow.issuedWith_write.mpr hsi⟩
  revoked s' hs' other hother := by
    obtain ⟨s, hs, rfl⟩ := DeviceSessionTable.mem_revoke.mp hs'
    rw [DeviceSessionRow.issuedWith_write] at hother
    by_cases hid : s.id = r.id
    · have hsame : s = r := DeviceSessionTable.eq_of_id hs hr hid
      subst hsame
      rw [hissued.bound.eq hinj hother.bound.hash.symm]
      exact iff_of_true (by simp [DeviceSessionRow.write]) (Set.mem_insert _ _)
    · have hne : other ≠ token := by
        rintro rfl
        exact hid (congrArg _ (DeviceSessionTable.eq_of_refreshToken hs hr
          (hother.bound.hash.trans hissued.bound.hash.symm)))
      have hsame : s.write r.id true = s := if_neg hid
      rw [hsame, h.revoked s hs other hother]
      exact (Set.mem_insert_iff.trans (or_iff_right hne)).symm

end TokenBook.Follows

/-! ### One call -/

section Call

variable {env : Env} {users : IUserRepository} {w : World} {history : List Served}

/-- The book after one more call. -/
theorem TokenBook.ofHistory_append {e : Served} {b : TokenBook}
    (hissued : ∀ t, t ∈ b.issued ↔ t ∈ (ofHistory env history).issued ∨ e.Issues t)
    (hspent : ∀ t, t ∈ b.spent ↔
      t ∈ (ofHistory env history).spent ∨ e.Exchanges t ∨ e.LogsOut env t) :
    ofHistory env (history ++ [e]) = b := by
  ext t
  · rw [hissued]
    simp only [ofHistory, Set.mem_ofPred_eq, List.mem_append, List.mem_singleton, or_and_right,
      exists_or, exists_eq_left]
  · rw [hspent]
    simp only [ofHistory, Set.mem_ofPred_eq, List.mem_append, List.mem_singleton, or_and_right,
      exists_or, exists_eq_left]

/-- A call that throws issues nothing and spends nothing. -/
theorem TokenBook.ofHistory_throws (c : SessionCall) (e : JsError) :
    ofHistory env (history ++ [⟨c, .error e⟩]) = ofHistory env history := by
  apply ofHistory_append
  · intro t
    simp [Served.Issues]
  · intro t
    simp [Served.Exchanges, Served.LogsOut]

/-- The token that a logout gives up is the one that it presents. -/
theorem Served.logsOut_logout {r : LogoutRequest} {ip ua id : String} {a : Response} {t : Text}
    (hid : uuidArgument env (LogoutService.sessionId r) = .ok id) :
    (⟨.logout r ip ua, .ok a⟩ : Served).LogsOut env t ↔
      r.refreshToken = t ∧ LogoutService.claimedSession t = .str id := by
  constructor
  · rintro ⟨r', ip', ua', a', id', hcall, ht, -, hid', hclaimed⟩
    cases hcall
    rw [hid, Except.ok.injEq] at hid'
    rw [hid']
    exact ⟨ht, hclaimed⟩
  · rintro ⟨ht, hclaimed⟩
    exact ⟨r, ip, ua, a, id, rfl, ht, rfl, hid, hclaimed⟩

/-- The token of a session claims its id. -/
theorem DeviceSessionRow.IssuedWith.claimedSession {r : DeviceSessionRow} {token : Text}
    (h : r.IssuedWith env token) : LogoutService.claimedSession token = .str r.id := by
  obtain ⟨claims, seconds, hdecode, -, hsession, -⟩ := h.bound.claims
  unfold LogoutService.claimedSession
  rw [hdecode]
  exact hsession

/-- A login that succeeds issues its token. -/
theorem TokenBook.ofHistory_login (r : LoginRequest) (tokens : LoginResponse) :
    ofHistory env (history ++ [⟨.login r, .ok (.tokens tokens)⟩]) =
      (ofHistory env history).issue tokens.refreshToken := by
  apply ofHistory_append
  · intro t
    simp [issue, Served.Issues, or_comm, eq_comm]
  · intro t
    simp [issue, Served.Exchanges, Served.LogsOut]

/-- A refresh that succeeds spends the token that it presents, and issues a new one. -/
theorem TokenBook.ofHistory_refresh (token : Text) (ip ua : String) (tokens : LoginResponse) :
    ofHistory env (history ++ [⟨.refresh token ip ua, .ok (.tokens tokens)⟩]) =
      ((ofHistory env history).spend token).issue tokens.refreshToken := by
  apply ofHistory_append
  · intro t
    simp [issue, TokenBook.spend, Served.Issues, or_comm, eq_comm]
  · intro t
    simp [issue, TokenBook.spend, Served.Exchanges, Served.LogsOut, or_comm, eq_comm]

section Logout

variable {r : LogoutRequest} {ip ua id : String}

/-- A logout that succeeds spends the token that it presents, when it resolves its own session. -/
theorem TokenBook.ofHistory_logout_own
    (hid : uuidArgument env (LogoutService.sessionId r) = .ok id)
    (hown : LogoutService.claimedSession r.refreshToken = .str id) :
    ofHistory env (history ++ [⟨.logout r ip ua, .ok .done⟩]) =
      (ofHistory env history).spend r.refreshToken := by
  apply ofHistory_append
  · intro t
    simp [TokenBook.spend, Served.Issues]
  · intro t
    have hexchanges : ¬ (⟨.logout r ip ua, .ok .done⟩ : Served).Exchanges t := by
      simp [Served.Exchanges]
    rw [Served.logsOut_logout hid, or_iff_right hexchanges]
    constructor
    · intro ht
      rcases Set.mem_insert_iff.mp ht with rfl | ht
      · exact .inr ⟨rfl, hown⟩
      · exact .inl ht
    · rintro (ht | ⟨rfl, -⟩)
      · exact Set.mem_insert_of_mem _ ht
      · exact Set.mem_insert _ _

/-- When it resolves another session it spends nothing. -/
theorem TokenBook.ofHistory_logout_other
    (hid : uuidArgument env (LogoutService.sessionId r) = .ok id)
    (hother : LogoutService.claimedSession r.refreshToken ≠ .str id) :
    ofHistory env (history ++ [⟨.logout r ip ua, .ok .done⟩]) = ofHistory env history := by
  apply ofHistory_append
  · intro t
    simp [Served.Issues]
  · intro t
    have hnone : ¬ ((⟨.logout r ip ua, .ok .done⟩ : Served).Exchanges t ∨
        (⟨.logout r ip ua, .ok .done⟩ : Served).LogsOut env t) := by
      rw [Served.logsOut_logout hid]
      rintro (⟨_, _, _, hcall, -⟩ | ⟨rfl, hclaimed⟩)
      · cases hcall
      · exact hother hclaimed
    exact (or_iff_left hnone).symm

end Logout

namespace TokenBook.Follows

/-- One more login. -/
theorem login (hu : users.Proper) (hinj : Function.Injective env.sha256) (hkeys : env.KeysMatch)
    (hpos : 0 < w.now / 1000 + env.config.refreshExpiration.seconds)
    (h : Follows env w (ofHistory env history)) (r : LoginRequest) :
    Follows env ((SessionCall.login r).run env users w).2
      (ofHistory env (history ++ [⟨.login r, ((SessionCall.login r).run env users w).1⟩])) := by
  rcases LoginService.run_execute hu hinj hkeys h.fresh hpos h.canonical r with
    ⟨e, w', hrun, hbeside⟩ | ⟨tokens, row, w', hrun, hopens⟩
  · have hserve : (SessionCall.login r).run env users w = (.error e, w') :=
      run_bind_error env w hrun
    rw [hserve, ofHistory_throws]
    exact h.beside hbeside
  · have hserve : (SessionCall.login r).run env users w = (.ok (.tokens tokens), w') :=
      run_bind_ok env w hrun
    rw [hserve, ofHistory_login]
    exact h.opens hinj hopens

/-- One more refresh: it spends the token of the session that it redeems, or changes nothing. -/
theorem refresh (hu : users.Proper) (hinj : Function.Injective env.sha256) (hkeys : env.KeysMatch)
    (hpos : 0 < w.now / 1000 + env.config.refreshExpiration.seconds)
    (h : Follows env w (ofHistory env history)) (token : Text) (ip ua : String) :
    Follows env ((SessionCall.refresh token ip ua).run env users w).2
      (ofHistory env (history ++
        [⟨.refresh token ip ua, ((SessionCall.refresh token ip ua).run env users w).1⟩])) := by
  by_cases hredeems : ∃ row, w.Redeems env token row
  · obtain ⟨row, hrow⟩ := hredeems
    obtain ⟨tokens, row', w', hrun, hopens⟩ :=
      RefreshTokenService.run_redeemed hu hinj hkeys h.fresh hpos h.issued hrow ip ua
    have hserve : (SessionCall.refresh token ip ua).run env users w =
        (.ok (.tokens tokens), w') := run_bind_ok env w hrun
    obtain ⟨issued, hrow'⟩ := h.issued row hrow.stored
    rw [← hrow'.bound.eq hinj hrow.hash.symm] at hrow'
    rw [hserve, ofHistory_refresh]
    exact (h.revoke hinj hrow.stored hrow').opens hinj hopens
  · have hnone : ∀ row, ¬ w.Redeems env token row := fun row hrow ↦ hredeems ⟨row, hrow⟩
    obtain ⟨e, hrun⟩ := RefreshTokenService.run_unredeemable hu hinj h.issued hnone ip ua
    have hserve : (SessionCall.refresh token ip ua).run env users w = (.error e, w) :=
      run_bind_error env w hrun
    rw [hserve, ofHistory_throws]
    exact h

/-- One more logout: it revokes the session of the token that it presents, or no session that was
not revoked. -/
theorem logout (hinj : Function.Injective env.sha256) (h : Follows env w (ofHistory env history))
    (r : LogoutRequest) (ip ua : String) (hideal : w.Unforged env r.refreshToken) :
    Follows env ((SessionCall.logout r ip ua).run env users w).2
      (ofHistory env (history ++
        [⟨.logout r ip ua, ((SessionCall.logout r ip ua).run env users w).1⟩])) := by
  have hcanonical : ∀ s ∈ w.deviceSessions, env.parseUuid s.userId = some s.userId := by
    intro s hs
    obtain ⟨issued, hs⟩ := h.issued s hs
    exact hs.canonical
  rcases LogoutService.run_execute h.fresh hcanonical r ip ua with
    ⟨e, w', hrun, hbeside⟩ | ⟨id, w', hid, hrun, hcases⟩
  · have hserve : (SessionCall.logout r ip ua).run env users w = (.error e, w') :=
      run_bind_error env w hrun
    rw [hserve, ofHistory_throws]
    exact h.beside hbeside
  · have hserve : (SessionCall.logout r ip ua).run env users w = (.ok .done, w') :=
      run_bind_ok env w hrun
    rw [hserve]
    rcases hcases with ⟨hbeside, hrevoked⟩ | ⟨hbeside, d, hd, rfl, -, hhash⟩
    · by_cases hown : LogoutService.claimedSession r.refreshToken = .str id
      · rw [ofHistory_logout_own hid hown]
        apply TokenBook.Follows.beside _ hbeside
        apply h.spend hideal
        intro s hs hissued
        apply hrevoked s hs
        rw [hissued.claimedSession, Value.str.injEq] at hown
        exact hown
      · rw [ofHistory_logout_other hid hown]
        exact h.beside hbeside
    · obtain ⟨issued, hd'⟩ := h.issued d hd
      rw [← hd'.bound.eq hinj hhash.symm] at hd'
      rw [ofHistory_logout_own hid hd'.claimedSession]
      exact (h.revoke hinj hd hd').beside hbeside

/-- The stored sessions follow the book of a history with one more call. -/
theorem call (hu : users.Proper) (hinj : Function.Injective env.sha256) (hkeys : env.KeysMatch)
    (hpos : 0 < w.now / 1000 + env.config.refreshExpiration.seconds)
    (h : Follows env w (ofHistory env history))
    (c : SessionCall) (hideal : ∀ token ∈ c.presented, w.Unforged env token) :
    Follows env (c.run env users w).2
      (ofHistory env (history ++ [⟨c, (c.run env users w).1⟩])) := by
  cases c with
  | login r => exact h.login hu hinj hkeys hpos r
  | refresh token ip ua => exact h.refresh hu hinj hkeys hpos token ip ua
  | logout r ip ua => exact h.logout hinj r ip ua (hideal _ rfl)

end TokenBook.Follows

end Call

/-! ### Runs -/

/-- A program that runs alone takes no time. -/
theorem run_keepsNow {α : Type} (env : Env) (p : Program α) (w : World) :
    (p.run (exec env) w).2.now = w.now := by
  induction p generalizing w with
  | done r => rfl
  | call op next ih => exact (ih _ _).trans (exec_now env w op)

section Runs

variable {env : Env} {users : IUserRepository} {w₀ w : World} {history : List Served}

/-- The run: the stored sessions follow the book of the history. -/
theorem Sequential.follows (hu : users.Proper) (hinj : Function.Injective env.sha256)
    (hkeys : env.KeysMatch) (hfresh : w₀.Fresh env)
    (hcanonical : ∀ id, w₀.HasUser id → env.parseUuid id = some id)
    (hempty : w₀.deviceSessions = .empty)
    (hpos : 0 < w₀.now / 1000 + env.config.refreshExpiration.seconds)
    (h : Sequential env users w₀ w history) :
    TokenBook.Follows env w (.ofHistory env history) ∧ w₀.now ≤ w.now := by
  induction h with
  | start =>
    have hbook : TokenBook.ofHistory env [] = ⟨∅, ∅⟩ := by
      ext t <;> simp [TokenBook.ofHistory]
    rw [hbook]
    exact ⟨.empty hfresh hcanonical hempty, Nat.le_refl _⟩
  | @call w history elapsed c _ hideal ih =>
    have hle : w₀.now ≤ (w.pass elapsed).now := Nat.le_trans ih.2 (Nat.le_add_right _ _)
    have hpos' : 0 < (w.pass elapsed).now / 1000 + env.config.refreshExpiration.seconds := by
      have hseconds : w₀.now / 1000 ≤ (w.pass elapsed).now / 1000 := Nat.div_le_div_right hle
      omega
    constructor
    · exact (ih.1.pass elapsed).call hu hinj hkeys hpos' c hideal
    · unfold SessionCall.run
      rw [run_keepsNow]
      exact hle

/-- A token ends after the time `t`. -/
def Unexpired (token : Text) (t : Nat) : Prop :=
  ∃ claims exp, JwtTokenService.decode token = some claims ∧ claims.exp = .num exp ∧
    (t : Rat) < exp * 1000

/-- The user that the token names is stored and not locked. -/
def World.OwnerUnlocked (w : World) (token : Text) : Prop :=
  ∃ u ∈ w.users, claimedUser token = .str u.id ∧ u.isLocked = false

/-- The token of a session ends with it. -/
theorem DeviceSessionRow.IssuedWith.unexpired_iff {r : DeviceSessionRow} {token : Text}
    (h : r.IssuedWith env token) (t : Nat) : Unexpired token t ↔ t < r.expiresAt := by
  obtain ⟨claims, seconds, hdecode, -, -, hexp, hend⟩ := h.bound.claims
  have hcast : (t : Rat) < ((seconds : Nat) : Rat) * 1000 ↔ t < seconds * 1000 := by
    exact_mod_cast Iff.rfl
  rw [hend, ← hcast]
  constructor
  · rintro ⟨claims', exp, hdecode', hexp', hlt⟩
    rw [hdecode, Option.some.injEq] at hdecode'
    rw [← hdecode', hexp, Value.num.injEq] at hexp'
    rw [hexp']
    exact hlt
  · intro hlt
    exact ⟨claims, _, hdecode, hexp, hlt⟩

/-- The user of a session is the one that its token names. -/
theorem DeviceSessionRow.IssuedWith.claimedUser {r : DeviceSessionRow} {token : Text}
    (h : r.IssuedWith env token) : claimedUser token = .str r.userId := by
  obtain ⟨claims, seconds, hdecode, hsub, -⟩ := h.bound.claims
  unfold Bankos.claimedUser
  rw [hdecode]
  exact hsub

/-- There is a session to exchange the token for exactly when the book calls it usable, it has not
ended and its user may log in. -/
theorem TokenBook.Follows.redeems_iff (hinj : Function.Injective env.sha256) {b : TokenBook}
    (h : Follows env w b) (token : Text) :
    (∃ row, w.Redeems env token row) ↔
      b.Usable token ∧ Unexpired token w.now ∧ w.OwnerUnlocked token := by
  constructor
  · rintro ⟨row, hrow⟩
    obtain ⟨issued, hissued, hr⟩ := h.session row hrow.stored
    rw [← hr.bound.eq hinj hrow.hash.symm] at hissued hr
    obtain ⟨u, hu, hid, hlocked⟩ := hrow.owner
    refine ⟨⟨hissued, ?_⟩, (hr.unexpired_iff _).mpr hrow.live, u, hu, ?_, hlocked⟩
    · rw [← h.revoked row hrow.stored token hr, hrow.unrevoked]
      exact Bool.false_ne_true
    · rw [hr.claimedUser, hid]
  · rintro ⟨⟨hissued, hunspent⟩, hlive, u, hu, hclaimed, hlocked⟩
    obtain ⟨-, row, hstored, hr⟩ := h.token token hissued
    have hunrevoked : row.isRevoked = false := by
      rw [← h.revoked row hstored token hr] at hunspent
      exact Bool.eq_false_iff.mpr hunspent
    rw [hr.claimedUser, Value.str.injEq] at hclaimed
    exact ⟨row, hstored, hr.bound.hash, hunrevoked, (hr.unexpired_iff _).mp hlive, u, hu,
      hclaimed.symm, hlocked⟩

end Runs

/-- What a refresh accepts, said by the history of a sequential run: the token was returned by a
login or a refresh, it has not ended, no refresh of it has succeeded, no logout that presented it
and resolved its own session id has succeeded, and its user is there and not locked. -/
theorem refresh_accepts_iff_history (env : Env) (hinj : Function.Injective env.sha256)
    (hkeys : env.KeysMatch) (users : IUserRepository) (hu : users.Proper) (w₀ : World)
    (hfresh : w₀.Fresh env) (hcanonical : ∀ id, w₀.HasUser id → env.parseUuid id = some id)
    (hempty : w₀.deviceSessions = .empty)
    (hpos : 0 < w₀.now / 1000 + env.config.refreshExpiration.seconds) (w : World)
    (history : List Served) (hrun : Sequential env users w₀ w history) (elapsed : Nat)
    (token : Text) (ip ua : String) :
    (∃ tokens, ((RefreshTokenService.execute env users token ip ua).run (exec env)
        (w.pass elapsed)).1 = .ok tokens) ↔
      (∃ e ∈ history, e.Issues token) ∧ Unexpired token (w.now + elapsed) ∧
        (∀ e ∈ history, ¬ e.Exchanges token) ∧ (∀ e ∈ history, ¬ e.LogsOut env token) ∧
        w.OwnerUnlocked token := by
  obtain ⟨hfollows, hle⟩ := hrun.follows hu hinj hkeys hfresh hcanonical hempty hpos
  have hlater := hfollows.pass elapsed
  have hpos' : 0 < (w.pass elapsed).now / 1000 + env.config.refreshExpiration.seconds := by
    have hseconds : w₀.now / 1000 ≤ (w.pass elapsed).now / 1000 :=
      Nat.div_le_div_right (Nat.le_trans hle (Nat.le_add_right _ _))
    omega
  have haccepts : (∃ tokens, ((RefreshTokenService.execute env users token ip ua).run (exec env)
      (w.pass elapsed)).1 = .ok tokens) ↔ ∃ row, (w.pass elapsed).Redeems env token row := by
    constructor
    · rintro ⟨tokens, hok⟩
      by_contra hnone
      obtain ⟨e, he⟩ := RefreshTokenService.run_unredeemable hu hinj hlater.issued
        (fun row hrow ↦ hnone ⟨row, hrow⟩) ip ua
      rw [he] at hok
      cases hok
    · rintro ⟨row, hrow⟩
      obtain ⟨tokens, row', w', hok, -⟩ := RefreshTokenService.run_redeemed hu hinj hkeys
        hlater.fresh hpos' hlater.issued hrow ip ua
      exact ⟨tokens, by rw [hok]⟩
  have hspent : token ∉ (TokenBook.ofHistory env history).spent ↔
      (∀ e ∈ history, ¬ e.Exchanges token) ∧ ∀ e ∈ history, ¬ e.LogsOut env token := by
    simp only [TokenBook.ofHistory, Set.mem_ofPred_eq, not_exists, not_and, not_or]
    exact forall₂_and
  rw [haccepts, hlater.redeems_iff hinj]
  unfold TokenBook.Usable
  rw [hspent]
  constructor
  · rintro ⟨⟨hissues, hexchanged, hloggedOut⟩, hlive, howner⟩
    exact ⟨hissues, hlive, hexchanged, hloggedOut, howner⟩
  · rintro ⟨hissues, hlive, hexchanged, hloggedOut, howner⟩
    exact ⟨⟨hissues, hexchanged, hloggedOut⟩, hlive, howner⟩

namespace Sample

/-- `alice` logs in. -/
def servedLogin : Except JsError Response × World :=
  (SessionCall.login login).run injectiveEnv PrismaUserRepository (registered.pass 0)

/-- The refresh token that a response carries. -/
def refreshTokenOf : Except JsError Response → Text
  | .ok (.tokens tokens) => tokens.refreshToken
  | _ => .plain ""

/-- A second later she exchanges the token. -/
def exchange : SessionCall := .refresh (refreshTokenOf servedLogin.1) "10.0.0.1" "browser"

/-- The exchange. -/
def servedExchange : Except JsError Response × World :=
  exchange.run injectiveEnv PrismaUserRepository (servedLogin.2.pass 1000)

/-- The history of the two calls. -/
def history : List Served :=
  [] ++ [⟨.login login, servedLogin.1⟩] ++ [⟨exchange, servedExchange.1⟩]

/-- The two calls, one after the other, are a sequential history. -/
theorem sequential_history :
    Sequential injectiveEnv PrismaUserRepository registered servedExchange.2 history := by
  apply Sequential.call 1000 exchange
  · apply Sequential.call 0 (.login login) .start
    intro token htoken
    cases htoken
  · intro token htoken t claims _
    cases htoken
    exact ⟨.refresh, by decide +kernel⟩

end Sample

/-- The case of the token that the exchange returned. -/
theorem refresh_accepts_iff_history_exchanged :
    (∃ tokens, ((RefreshTokenService.execute Sample.injectiveEnv PrismaUserRepository
        (Sample.refreshTokenOf Sample.servedExchange.1) "10.0.0.1" "browser").run
          (exec Sample.injectiveEnv) (Sample.servedExchange.2.pass 1000)).1 = .ok tokens) ↔
      (∃ e ∈ Sample.history, e.Issues (Sample.refreshTokenOf Sample.servedExchange.1)) ∧
        Unexpired (Sample.refreshTokenOf Sample.servedExchange.1)
          (Sample.servedExchange.2.now + 1000) ∧
        (∀ e ∈ Sample.history, ¬ e.Exchanges (Sample.refreshTokenOf Sample.servedExchange.1)) ∧
        (∀ e ∈ Sample.history,
          ¬ e.LogsOut Sample.injectiveEnv (Sample.refreshTokenOf Sample.servedExchange.1)) ∧
        Sample.servedExchange.2.OwnerUnlocked (Sample.refreshTokenOf Sample.servedExchange.1) :=
  refresh_accepts_iff_history Sample.injectiveEnv Function.injective_id
    ⟨by decide +kernel, by decide +kernel⟩ PrismaUserRepository PrismaUserRepository.proper
    Sample.registered (.of_empty rfl rfl rfl) (fun _ _ ↦ rfl) rfl (by decide +kernel)
    Sample.servedExchange.2 Sample.history Sample.sequential_history 1000 _ _ _

end Bankos
