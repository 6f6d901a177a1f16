import Bankos.Base.Pacts
import Bankos.Tokens.Clock

/-!
# Admission

The four guards and the gateway admit a request by the signature, the dates and the claims of
its token alone: neither asks the blacklist. A token is admitted as long as it verifies, before
and after a logout.
-/

namespace Bankos

open Js Jwt Effects Storage Prog

/-- The guard or the gateway has called `next`. -/
def Response.admitted : Response → Bool
  | .verdict (.next _) => true
  | .gateway (.next _ _) => true
  | _ => false

/-- The request presents the token to a guard or to the gateway. -/
def Request.Presents (token : Text) : Request → Prop
  | .guarded guard req => guard.guard.token req = some token
  | .gateway authorization => Gateway.bearerToken authorization = .ok token
  | _ => False

/-- The token passes the checks of the guard or of the gateway at the time `t`. -/
def Request.Admits (env : Env) (token : Text) (t : Nat) : Request → Prop
  | .guarded guard _ => ∃ claims, JwtTokenService.verifyAt env token t = .ok claims ∧
      guard.guard.policy claims = .ok true
  | .gateway _ => ∃ claims, Gateway.verifyAt env token t = .ok claims
  | _ => False

variable {env : Env} {token : Text}

/-! ### A guard and the gateway, alone -/

/-- A guard that calls `next` has read a time at which the token passes. -/
theorem Guard.handle_reads {guard : Guard} {req : HttpRequest} (h : guard.token req = some token) :
    (guard.handle env dispatch req).Obeys clock none fun s result ↦
      ∀ claims, result = .ok (.next claims) → ∃ t, s = some t ∧
        JwtTokenService.verifyAt env token t = .ok claims ∧ guard.policy claims = .ok true := by
  unfold handle
  apply obeys_tryCatch
  rw [h]
  refine ⟨trivial, fun reply ↦ ?_⟩
  cases reply with
  | error e => exact fun claims hclaims ↦ nomatch hclaims
  | ok now =>
    show (done (JwtTokenService.verifyAt env token now) >>= _).Obeys clock (some now) _
    cases hverify : JwtTokenService.verifyAt env token now with
    | error e => exact fun claims hclaims ↦ nomatch hclaims
    | ok payload =>
      show (done (guard.policy payload) >>= _).Obeys clock (some now) _
      cases hpolicy : guard.policy payload with
      | error e => exact fun claims hclaims ↦ nomatch hclaims
      | ok granted =>
        cases granted with
        | true =>
          rintro claims ⟨rfl⟩
          exact ⟨now, rfl, hverify, hpolicy⟩
        | false =>
          rw [done_ok_bind, if_neg Bool.false_ne_true]
          apply obeys_bind
          apply ((dispatch_uses _).obeys (P := clock) (fun _ ↦ True)
            (fun _ _ _ _ ↦ ⟨trivial, fun _ ↦ trivial⟩) trivial).mono
          rintro s (e | u) _
          · exact fun claims hclaims ↦ nomatch hclaims
          · exact fun claims hclaims ↦ nomatch hclaims

/-- A gateway that calls `next` has read a time at which the token passes. -/
theorem Gateway.authMiddleware_reads {authorization : Option (List Text)}
    (h : bearerToken authorization = .ok token) :
    (authMiddleware env authorization).Obeys clock none fun s result ↦
      ∀ userId roles, result = .ok (.next userId roles) → ∃ t claims, s = some t ∧
        verifyAt env token t = .ok claims := by
  unfold authMiddleware
  rw [h]
  constructor
  · trivial
  · intro reply
    cases reply with
    | error e => exact fun _ _ hnext ↦ nomatch hnext
    | ok now =>
      show (done (.ok now) >>= _).Obeys clock (some now) _
      rw [done_ok_bind]
      dsimp only
      cases hverify : verifyAt env token now with
      | ok claims => exact fun _ _ _ ↦ ⟨now, claims, rfl, hverify⟩
      | error e => cases e <;> exact fun _ _ hnext ↦ nomatch hnext

/-- A request that is admitted has read a time at which its token passes. -/
theorem serve_reads (users : IUserRepository) {req : Request} (h : req.Presents token) :
    (serve env users req).Obeys clock none fun s result ↦
      ∀ resp, result = .ok resp → resp.admitted = true →
        ∃ t, s = some t ∧ req.Admits env token t := by
  cases req with
  | guarded guard req =>
    apply obeys_bind
    apply (Guard.handle_reads h).mono
    rintro s (e | v) hv
    · exact fun resp hresp ↦ nomatch hresp
    · rintro resp ⟨rfl⟩ hadmitted
      cases v with
      | next claims =>
        obtain ⟨t, ht, hverify, hpolicy⟩ := hv claims rfl
        exact ⟨t, ht, claims, hverify, hpolicy⟩
      | _ => cases hadmitted
  | gateway authorization =>
    apply obeys_bind
    apply (Gateway.authMiddleware_reads h).mono
    rintro s (e | v) hv
    · exact fun resp hresp ↦ nomatch hresp
    · rintro resp ⟨rfl⟩ hadmitted
      cases v with
      | next userId roles =>
        obtain ⟨t, claims, ht, hverify⟩ := hv userId roles rfl
        exact ⟨t, ht, claims, hverify⟩
      | _ => cases hadmitted
  | _ => exact h.elim

/-- A request whose token passes now is admitted when it runs alone, and changes nothing. -/
theorem run_serve_admits (users : IUserRepository) {req : Request} {w : World}
    (h : req.Presents token) (hadmits : req.Admits env token w.now) :
    ∃ resp, (serve env users req).run (exec env) w = (.ok resp, w) ∧ resp.admitted = true := by
  cases req with
  | guarded guard req =>
    obtain ⟨claims, hverify, hpolicy⟩ := hadmits
    refine ⟨.verdict (.next claims), ?_, rfl⟩
    apply run_bind_ok
    unfold Guard.handle
    rw [show guard.guard.token req = some token from h]
    show (MonadExcept.tryCatch (done (JwtTokenService.verifyAt env token w.now) >>= _) _ :
      Program Verdict).run (exec env) w = _
    rw [hverify, done_ok_bind, hpolicy]
    rfl
  | gateway authorization =>
    obtain ⟨claims, hverify⟩ := hadmits
    refine ⟨.gateway (.next (Gateway.userIdHeader env claims) (Gateway.rolesHeader claims)), ?_,
      rfl⟩
    apply run_bind_ok
    unfold Gateway.authMiddleware
    rw [show Gateway.bearerToken authorization = .ok token from h]
    dsimp only
    rw [run_bind, run_now]
    dsimp only
    rw [hverify]
    rfl
  | _ => exact h.elim

/-! ### The condition on the token -/

/-- The token verifies at the guard or at the gateway at the time `t`. -/
def Request.Verifies (env : Env) (token : Text) (t : Nat) : Request → Prop
  | .guarded _ _ => ∃ claims, JwtTokenService.verifyAt env token t = .ok claims
  | .gateway _ => ∃ claims, Gateway.verifyAt env token t = .ok claims
  | _ => False

/-- The token has an `exp` that has come. -/
def ExpiredBy (token : Text) (now : Nat) : Prop :=
  ∃ claims, JwtTokenService.decode token = some claims ∧ claims.Expired now

/-- The claims of the token meet the requirement of the guard. The gateway has none. -/
def Request.Meets (token : Text) : Request → Prop
  | .guarded guard _ => ∃ claims, JwtTokenService.decode token = some claims ∧
      guard.guard.policy claims = .ok true
  | .gateway _ => True
  | _ => False

/-- A token passes when it verifies and meets the requirement. -/
theorem Request.admits_iff {req : Request} {t : Nat} :
    req.Admits env token t ↔ req.Verifies env token t ∧ req.Meets token := by
  cases req with
  | guarded guard req =>
    constructor
    · rintro ⟨claims, hverify, hpolicy⟩
      exact ⟨⟨claims, hverify⟩, claims, JwtTokenService.decode_of_verifyAt hverify, hpolicy⟩
    · rintro ⟨⟨claims, hverify⟩, claims', hdecode, hpolicy⟩
      have hclaims : JwtTokenService.decode token = some claims :=
        JwtTokenService.decode_of_verifyAt hverify
      rw [hclaims] at hdecode
      cases hdecode
      exact ⟨claims, hverify, hpolicy⟩
  | gateway authorization => exact (and_iff_left trivial).symm
  | _ => exact (and_iff_left_of_imp False.elim).symm

/-- What verifies has been accepted by the library, for one key and one choice of options. -/
theorem Request.Verifies.accepted {req : Request} {t : Nat} (h : req.Verifies env token t) :
    ∃ claims key options, Jwt.verify env.publicKeyOf token key options t = .ok claims ∧
      JwtTokenService.decode token = some claims ∧
      ∀ t', Jwt.verify env.publicKeyOf token key options t' = .ok claims →
        req.Verifies env token t' := by
  cases req with
  | guarded guard req =>
    obtain ⟨claims, hclaims⟩ := h
    obtain ⟨publicKey, hkey, hverify⟩ := JwtTokenService.verify_of_verifyAt hclaims
    refine ⟨claims, _, _, hverify, JwtTokenService.decode_of_verifyAt hclaims,
      fun t' hlater ↦ ⟨claims, ?_⟩⟩
    unfold JwtTokenService.verifyAt
    rw [hkey]
    dsimp only
    rw [hlater]
  | gateway authorization =>
    obtain ⟨claims, hverify⟩ := h
    refine ⟨claims, _, _, hverify, ?_, fun t' hlater ↦ ⟨claims, hlater⟩⟩
    obtain ⟨t, rfl, rfl, -⟩ := Jwt.verify_ok hverify
    rfl
  | _ => exact h.elim

/-- From some time on a token never passes exactly when it never verifies, has expired by then, or
does not meet the requirement. -/
theorem Request.never_admits_iff {req : Request} {now : Nat} :
    (∀ t, now ≤ t → ¬ req.Admits env token t) ↔
      (∀ t, ¬ req.Verifies env token t) ∨ ExpiredBy token now ∨ ¬ req.Meets token := by
  constructor
  · intro hnever
    by_contra hnone
    rw [not_or, not_or, not_not, not_forall] at hnone
    obtain ⟨⟨t, hverifies⟩, hlives, hmeets⟩ := hnone
    rw [not_not] at hverifies
    obtain ⟨claims, key, options, haccepted, hdecode, hlater⟩ := hverifies.accepted
    have hlate := Jwt.verify_max haccepted fun hexpired ↦ hlives ⟨claims, hdecode, hexpired⟩
    exact hnever _ (Nat.le_max_right t now) (admits_iff.mpr ⟨hlater _ hlate, hmeets⟩)
  · intro h t ht hadmits
    obtain ⟨hverifies, hmeets⟩ := admits_iff.mp hadmits
    rcases h with hnever | ⟨claims, hdecode, exp, hexp, hle⟩ | hunmet
    · exact hnever t hverifies
    · obtain ⟨claims', key, options, haccepted, hdecode', -⟩ := hverifies.accepted
      rw [hdecode] at hdecode'
      cases hdecode'
      refine Jwt.not_expired_of_verify haccepted ⟨exp, hexp, Rat.le_trans hle ?_⟩
      exact_mod_cast Nat.div_le_div_right ht
    · exact hunmet hmeets

/-! ### What a logout has written -/

/-- The logout `i` has read the time and, if the numeric `exp` of its access token was ahead, has
put the `jti` under its Redis key up to then. -/
def BlacklistedBy {ι : Type} (env : Env) (i : ι) (accessToken : Text)
    (s : Scene Api JsError ι World) : Prop :=
  ∃ now ≤ s.world.now, ∀ claims exp, JwtTokenService.decode accessToken = some claims →
    claims.exp = .num exp → ((now / 1000 : Nat) : Rat) < exp →
      s.Answered i (.redis (.setEx (RedisTokenBlacklistService.getBlacklistKey env claims.jti) "1"
        (exp - (now / 1000 : Nat)))) ()

/-- Nothing is agreed but that the log grows, and that time does not go back. -/
abbrev onward (env : Env) (ι : Type) : Pact (exec env) ι where
  leads s s' := s.log <+: s'.log ∧ s.world.now ≤ s'.world.now
  refl _ := ⟨List.prefix_rfl, Nat.le_refl _⟩
  trans h h' := ⟨h.1.trans h'.1, Nat.le_trans h.2 h'.2⟩
  allows _ _ _ := True
  keeps {_ s op} _ := ⟨List.prefix_append .., Nat.le_of_eq (exec_now env s.world op).symm⟩
  fails _ _ _ _ := ⟨List.prefix_append .., Nat.le_refl _⟩

section Writes

variable {ι : Type} {i : ι} {s s' : Scene Api JsError ι World}

/-- What a logout has written stays in the log. -/
theorem BlacklistedBy.later (h : BlacklistedBy env i token s) (hs : (onward env ι).leads s s') :
    BlacklistedBy env i token s' := by
  obtain ⟨now, hnow, hset⟩ := h
  exact ⟨now, Nat.le_trans hnow hs.2, fun claims exp hdecode hexp hahead ↦
    hs.1.subset (hset claims exp hdecode hexp hahead)⟩

/-- What a logout has written for the claims that it has decoded. -/
theorem BlacklistedBy.of_decode {payload : Claims} {now : Nat}
    (hdecode : JwtTokenService.decode token = some payload) (hnow : now ≤ s.world.now)
    (h : ∀ exp, payload.exp = .num exp → ((now / 1000 : Nat) : Rat) < exp →
      s.Answered i (.redis (.setEx (RedisTokenBlacklistService.getBlacklistKey env payload.jti)
        "1" (exp - (now / 1000 : Nat)))) ()) : BlacklistedBy env i token s := by
  refine ⟨now, hnow, fun claims exp hclaims ↦ ?_⟩
  rw [hdecode] at hclaims
  cases hclaims
  exact h exp

/-- Reading the seconds of the clock. -/
theorem SystemClock.unix_reads : SystemClock.unix.Keeps (onward env ι) i
    (fun s' unix ↦ ∃ now ≤ s'.world.now, unix = now / 1000) s := by
  apply Keeps.seq (R := fun s' now ↦ now ≤ s'.world.now)
  · apply keeps_perform
    rintro s' -
    refine ⟨trivial, fun now hnow s'' hs'' ↦ ?_⟩
    cases hnow
    exact hs''.2
  · rintro s' now - hnow
    exact keeps_pure fun s'' hs'' ↦ ⟨now, Nat.le_trans hnow hs''.2, rfl⟩

/-- Blacklisting an access token with a `jti`. -/
theorem LogoutService.blacklistAccessToken_writes (hjti : (claimedJti token).truthy = true) :
    (blacklistAccessToken env token).Keeps (onward env ι) i
      (fun s' _ ↦ BlacklistedBy env i token s') s := by
  unfold blacklistAccessToken
  unfold claimedJti at hjti
  cases hdecode : JwtTokenService.decode token with
  | none =>
    rw [hdecode] at hjti
    cases hjti
  | some payload =>
    rw [hdecode] at hjti
    dsimp only at hjti ⊢
    rw [hjti, Bool.true_and]
    split
    · apply SystemClock.unix_reads.seq
      rintro s' _ - ⟨now, hnow, rfl⟩
      cases hnumber : payload.exp.toNumber env.conversions with
      | none =>
        refine keeps_pure fun s'' hs'' ↦ .of_decode hdecode (Nat.le_trans hnow hs''.2) ?_
        intro exp hexp
        rw [hexp] at hnumber
        cases hnumber
      | some number =>
        dsimp only
        have hnum : ∀ exp, payload.exp = .num exp → exp = number := by
          intro exp hexp
          rw [hexp] at hnumber
          exact Option.some.inj hnumber
        split
        · refine keeps_perform fun s'' hs'' ↦ ⟨trivial, fun _ hset s₃ hs₃ ↦
            (BlacklistedBy.of_decode hdecode (Nat.le_trans hnow ?_) ?_).later hs₃⟩
          · exact Nat.le_trans hs''.2 (Nat.le_of_eq (exec_now env s''.world _).symm)
          · rintro exp hexp -
            rw [hnum exp hexp]
            exact Scene.answered_act hset
        · next hover =>
          refine keeps_pure fun s'' hs'' ↦ .of_decode hdecode (Nat.le_trans hnow hs''.2) ?_
          intro exp hexp hahead
          rw [hnum exp hexp] at hahead
          exact absurd ((Rat.lt_iff_sub_pos _ _).mp hahead) hover
    · next hfalsy =>
      -- an `exp` of zero is never ahead
      refine keeps_pure fun s'' hs'' ↦ .of_decode hdecode (Nat.zero_le _) ?_
      intro exp hexp hahead
      rw [hexp] at hfalsy
      have hzero : exp = 0 := by simpa [Value.truthy] using hfalsy
      rw [hzero] at hahead
      exact absurd hahead (by decide)

/-- A logout that has returned has written what its access token asks for. -/
theorem serve_writes {users : IUserRepository} (hu : users.Proper) (req : Request) :
    (serve env users req).Keeps (onward env ι) i (fun s' _ ↦ ∀ r ip ua,
      req = .logout r ip ua → (LogoutService.claimedJti r.accessToken).truthy = true →
        BlacklistedBy env i r.accessToken s') s := by
  by_cases hlogout : ∃ r ip ua, req = .logout r ip ua ∧
      (LogoutService.claimedJti r.accessToken).truthy = true
  · obtain ⟨r, ip, ua, rfl, hjti⟩ := hlogout
    have hexecute : (LogoutService.execute env r ip ua).Keeps (onward env ι) i
        (fun s' _ ↦ BlacklistedBy env i r.accessToken s') s := by
      apply (LogoutService.blacklistAccessToken_writes hjti).seq
      intro s' _ _ hset
      apply Keeps.mono ((LogoutService.afterBlacklist_uses env r ip ua).keeps
        fun _ _ _ _ ↦ trivial)
      intro s'' _ hs'' _
      exact hset.later hs''
    apply hexecute.seq
    rintro s' _ - hset
    apply keeps_pure
    rintro s'' hs'' _ _ _ ⟨⟩ -
    exact hset.later hs''
  · apply Keeps.mono ((serve_uses hu env req).keeps fun _ _ _ _ ↦ trivial)
    intro s' _ _ _ r ip ua hreq hjti
    exact absurd ⟨r, ip, ua, hreq, hjti⟩ hlogout

end Writes

/-! ### Among other requests -/

variable {ι : Type} [DecidableEq ι] {users : IUserRepository} {reqs : ι → Request} {w : World}
  {q q' : Server ι} {j : ι}

/-- A request that is admitted later presents a token that passes at some time from now on. -/
theorem admits_of_admitted (hq : Server.Reaches env anyTurn (Server.start env users reqs w) q)
    (hq' : Server.Reaches env anyTurn q q') (hj : q.NotStarted j)
    (hpresents : (reqs j).Presents token) {resp : Response} (hresp : q'.Returned j resp)
    (hadmitted : resp.admitted = true) :
    ∃ t, q.world.now ≤ t ∧ (reqs j).Admits env token t := by
  obtain ⟨t, ht, hadmits⟩ :=
    (hq.trans hq').post_of_done (serve_reads users hpresents) hresp resp rfl hadmitted
  exact ⟨t, Server.le_reading hq' hj ht, hadmits⟩

/-- A token that passes at some time from now on gets its request admitted in some run, in which
nothing changes but the time. -/
theorem admitted_of_admits (hq : Server.Reaches env anyTurn (Server.start env users reqs w) q)
    (hj : q.NotStarted j) (hpresents : (reqs j).Presents token) {t : Nat}
    (ht : q.world.now ≤ t) (hadmits : (reqs j).Admits env token t) :
    ∃ q' resp, Server.Reaches env anyTurn q q' ∧ q'.Returned j resp ∧ resp.admitted = true ∧
      q'.world = { q.world with now := t } := by
  have hrest : q.rest j = serve env users (reqs j) := hq.rest_of_notStarted hj
  let later : Server ι := Pool.step (exec env) World.pass q (.pass (t - q.world.now))
  have hworld : later.world = { q.world with now := t } := by
    show World.pass (t - q.world.now) q.world = _
    unfold World.pass
    rw [Nat.add_sub_cancel' ht]
  obtain ⟨resp, hrun, hadmitted⟩ := run_serve_admits users (w := later.world) hpresents
    (by rw [hworld]; exact hadmits)
  have hlater : Server.Reaches env anyTurn q later := .step _ .refl trivial
  refine ⟨Pool.finish (exec env) j (serve env users (reqs j)) later, resp, ?_, ?_, hadmitted, ?_⟩
  · exact hlater.trans (Pool.reaches_finish j _ hrest fun _ ↦ trivial)
  · show _ = _
    rw [Pool.rest_finish (exec env) j _ later hrest, hrun]
  · rw [Pool.world_finish, hrun, hworld]

/-- A logout that has returned for an access token with a `jti` has blacklisted it up to its `exp`;
but a later request with this token is never admitted exactly when the token verifies at no time,
has expired, or does not meet the requirement of the guard. The blacklist plays no part. -/
theorem logged_out_token_refused_iff (env : Env) (reqs : ι → Request) (w : World) (q : Server ι)
    (i j : ι) (r : LogoutRequest) (ip ua : String) (hreq : reqs i = .logout r ip ua)
    (hjti : (LogoutService.claimedJti r.accessToken).truthy = true)
    (hq : Server.Reaches env anyTurn (Server.start env PrismaUserRepository reqs w) q)
    (hreturned : q.Returned i .done) (hj : q.NotStarted j)
    (hpresents : (reqs j).Presents r.accessToken) :
    BlacklistedBy env i r.accessToken q.scene ∧
      ((∀ q', Server.Reaches env anyTurn q q' → ∀ resp, q'.Returned j resp →
          resp.admitted = false) ↔
        (∀ t, ¬ (reqs j).Verifies env r.accessToken t) ∨ ExpiredBy r.accessToken q.world.now ∨
          ¬ (reqs j).Meets r.accessToken) := by
  constructor
  · have hwrites := hq.keeps_returned (P := onward env ι)
      (fun s ms ↦ ⟨List.prefix_rfl, Nat.le_add_right _ _⟩)
      (fun i ↦ serve_writes PrismaUserRepository.proper (reqs i)) hreturned
    exact hwrites r ip ua hreq hjti
  · rw [← Request.never_admits_iff]
    constructor
    · intro hnever t ht hadmits
      obtain ⟨q', resp, hq', hresp, hadmitted, -⟩ := admitted_of_admits hq hj hpresents ht hadmits
      rw [hnever q' hq' resp hresp] at hadmitted
      cases hadmitted
    · intro hfails q' hq' resp hresp
      by_contra hadmitted
      obtain ⟨t, ht, hadmits⟩ :=
        admits_of_admitted hq hq' hj hpresents hresp ((Bool.not_eq_false _).mp hadmitted)
      exact hfails t ht hadmits

/-! ### A member of staff -/

/-- The world in which `alice` has registered and is a teller. -/
def Sample.employed : World :=
  { registered with
    roles := .single ⟨"role-1", "TELLER", none, false, none⟩
    userRoles := .single ⟨alice.id, "role-1"⟩ }

/-- The login of the teller, alone. -/
def Sample.tellerRun : Except JsError LoginResponse × World :=
  (LoginService.execute Sample.env PrismaUserRepository login).run (exec Sample.env) employed

/-- The tokens of that login. -/
def Sample.tellerTokens : LoginResponse := tellerRun.1.toOption.getD ⟨.plain "", .plain ""⟩

/-- A request for a resource of tellers. -/
def Sample.tellersOnly (token : Text) : Request :=
  .guarded (.role "TELLER") ⟨none, some [.plain "Bearer", token], "/vault"⟩

/-- The teller logs out and asks for the resource. -/
def Sample.logoutThenAsk : Nat → Request := fun i ↦
  if i = 0 then .logout ⟨tellerTokens.accessToken, tellerTokens.refreshToken⟩ "10.0.0.1" "browser"
  else tellersOnly tellerTokens.accessToken

/-- The server of these requests, after the logout. -/
def Sample.afterLogout : Server Nat :=
  (Server.start Sample.env PrismaUserRepository logoutThenAsk tellerRun.2).play (exec Sample.env)
    World.pass (List.replicate 8 (.act 0))

/-- The access token of the teller after the logout. -/
theorem logged_out_token_refused_iff_teller :
    BlacklistedBy Sample.env 0 Sample.tellerTokens.accessToken Sample.afterLogout.scene ∧
      ((∀ q', Server.Reaches Sample.env anyTurn Sample.afterLogout q' →
          ∀ resp, q'.Returned 1 resp → resp.admitted = false) ↔
        (∀ t, ¬ (Sample.tellersOnly Sample.tellerTokens.accessToken).Verifies Sample.env
          Sample.tellerTokens.accessToken t) ∨
          ExpiredBy Sample.tellerTokens.accessToken Sample.afterLogout.world.now ∨
          ¬ (Sample.tellersOnly Sample.tellerTokens.accessToken).Meets
            Sample.tellerTokens.accessToken) :=
  logged_out_token_refused_iff Sample.env Sample.logoutThenAsk Sample.tellerRun.2
    Sample.afterLogout 0 1 _ "10.0.0.1" "browser" rfl (by decide +kernel)
    (Pool.reaches_play_any _ _) (by decide +kernel) (by decide +kernel) rfl

/-- The teller is still admitted after the logout. -/
theorem logged_out_token_admitted :
    Sample.afterLogout.Returned 0 .done ∧ Sample.afterLogout.NotStarted 1 ∧
      ¬ ∀ q', Server.Reaches Sample.env anyTurn Sample.afterLogout q' →
        ∀ resp, q'.Returned 1 resp → resp.admitted = false := by
  refine ⟨by decide +kernel, by decide +kernel, fun h ↦ ?_⟩
  let q' := Sample.afterLogout.play (exec Sample.env) World.pass (List.replicate 3 (.act 1))
  have hresult : ∃ claims, q'.result 1 = some (.ok (.verdict (.next claims))) := by
    refine ⟨(JwtTokenService.decode Sample.tellerTokens.accessToken).getD {}, ?_⟩
    decide +kernel
  obtain ⟨claims, hclaims⟩ := hresult
  have hrefused := h q' (Pool.reaches_play_any _ _) _ (Pool.result_eq_ok.mp hclaims)
  cases hrefused

end Bankos
