import Bankos.Tokens.Admission

/-!
# Access tokens and refresh tokens

Both kinds of tokens are signed with one key, for one issuer and audience, over the same claims,
and one `verify` accepts them. A refresh token is told from an access token by nothing but the
method that made it, of which `World.minted` keeps a record.
-/

namespace Bankos

open Js Jwt Effects Storage Prog

/-- The method `use` of `JwtTokenService` has made the token. -/
def World.MintedAs (w : World) (use : TokenUse) (token : Text) : Prop := ⟨use, token⟩ ∈ w.minted

instance (w : World) (use : TokenUse) (token : Text) : Decidable (w.MintedAs use token) :=
  inferInstanceAs (Decidable (_ ∈ _))

/-! ### The record of signed tokens -/

/-- The tokens in the record carry identifiers that the generator has given out, and no token is
in it as an access token and as a refresh token. -/
structure World.MintedApart (env : Env) (w : World) : Prop where
  jti : ∀ m ∈ w.minted, ∃ n < w.draws, LogoutService.claimedJti m.token = .str (env.uuid n)
  use : ∀ m ∈ w.minted, ∀ m' ∈ w.minted, m.token = m'.token → m.use = m'.use

/-- A world in which nothing has been signed. -/
theorem World.MintedApart.of_nil {env : Env} {w : World} (h : w.minted = []) :
    w.MintedApart env where
  jti m hm := by
    rw [h] at hm
    cases hm
  use m hm := by
    rw [h] at hm
    cases hm

/-- A token that a call returns is what the call asked for, and the record has it. -/
theorem exec_jwtSign_ok {env : Env} {w w' : World} {c : SignCall} {token : Text}
    (h : exec env w (.jwtSign c) = (.ok token, w')) :
    c.exec env w.now w.draws = .ok token ∧
      w' = { w with draws := w.draws + 1, minted := w.minted ++ [⟨c.use, token⟩] } := by
  simp only [exec] at h
  cases hsign : c.exec env w.now w.draws with
  | error e =>
    rw [hsign] at h
    cases h
  | ok token' =>
    rw [hsign] at h
    cases h
    exact ⟨rfl, rfl⟩

/-- Signing is the only call that extends the record. -/
theorem exec_minted (env : Env) (w : World) (op : Op) :
    (exec env w op).2.minted = w.minted ∨
      ∃ c token, op = .jwtSign c ∧ c.exec env w.now w.draws = .ok token ∧
        (exec env w op).2.minted = w.minted ++ [⟨c.use, token⟩] ∧
        (exec env w op).2.draws = w.draws + 1 := by
  cases op with
  | jwtSign c =>
    simp only [exec]
    cases h : c.exec env w.now w.draws with
    | error e => exact .inl rfl
    | ok token => exact .inr ⟨c, token, rfl, h, rfl, rfl⟩
  | _ => exact .inl rfl

/-- No call removes a token from the record. -/
theorem minted_subset (env : Env) (w : World) (op : Op) : w.minted ⊆ (exec env w op).2.minted := by
  rcases exec_minted env w op with hsame | ⟨c, token, -, -, hminted, -⟩
  · rw [hsame]
    exact List.Subset.refl _
  · rw [hminted]
    exact List.subset_append_left _ _

/-- A signed token carries the identifier that was drawn for it. -/
theorem SignCall.claimedJti {env : Env} {c : SignCall} {now draws : Nat} {token : Text}
    (h : c.exec env now draws = .ok token) :
    LogoutService.claimedJti token = .str (env.uuid draws) := by
  unfold LogoutService.claimedJti JwtTokenService.decode
  rw [decode_sign h]

/-- Every call keeps the record apart. -/
theorem World.MintedApart.exec {env : Env} {w : World} (h : w.MintedApart env) (op : Op) :
    (Bankos.exec env w op).2.MintedApart env := by
  rcases exec_minted env w op with hsame | ⟨c, token, rfl, hsign, hminted, hdraws⟩
  · constructor
    · intro m hm
      rw [hsame] at hm
      obtain ⟨n, hn, hjti⟩ := h.jti m hm
      exact ⟨n, Nat.lt_of_lt_of_le hn (exec_draws_le env w op), hjti⟩
    · rw [hsame]
      exact h.use
  · have hnew : LogoutService.claimedJti token = .str (env.uuid w.draws) :=
      SignCall.claimedJti hsign
    -- an older token has an identifier that was drawn before
    have hold : ∀ m ∈ w.minted, m.token ≠ token := by
      intro m hm heq
      obtain ⟨n, hn, hjti⟩ := h.jti m hm
      rw [heq, hnew, Value.str.injEq] at hjti
      rw [env.uuid_injective hjti] at hn
      exact Nat.lt_irrefl n hn
    constructor
    · intro m hm
      rw [hminted, List.mem_append, List.mem_singleton] at hm
      rw [hdraws]
      rcases hm with hm | rfl
      · obtain ⟨n, hn, hjti⟩ := h.jti m hm
        exact ⟨n, Nat.lt_succ_of_lt hn, hjti⟩
      · exact ⟨w.draws, Nat.lt_succ_self _, hnew⟩
    · intro m hm m' hm' heq
      rw [hminted, List.mem_append, List.mem_singleton] at hm hm'
      rcases hm with hm | rfl
      · rcases hm' with hm' | rfl
        · exact h.use m hm m' hm' heq
        · exact absurd heq (hold m hm)
      · rcases hm' with hm' | rfl
        · exact absurd heq.symm (hold m' hm')
        · rfl

variable {ι : Type} [DecidableEq ι] {env : Env} {users : IUserRepository} {reqs : ι → Request}
  {w : World} {ok : Server ι → ServerTurn ι → Prop} {p q : Server ι}

/-- The run: the record stays apart. -/
theorem minted_apart (hq : Server.Reaches env ok p q) (h : p.world.MintedApart env) :
    q.world.MintedApart env :=
  hq.world_invariant h (fun _ op hw ↦ hw.exec op) fun _ _ hw ↦ ⟨hw.jti, hw.use⟩

/-- The run: what is in the record stays there. -/
theorem minted_stays (hq : Server.Reaches env ok p q) {use : TokenUse} {token : Text}
    (h : p.world.MintedAs use token) : q.world.MintedAs use token := by
  apply hq.world_invariant (J := fun w : World ↦ w.MintedAs use token) h
  · intro w op hw
    exact minted_subset env w op hw
  · intro w ms hw
    exact hw

/-! ### The tokens of a login and of a refresh -/

/-- The tokens that a request has been given by its calls of `sign`, latest first. -/
def signedTokens (s : List Minted) : (op : Op) → Except JsError op.Reply → List Minted
  | .jwtSign c, .ok token => ⟨c.use, token⟩ :: s
  | _, _ => s

/-- What requests are given to sign, with no restriction of their calls. -/
abbrev signing : Protocol Api JsError where
  Phase := List Minted
  allows _ _ := True
  next := signedTokens

/-- A reply leaves the tokens signed before. -/
theorem subset_signedTokens (s : List Minted) (op : Op) (r : Except JsError op.Reply) :
    s ⊆ signedTokens s op r := by
  cases op with
  | jwtSign c =>
    cases r with
    | ok token => exact List.subset_cons_self _ _
    | error e => exact List.Subset.refl s
  | _ => exact List.Subset.refl s

section Rules

variable {α β : Type} {s : List Minted}

/-- Every program keeps the tokens signed before. -/
theorem ensures_signed (p : Program α) : Ensures signing s p fun s' _ ↦ s ⊆ s' := by
  have h : p.Obeys signing s fun s' _ ↦ s ⊆ s' := by
    induction p generalizing s with
    | done r => exact List.Subset.refl s
    | call op next ih =>
      refine ⟨trivial, fun r ↦ (ih r).mono fun s' _ hs' ↦ ?_⟩
      exact List.Subset.trans (subset_signedTokens s op r) hs'
  exact h.mono fun _ _ hs _ _ ↦ hs

/-- Any program in front of a program. -/
theorem ensures_then {p : Program α} {f : α → Program β} {Q : List Minted → β → Prop}
    (hf : ∀ s' a, s ⊆ s' → Ensures signing s' (f a) Q) : Ensures signing s (p >>= f) Q := by
  apply Ensures.seq (ensures_signed p)
  exact hf

end Rules

/-- The pair has been signed, each token by its own method. -/
def LoginResponse.SignedIn (tokens : LoginResponse) (s : List Minted) : Prop :=
  ⟨.access, tokens.accessToken⟩ ∈ s ∧ ⟨.refresh, tokens.refreshToken⟩ ∈ s

/-- What is signed stays signed. -/
theorem LoginResponse.SignedIn.mono {tokens : LoginResponse} {s s' : List Minted}
    (h : tokens.SignedIn s) (hs : s ⊆ s') : tokens.SignedIn s' :=
  ⟨hs h.1, hs h.2⟩

/-- Minting a pair signs it. -/
theorem generateTokens_signs (env : Env) (payload : Claims) (subject : Value) (s : List Minted) :
    Ensures signing s (generateTokens env payload subject) fun s' tokens ↦ tokens.SignedIn s' := by
  unfold generateTokens
  apply Ensures.bind
  apply ensures_perform trivial
  intro accessToken
  apply Ensures.bind
  apply ensures_perform trivial
  intro refreshToken
  apply ensures_pure
  exact ⟨List.mem_cons_of_mem _ List.mem_cons_self, List.mem_cons_self⟩

/-- A session that is opened returns a pair that has been signed. -/
theorem LoginService.openSession_signs (env : Env) (users : IUserRepository) (r : LoginRequest)
    (user : User) (s : List Minted) :
    Ensures signing s (openSession env users r user) fun s' tokens ↦ tokens.SignedIn s' := by
  unfold openSession
  apply ensures_then
  intro s directRoles _
  apply ensures_then
  intro s effectiveRoles _
  apply ensures_then
  intro s effectivePermissions _
  apply ensures_then
  intro s sessionId _
  apply Ensures.seq (generateTokens_signs env _ _ s)
  intro s tokens hsigned
  apply ensures_then
  intro s₁ expiresAt h₁
  apply ensures_then
  intro s₂ createdAt h₂
  apply ensures_then
  intro s₃ _ h₃
  apply ensures_then
  intro s₄ _ h₄
  apply ensures_pure
  exact (((hsigned.mono h₁).mono h₂).mono h₃).mono h₄

/-- A login returns a pair that it has signed. -/
theorem LoginService.execute_signs (env : Env) (users : IUserRepository) (r : LoginRequest)
    (s : List Minted) :
    Ensures signing s (execute env users r) fun s' tokens ↦ tokens.SignedIn s' := by
  apply ensures_execute (fun _ _ ↦ True)
  · exact fun email ↦ (ensures_signed _).mono fun _ _ _ _ _ ↦ trivial
  · exact fun s hash ↦ (ensures_signed _).mono fun _ _ _ _ _ ↦ trivial
  · intro s user _
    unfold rightPassword
    apply ensures_then
    intro s user _
    apply ensures_then
    intro s _ _
    exact openSession_signs env users r user s
  · intro s user
    unfold wrongPassword
    apply ensures_then
    intro s _ _
    exact ensures_throw

/-- A rotation returns a pair that it has signed. -/
theorem RefreshTokenService.rotate_signs (env : Env) (users : IUserRepository) (userId : Value)
    (ip ua : String) (session : DeviceSession) (user : User) (now : Nat) (s : List Minted) :
    Ensures signing s (rotate env users userId ip ua session user now)
      fun s' tokens ↦ tokens.SignedIn s' := by
  unfold rotate
  apply ensures_then
  intro s session _
  apply ensures_then
  intro s _ _
  apply ensures_then
  intro s directRoles _
  apply ensures_then
  intro s effectiveRoles _
  apply ensures_then
  intro s effectivePermissions _
  apply ensures_then
  intro s newSessionId _
  apply Ensures.seq (generateTokens_signs env _ _ s)
  intro s tokens hsigned
  apply ensures_then
  intro s₁ _ h₁
  apply ensures_then
  intro s₂ _ h₂
  apply ensures_pure
  exact (hsigned.mono h₁).mono h₂

/-- A refresh returns a pair that it has signed. -/
theorem RefreshTokenService.execute_signs (env : Env) (users : IUserRepository) (token : Text)
    (ip ua : String) (s : List Minted) :
    Ensures signing s (execute env users token ip ua) fun s' tokens ↦ tokens.SignedIn s' := by
  unfold execute
  apply ensures_then
  intro s decoded _
  apply ensures_then
  intro s session _
  cases session with
  | none => exact ensures_throw
  | some session =>
    apply ensures_present (fun _ ↦ True)
    · unfold revokeAll
      apply ensures_then
      intro s _ _
      apply ensures_then
      intro s _ _
      exact ensures_throw
    · exact (ensures_signed _).mono fun _ _ _ ↦ trivial
    · intro s _
      exact (ensures_signed _).mono fun _ _ _ ↦ trivial
    · intro s user now _ _ _
      exact rotate_signs env users _ ip ua session user now s

/-- A request that returns a pair of tokens has signed it. -/
theorem serve_signs (env : Env) (users : IUserRepository) (req : Request) :
    Ensures signing [] (serve env users req) fun s resp ↦
      ∀ tokens, resp = .tokens tokens → tokens.SignedIn s := by
  cases req with
  | login r =>
    apply Ensures.seq (LoginService.execute_signs env users r [])
    intro s tokens hsigned
    apply ensures_pure
    rintro _ ⟨rfl⟩
    exact hsigned
  | refresh token ip ua =>
    apply Ensures.seq (RefreshTokenService.execute_signs env users token ip ua [])
    intro s tokens hsigned
    apply ensures_pure
    rintro _ ⟨rfl⟩
    exact hsigned
  | _ =>
    apply ensures_then
    intro s _ _
    apply ensures_pure
    rintro _ ⟨⟩

/-- What a call gives a request to keep is in the record. -/
theorem mem_minted_of_signed {s : List Minted} {op : Op} {m : Minted}
    (h : m ∈ signedTokens s op (exec env w op).1) : m ∈ s ∨ m ∈ (exec env w op).2.minted := by
  cases op with
  | jwtSign c =>
    simp only [exec] at h ⊢
    cases hsign : c.exec env w.now w.draws with
    | error e =>
      rw [hsign] at h
      exact .inl h
    | ok token =>
      rw [hsign] at h
      rcases List.mem_cons.mp h with rfl | h
      · exact .inr (List.mem_append_right _ (List.mem_singleton.mpr rfl))
      · exact .inl h
  | _ => exact .inl h

/-- A failed call signs nothing. -/
theorem signedTokens_error (s : List Minted) (op : Op) (e : JsError) :
    signedTokens s op (.error e) = s := by
  cases op <;> rfl

/-- The run: the tokens that the requests have signed are in the record. -/
theorem signed_minted {rest : ι → Program Response}
    (hq : Server.Reaches env ok (Pool.start w rest) q) (i : ι) :
    ∀ m ∈ Pool.phase signing [] q.log i, m ∈ q.world.minted := by
  apply hq.phases_invariant (P := signing) (J := fun (w : World) _ s ↦ ∀ m ∈ s, m ∈ w.minted)
  · intro i m hm
    cases hm
  · intro q i s op _ hs m hm
    rcases mem_minted_of_signed hm with hm | hm
    · exact minted_subset env q.world op (hs m hm)
    · exact hm
  · intro w i s op hs m hm
    exact minted_subset env w op (hs m hm)
  · intro w i s op e hs m hm
    have hm : m ∈ signedTokens s op (.error e) := hm
    rw [signedTokens_error] at hm
    exact hs m hm
  · intro w i s ms hs
    exact hs

/-- The tokens that a login or a refresh has returned were made by the method of their kind. -/
theorem returned_minted (hq : Server.Reaches env ok (Server.start env users reqs w) q) {k : ι}
    {tokens : LoginResponse} (h : q.Returned k (.tokens tokens)) :
    q.world.MintedAs .access tokens.accessToken ∧
      q.world.MintedAs .refresh tokens.refreshToken := by
  have hsigned := hq.post_of_done (serve_signs env users (reqs k)) h _ rfl tokens rfl
  exact ⟨signed_minted hq k _ hsigned.1, signed_minted hq k _ hsigned.2⟩

/-! ### What the guards tell apart -/

/-- The signatures are ideal: a token that verifies at any time has been made by one of the
methods of `JwtTokenService`. -/
def World.Unforged (env : Env) (w : World) (token : Text) : Prop :=
  ∀ t claims, JwtTokenService.verifyAt env token t = .ok claims → ∃ use, w.MintedAs use token

/-- A guard admits a presented token only if it was made as an access token, exactly when the
token is not a refresh token that passes at some time from then on. The refresh tokens that
logins and refreshes return were made as refresh tokens and not as access tokens. -/
theorem guard_admits_access_tokens_iff (env : Env) (reqs : ι → Request) (w : World)
    (hw : w.MintedApart env) (q : Server ι)
    (hq : Server.Reaches env anyTurn (Server.start env PrismaUserRepository reqs w) q) (j : ι)
    (guard : RequireAuth) (req : HttpRequest) (token : Text) (hreq : reqs j = .guarded guard req)
    (htoken : guard.guard.token req = some token) (hj : q.NotStarted j)
    (hunforged : q.world.Unforged env token) :
    ((∀ q', Server.Reaches env anyTurn q q' → ∀ resp, q'.Returned j resp →
        resp.admitted = true → q'.world.MintedAs .access token) ↔
      ¬ (q.world.MintedAs .refresh token ∧
        ∃ t, q.world.now ≤ t ∧ (reqs j).Admits env token t)) ∧
    ∀ k tokens, q.Returned k (.tokens tokens) →
      q.world.MintedAs .refresh tokens.refreshToken ∧
        ¬ q.world.MintedAs .access tokens.refreshToken := by
  have hpresents : (reqs j).Presents token := by
    rw [hreq]
    exact htoken
  have hapart : ∀ token, q.world.MintedAs .refresh token → ¬ q.world.MintedAs .access token := by
    intro token hrefresh haccess
    cases (minted_apart hq hw).use _ hrefresh _ haccess rfl
  refine ⟨⟨?_, ?_⟩, fun k tokens h ↦ ?_⟩
  · rintro honly ⟨hrefresh, t, ht, hadmits⟩
    obtain ⟨q', resp, hq', hresp, hadmitted, hworld⟩ :=
      admitted_of_admits hq hj hpresents ht hadmits
    have haccess := honly q' hq' resp hresp hadmitted
    rw [hworld] at haccess
    exact hapart token hrefresh haccess
  · intro hnot q' hq' resp hresp hadmitted
    obtain ⟨t, ht, hadmits⟩ := admits_of_admitted hq hq' hj hpresents hresp hadmitted
    have hverify : ∃ claims, JwtTokenService.verifyAt env token t = .ok claims := by
      have hguard := hadmits
      rw [hreq] at hguard
      obtain ⟨claims, hclaims, -⟩ := hguard
      exact ⟨claims, hclaims⟩
    obtain ⟨claims, hclaims⟩ := hverify
    obtain ⟨use, hminted⟩ := hunforged t claims hclaims
    cases use with
    | access => exact minted_stays hq' hminted
    | refresh => exact absurd ⟨hminted, t, ht, hadmits⟩ hnot
  · have hrefresh := (returned_minted hq h).2
    exact ⟨hrefresh, hapart _ hrefresh⟩

/-- The teller logs in and then presents the refresh token. -/
def Sample.presentRefreshToken : Nat → Request := fun i ↦
  if i = 0 then .login login else tellersOnly tellerTokens.refreshToken

/-- The server of these requests, after the login. -/
def Sample.afterLogin : Server Nat :=
  (Server.start Sample.env PrismaUserRepository presentRefreshToken employed).play (exec Sample.env)
    World.pass (List.replicate 20 (.act 0))

/-- The refresh token of the teller. -/
theorem guard_admits_access_tokens_iff_teller :
    ((∀ q', Server.Reaches Sample.env anyTurn Sample.afterLogin q' → ∀ resp, q'.Returned 1 resp →
        resp.admitted = true → q'.world.MintedAs .access Sample.tellerTokens.refreshToken) ↔
      ¬ (Sample.afterLogin.world.MintedAs .refresh Sample.tellerTokens.refreshToken ∧
        ∃ t, Sample.afterLogin.world.now ≤ t ∧
          (Sample.tellersOnly Sample.tellerTokens.refreshToken).Admits Sample.env
            Sample.tellerTokens.refreshToken t)) ∧
    ∀ k tokens, Sample.afterLogin.Returned k (.tokens tokens) →
      Sample.afterLogin.world.MintedAs .refresh tokens.refreshToken ∧
        ¬ Sample.afterLogin.world.MintedAs .access tokens.refreshToken :=
  guard_admits_access_tokens_iff Sample.env Sample.presentRefreshToken Sample.employed
    (.of_nil rfl) Sample.afterLogin (Pool.reaches_play_any _ _) 1 (.role "TELLER")
    ⟨none, some [.plain "Bearer", Sample.tellerTokens.refreshToken], "/vault"⟩
    Sample.tellerTokens.refreshToken rfl (by decide +kernel) (by decide +kernel)
    fun _ _ _ ↦ ⟨.refresh, by decide +kernel⟩

/-- The guard admits the refresh token that the login has returned. -/
theorem guard_admits_refresh_token :
    Sample.afterLogin.Returned 0 (.tokens Sample.tellerTokens) ∧ Sample.afterLogin.NotStarted 1 ∧
      ¬ ∀ q', Server.Reaches Sample.env anyTurn Sample.afterLogin q' →
        ∀ resp, q'.Returned 1 resp → resp.admitted = true →
          q'.world.MintedAs .access Sample.tellerTokens.refreshToken := by
  refine ⟨by decide +kernel, by decide +kernel, fun h ↦ ?_⟩
  let q' := Sample.afterLogin.play (exec Sample.env) World.pass (List.replicate 3 (.act 1))
  have hresult : ∃ claims, q'.result 1 = some (.ok (.verdict (.next claims))) := by
    refine ⟨(JwtTokenService.decode Sample.tellerTokens.refreshToken).getD {}, ?_⟩
    decide +kernel
  obtain ⟨claims, hclaims⟩ := hresult
  have hminted := h q' (Pool.reaches_play_any _ _) _ (Pool.result_eq_ok.mp hclaims) rfl
  revert hminted
  decide +kernel

end Bankos
