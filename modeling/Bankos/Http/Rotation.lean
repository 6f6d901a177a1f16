import Bankos.Http.Credentials
import Bankos.Http.KeySet

/-!
# Rotating the keys

The service is started again with other keys, over the database that it left. Which of the tokens it
has given out before still pass is a matter of the new configuration and of the time only; and if
the old key is gone, whoever holds old tokens, or the old private key itself, is back at the login.
-/

namespace Bankos

open Js Jwt Effects Storage Prog

/-! ### What was signed -/

/-- The token has been signed under the configuration in the second, to live for a span. -/
structure Env.Signed (env : Env) (second lifetime : Nat) (t : Jws) : Prop where
  header : t.header = ⟨"RS256", some env.keyManager.activeKeyId⟩
  signature : t.signature = .rs256 env.keyManager.activePrivateKey
  iss : t.claims.iss = .str env.config.issuer
  aud : t.claims.aud = .str env.config.audience
  nbf : t.claims.nbf = .undefined
  exp : t.claims.exp = .num ((second + lifetime : Nat) : Rat)

/-- A configuration that takes what the other one signs: it has the public half of the signing key
under the same id, and asks for the same issuer and audience or for none. -/
structure Env.Trusts (env' env : Env) : Prop where
  kid : env.keyManager.activeKeyId ≠ ""
  key : ∃ key, env'.keyManager.keys env.keyManager.activeKeyId = some key ∧
    env'.publicKeyOf env.keyManager.activePrivateKey = key.publicKey
  issuer : env'.config.issuer = "" ∨ env'.config.issuer = env.config.issuer
  audience : env'.config.audience = "" ∨ env'.config.audience = env.config.audience

/-- A token that was signed passes under another configuration exactly when that one trusts the
first, as long as the token lives. -/
theorem Env.Signed.verifyAt_iff {env env' : Env} {second lifetime now : Nat} {t : Jws}
    (h : env.Signed second lifetime t) :
    (∃ claims, JwtTokenService.verifyAt env' (.jws t) now = .ok claims) ↔
      env'.Trusts env ∧ now / 1000 < second + lifetime := by
  have hsignature : ∀ key, validSignature env'.publicKeyOf t key = true ↔
      env'.publicKeyOf env.keyManager.activePrivateKey = key := by
    intro key
    unfold validSignature
    rw [h.header, h.signature]
    exact decide_eq_true_iff
  have hkid : t.header.kid = some env.keyManager.activeKeyId := by rw [h.header]
  constructor
  · rintro ⟨claims, hverify⟩
    obtain ⟨_, kid, key, ⟨⟩, hnamed, hempty, hfound, hverify⟩ :=
      JwtTokenService.verifyAt_eq_ok.mp hverify
    obtain rfl : env.keyManager.activeKeyId = kid := Option.some.inj (hkid.symm.trans hnamed)
    obtain ⟨-, -, hvalid, -, hlives, haudience, hissuer⟩ := verify_jws_iff.mp hverify
    exact ⟨⟨hempty, ⟨key, hfound, (hsignature _).mp hvalid⟩,
      (issuerMatches_str_iff h.iss).mp hissuer, (audienceMatches_str_iff h.aud).mp haudience⟩,
      (notExpired_num_iff h.exp).mp hlives⟩
  · rintro ⟨htrusts, hlives⟩
    obtain ⟨key, hfound, hpublic⟩ := htrusts.key
    refine ⟨t.claims, JwtTokenService.verifyAt_eq_ok.mpr
      ⟨t, _, key, rfl, hkid, htrusts.kid, hfound,
        verify_jws_iff.mpr ⟨rfl, ?_, ?_, notBefore_undefined h.nbf _, ?_⟩⟩⟩
    · rw [h.header]
      exact List.mem_singleton.mpr rfl
    · exact (hsignature _).mpr hpublic
    · exact ⟨(notExpired_num_iff h.exp).mpr hlives,
        (audienceMatches_str_iff h.aud).mpr htrusts.audience,
        (issuerMatches_str_iff h.iss).mpr htrusts.issuer⟩

/-! ### When it was signed -/

/-- The replies that tell when a token was signed: between two times. -/
def Env.SignsWithin (env : Env) (start stop : Nat) :
    (op : Op) → Except JsError op.Reply → Prop
  | .jwtSign c, .ok token =>
    ∃ now draws, start ≤ now ∧ now ≤ stop ∧ c.exec env now draws = .ok token
  | _, _ => True

/-- Both tokens have been signed within the times, each for the span of its kind. -/
def LoginResponse.SignedWithin (tokens : LoginResponse) (env : Env) (start stop : Nat) : Prop :=
  ∃ access refresh s s', tokens = ⟨.jws access, .jws refresh⟩ ∧
    (start / 1000 ≤ s ∧ s ≤ stop / 1000 ∧
      env.Signed s env.config.accessExpiration.seconds access) ∧
    (start / 1000 ≤ s' ∧ s' ≤ stop / 1000 ∧
      env.Signed s' env.config.refreshExpiration.seconds refresh)

section Told

variable {env : Env} {start stop : Nat}

/-- A token that is signed carries what `JwtTokenService.ts:30–43` passes on. -/
theorem JwtTokenService.sign_within {payload : Claims} (hnbf : payload.nbf = .undefined)
    (use : TokenUse) (subject : Value) (expiresIn : Duration) :
    (sign env use payload subject expiresIn).Told (env.SignsWithin start stop) fun token ↦
      ∃ t s, token = .jws t ∧ start / 1000 ≤ s ∧ s ≤ stop / 1000 ∧
        env.Signed s expiresIn.seconds t := by
  apply told_perform
  rintro token ⟨now, draws, hstart, hstop, h⟩
  unfold SignCall.exec Jwt.sign at h
  split at h
  · cases h
    exact ⟨_, now / 1000, rfl, Nat.div_le_div_right hstart, Nat.div_le_div_right hstop,
      ⟨rfl, rfl, rfl, rfl, hnbf, rfl⟩⟩
  · cases h

/-- Both tokens of a pair that is minted are signed within the times. -/
theorem generateTokens_within {payload : Claims} (hnbf : payload.nbf = .undefined)
    (subject : Value) :
    (generateTokens env payload subject).Told (env.SignsWithin start stop) fun tokens ↦
      tokens.SignedWithin env start stop := by
  unfold generateTokens
  apply Told.seq (JwtTokenService.sign_within hnbf .access subject _)
  rintro _ ⟨access, s, rfl, haccess⟩
  apply Told.seq (JwtTokenService.sign_within hnbf .refresh subject _)
  rintro _ ⟨refresh, s', rfl, hrefresh⟩
  apply told_pure
  exact ⟨access, refresh, s, s', rfl, haccess, hrefresh⟩

/-- A login returns a pair that is signed within the times. -/
theorem LoginService.execute_within (r : LoginRequest) :
    (execute env PrismaUserRepository r).Told (env.SignsWithin start stop) fun tokens ↦
      tokens.SignedWithin env start stop := by
  apply told_execute
  intro row user _ _ _ _
  apply told_openSession
  exact fun payload hnbf ↦ generateTokens_within hnbf _

/-- A refresh returns a pair that is signed within the times. -/
theorem RefreshTokenService.execute_within (token : Text) (ip ua : String) :
    (execute env PrismaUserRepository token ip ua).Told (env.SignsWithin start stop) fun tokens ↦
      tokens.SignedWithin env start stop := by
  apply told_execute
  intro decoded t session row now _ _
  apply told_rotate
  exact fun payload hnbf ↦ generateTokens_within hnbf _

/-- A request that returns tokens has had them signed. -/
theorem IdentityApp.handle_within (app : IdentityApp) (req : IdentityRequest) :
    (app.handle req).Told (app.env.SignsWithin start stop) fun response ↦
      ∀ tokens, response.Gives tokens → tokens.SignedWithin app.env start stop := by
  apply handle_tokens
  · exact fun r _ ↦ LoginService.execute_within r
  · exact fun token ip ua _ ↦ RefreshTokenService.execute_within token ip ua

end Told

section Runs

variable {ι : Type} [DecidableEq ι] {app : IdentityApp} {reqs : ι → IdentityRequest} {w : World}
  {ok : HttpServer ι → Turn JsError ι Nat → Prop} {p q : HttpServer ι}

/-- Time does not go back. -/
theorem HttpServer.now_le (hq : Pool.Reaches (exec app.env) World.pass ok p q) :
    p.world.now ≤ q.world.now := by
  apply hq.world_invariant (J := fun w : World ↦ p.world.now ≤ w.now) (Nat.le_refl _)
  · intro w op hw
    rw [exec_now]
    exact hw
  · exact fun w ms hw ↦ Nat.le_trans hw (Nat.le_add_right _ _)

/-- The run: tokens are signed between its start and its end. -/
theorem log_signsWithin (hp : p.log = []) (hq : Pool.Reaches (exec app.env) World.pass ok p q) :
    ∀ e ∈ q.log, app.env.SignsWithin p.world.now q.world.now e.op e.reply := by
  rintro ⟨i, op, r⟩ he
  cases op with
  | jwtSign c =>
    cases r with
    | error x => exact trivial
    | ok token =>
      rcases hq.moment he with he | ⟨x, herror⟩ | ⟨m, m', hm, hmm', hm'q, hexec⟩
      · rw [hp] at he
        cases he
      · cases herror
      · exact ⟨m.world.now, m.world.draws, HttpServer.now_le hm,
          HttpServer.now_le (hmm'.trans hm'q), (exec_jwtSign_ok hexec).1⟩
  | _ => exact trivial

/-- The run: every pair in an answer has been signed between its start and its end. -/
theorem signedWithin_of_returned
    (hq : Pool.Reaches (exec app.env) World.pass ok (app.start reqs w) q) {i : ι}
    {response : AppResponse} {tokens : LoginResponse} (hreturned : q.Returned i response)
    (hgives : response.Gives tokens) :
    tokens.SignedWithin app.env w.now q.world.now := by
  have hend := hq.told (app.handle_within (reqs i)) fun e he _ ↦ log_signsWithin rfl hq e he
  rw [hreturned] at hend
  exact hend response rfl tokens hgives

/-- A pair that a run has returned was signed in it, each token in a second of its own; and under
whatever configuration the service goes on, each passes exactly as long as it lives, if that
configuration trusts the one of the run, and never otherwise. -/
theorem rotated_verdicts (app : IdentityApp) (reqs : ι → IdentityRequest) (w : World)
    (ok : HttpServer ι → Turn JsError ι Nat → Prop) (q : HttpServer ι)
    (hq : Pool.Reaches (exec app.env) World.pass ok (app.start reqs w) q) (i : ι)
    (response : AppResponse) (tokens : LoginResponse) (hreturned : q.Returned i response)
    (hgives : response.Gives tokens) :
    ∃ s s', (w.now / 1000 ≤ s ∧ s ≤ q.world.now / 1000) ∧
      (w.now / 1000 ≤ s' ∧ s' ≤ q.world.now / 1000) ∧ ∀ (env' : Env) (t : Nat),
        ((∃ claims, JwtTokenService.verifyAt env' tokens.accessToken t = .ok claims) ↔
          env'.Trusts app.env ∧ t / 1000 < s + app.env.config.accessExpiration.seconds) ∧
        ((∃ claims, JwtTokenService.verifyAt env' tokens.refreshToken t = .ok claims) ↔
          env'.Trusts app.env ∧ t / 1000 < s' + app.env.config.refreshExpiration.seconds) := by
  obtain ⟨access, refresh, s, s', rfl, ⟨hstart, hstop, haccess⟩, hstart', hstop', hrefresh⟩ :=
    signedWithin_of_returned hq hreturned hgives
  refine ⟨s, s', ⟨hstart, hstop⟩, ⟨hstart', hstop'⟩, fun env' t ↦ ⟨?_, ?_⟩⟩
  · exact haccess.verifyAt_iff
  · exact hrefresh.verifyAt_iff

/-- A token of a run passes at no time under a configuration that does not trust that of the run. -/
theorem not_verifies_of_returned
    (hq : Pool.Reaches (exec app.env) World.pass ok (app.start reqs w) q) {i : ι}
    {response : AppResponse} (hreturned : q.Returned i response) {token : Text}
    (htoken : token ∈ response.tokens) {env' : Env} (hrotated : ¬ env'.Trusts app.env) :
    ¬ Verifies env' token := by
  rintro ⟨t, claims, hverify⟩
  obtain ⟨tokens, hgives, hpresented⟩ := htoken
  obtain ⟨access, refresh, s, s', rfl, ⟨-, -, haccess⟩, -, -, hrefresh⟩ :=
    signedWithin_of_returned hq hreturned hgives
  rcases hpresented with rfl | rfl
  · exact hrotated (haccess.verifyAt_iff.mp ⟨claims, hverify⟩).1
  · exact hrotated (hrefresh.verifyAt_iff.mp ⟨claims, hverify⟩).1

end Runs

/-- The service is started again with keys that do not include the old one, over the database that
any run has left. A client that knows every answer of that run, and may have got hold of the old
private key, is answered with no tokens but those for which it has shown a password since: each pair
goes back to a login of its own after the start. -/
theorem rotation_recovers {ι κ : Type} [DecidableEq ι] [DecidableEq κ] (app app' : IdentityApp)
    (reqs : ι → IdentityRequest) (w : World) (ok : HttpServer ι → Turn JsError ι Nat → Prop)
    (q : HttpServer ι) (hq : Pool.Reaches (exec app.env) World.pass ok (app.start reqs w) q)
    (hrotated : ¬ app'.env.Trusts app.env) (makes : κ → Prop) (knows : Set Text)
    (keys : Set String) (hkeys : app'.env.Foreign keys)
    (hknows : ∀ token ∈ knows, Verifies app'.env token →
      ∃ i response, q.Returned i response ∧ token ∈ response.tokens)
    (reqs' : κ → IdentityRequest) (q' : HttpServer κ)
    (hq' : app'.Serves (Jwt.client makes knows keys) reqs' (app'.start reqs' q.world) q') :
    ∀ i response tokens, makes i → q'.Returned i response → response.Gives tokens →
      ∃ userId,
        app'.TracesToLogin (Jwt.client makes knows keys) reqs' q.world q' tokens userId := by
  have hold : ∀ token ∈ knows, ¬ Verifies app'.env token := by
    intro token hknown hverifies
    obtain ⟨i, response, hreturned, htoken⟩ := hknows token hknown hverifies
    exact not_verifies_of_returned hq hreturned htoken hrotated hverifies
  intro i response tokens hmakes hreturned hgives
  exact traces_of_returned hkeys hold hq' i response hmakes hreturned tokens hgives

namespace Sample

/-- The answer to the second login is a pair. -/
theorem secondAnswer_gives :
    twoSignIns.Returned 1 secondAnswer ∧ secondAnswer.Gives secondTokens := by
  refine ⟨by decide +kernel, ?_⟩
  unfold AppResponse.Gives
  decide +kernel

/-- The keys of a third start, without the first one. -/
def thirdKeys : List (String × KeyPair) := [("key-2", ⟨"public-2", some "private-2"⟩)]

/-- The application with these keys. -/
def thirdApp : IdentityApp := { secondApp with
  env := { secondApp.env with
    keyManager := { secondApp.env.keyManager with
      keys := fun kid ↦ thirdKeys.lookup kid
      getKey_active := rfl } } }

/-- The third start does not take what the first one has signed. -/
theorem thirdApp_not_trusts : ¬ thirdApp.env.Trusts app.env := by
  rintro ⟨-, ⟨key, hkey, -⟩, -, -⟩
  have hnone : (none : Option KeyPair) = some key := hkey
  cases hnone

/-- A login after the third start, over what the first one has left. -/
def signInAgain : HttpServer Nat :=
  (thirdApp.start (fun _ ↦ signIn) twoSignIns.world).play (exec thirdApp.env) World.pass
    (List.replicate 20 (.act 0))

/-- What it is answered. -/
def againAnswer : AppResponse := answerOf (signInAgain.result 0)

end Sample

/-- A refresh token of the first start passes after the second one, and never after the third. -/
theorem rotated_verdicts_twice :
    Sample.twoSignIns.Returned 1 Sample.secondAnswer ∧
      (∃ claims, JwtTokenService.verifyAt Sample.secondApp.env Sample.secondTokens.refreshToken
        2000000 = .ok claims) ∧
      ∀ t, ¬ ∃ claims, JwtTokenService.verifyAt Sample.thirdApp.env
        Sample.secondTokens.refreshToken t = .ok claims := by
  obtain ⟨hreturned, hgives⟩ := Sample.secondAnswer_gives
  obtain ⟨s, s', -, ⟨hstart, -⟩, hverdicts⟩ :=
    rotated_verdicts Sample.app (fun _ : Nat ↦ Sample.signIn) Sample.registered _
      Sample.twoSignIns (Pool.reaches_play_any _ _) 1 _ _ hreturned hgives
  refine ⟨hreturned, (hverdicts Sample.secondApp.env 2000000).2.mpr ⟨?_, ?_⟩, fun t h ↦ ?_⟩
  · exact ⟨by decide, ⟨_, rfl, rfl⟩, .inr rfl, .inr rfl⟩
  · have hlifetime : Sample.app.env.config.refreshExpiration.seconds = 604800 := rfl
    omega
  · exact Sample.thirdApp_not_trusts ((hverdicts Sample.thirdApp.env t).2.mp h).1

/-- Whoever has logged in before, and has stolen the first key, has to log in again. -/
theorem rotation_recovers_again :
    Sample.signInAgain.Returned 0 Sample.againAnswer ∧
      ∃ userId, Sample.thirdApp.TracesToLogin
        (Jwt.client (fun _ ↦ True) Sample.secondAnswer.tokens {"private"})
        (fun _ : Nat ↦ Sample.signIn) Sample.twoSignIns.world Sample.signInAgain
        (Sample.tokensOf Sample.againAnswer) userId := by
  have hreturned : Sample.signInAgain.Returned 0 Sample.againAnswer := by decide +kernel
  refine ⟨hreturned, rotation_recovers Sample.app Sample.thirdApp (fun _ : Nat ↦ Sample.signIn)
    Sample.registered _ Sample.twoSignIns (Pool.reaches_play_any _ _) Sample.thirdApp_not_trusts
    (fun _ ↦ True) Sample.secondAnswer.tokens {"private"} ?_ ?_ (fun _ : Nat ↦ Sample.signIn)
    Sample.signInAgain ?_ 0 _ _ trivial hreturned ?_⟩
  · rintro _ rfl kid key hkey hpublic
    have hkey : Sample.thirdKeys.lookup kid = some key := hkey
    unfold Sample.thirdKeys at hkey
    rw [List.lookup_cons] at hkey
    split at hkey <;> cases hkey
    revert hpublic
    decide +kernel
  · exact fun token htoken _ ↦ ⟨1, _, Sample.secondAnswer_gives.1, htoken⟩
  · apply (Pool.reaches_play_any _ _).mono
    have hnone : ∀ i, Sample.thirdApp.presents (fun _ : Nat ↦ Sample.signIn) i ⊆ ∅ := by
      rintro i token ⟨c, hcall, hpresented⟩
      have hlogin : c = .login Sample.login := Option.some.inj (hcall.symm.trans rfl)
      subst hlogin
      cases hpresented
    rintro q (i | ⟨i, e⟩ | d) _
    · exact fun _ _ ↦ (hnone i).trans (Set.empty_subset _)
    · exact fun _ _ ↦ (hnone i).trans (Set.empty_subset _)
    · exact trivial
  · unfold AppResponse.Gives
    decide +kernel

end Bankos
