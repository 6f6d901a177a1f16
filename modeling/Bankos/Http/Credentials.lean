import Bankos.Base.Clients
import Bankos.Http.Calls
import Bankos.Tokens.Minted

/-!
# Where the tokens of a client come from

A client of the application knows no private key of the service, and no token that passes its
checks. It presents whatever it can make or has been answered with. Then each token it can derive
and that passes was returned to it, by a login for which it has presented the password of the user,
or by a refresh of a token that it held for the same reason.
-/

namespace Bankos

open Js Jwt Effects Storage Prog DatabaseMapper

/-! ### What can be made without the keys of the service -/

/-- The signature can be made by everyone with the private keys `keys`: secrets of the other
algorithm may be known, and bytes that no key has made are anyone's. -/
def Jwt.Signature.MadeBy (keys : Set String) : Signature → Prop
  | .rs256 privateKey => privateKey ∈ keys
  | .hs256 _ => True
  | .other _ => True

/-- The string can be made by everyone with the private keys `keys`. -/
def Jwt.Makes (keys : Set String) : Text → Prop
  | .plain _ => True
  | .unreadable _ => True
  | .null _ signature => signature.MadeBy keys
  | .jws t => t.signature.MadeBy keys

/-- What is known and what can be made. -/
def Jwt.derive (keys : Set String) : ClosureOperator (Set Text) := Client.adding {t | Makes keys t}

/-- The token passes the checks of the service at some time. -/
def Jwt.Verifies (env : Env) (token : Text) : Prop :=
  ∃ t claims, JwtTokenService.verifyAt env token t = .ok claims

/-- None of the keys belongs to a public key of the service. -/
def Env.Foreign (env : Env) (keys : Set String) : Prop :=
  ∀ privateKey ∈ keys, ∀ kid key, env.keyManager.keys kid = some key →
    env.publicKeyOf privateKey ≠ key.publicKey

/-- What can be made with foreign keys passes nowhere. -/
theorem Jwt.Makes.not_verifies {env : Env} {keys : Set String} (hkeys : env.Foreign keys)
    {token : Text} (h : Makes keys token) : ¬ Verifies env token := by
  rintro ⟨t, claims, hverify⟩
  obtain ⟨publicKey, hkey, hverify⟩ := JwtTokenService.verify_of_verifyAt hverify
  obtain ⟨jws, rfl, -, halg, hsignature⟩ := Jwt.verify_ok hverify
  have halg : jws.header.alg = "RS256" := by simpa using halg
  unfold validSignature at hsignature
  rw [halg] at hsignature
  have h : jws.signature.MadeBy keys := h
  cases hmade : jws.signature with
  | rs256 privateKey =>
    rw [hmade] at hsignature h
    have hpublic : env.publicKeyOf privateKey = publicKey := by simpa using hsignature
    obtain ⟨kid, key, -, -, hfound, rfl⟩ := JwtTokenService.headerKey_eq_ok.mp hkey
    exact hkeys privateKey h kid key hfound hpublic
  | hs256 secret =>
    rw [hmade] at hsignature
    simp at hsignature
  | other bytes =>
    rw [hmade] at hsignature
    simp at hsignature

/-! ### What a controller has checked when it returns tokens -/

/-- Both tokens have been made, each for its use, and carry the subject. -/
structure LoginResponse.MadeFor (made : TokenUse → Text → Prop) (sub : Value)
    (tokens : LoginResponse) : Prop where
  access : made .access tokens.accessToken
  refresh : made .refresh tokens.refreshToken
  subject : ∀ token ∈ [tokens.accessToken, tokens.refreshToken],
    ∃ claims, JwtTokenService.decode token = some claims ∧ claims.sub = sub

/-- The replies that a login and a refresh rely on: a user that is found has been stored under the
address, a password that is right verifies, and a token that is signed has been made. -/
def Env.Vouches (env : Env) (stored : UserRow → Prop) (made : TokenUse → Text → Prop) :
    (op : Op) → Except JsError op.Reply → Prop
  | .user (.findUniqueByEmail email), .ok (some row) => stored row ∧ row.email = email
  | .hasher (.verify hash password), .ok valid =>
    valid = true → env.argon2Verify hash password = some true
  | .jwtSign c, .ok token => made c.use token ∧ ∃ now draws, c.exec env now draws = .ok token
  | _, _ => True

/-- The login names a stored user that is not locked, with a password that verifies. -/
structure LoginRequest.Proves (env : Env) (r : LoginRequest) (row : UserRow) : Prop where
  email : row.email = EmailValidator.normalize env r.email
  unlocked : row.isLocked = false
  password : env.argon2Verify row.passwordHash
    (Argon2PasswordHasher.applyPepper env r.passwordRaw) = some true

/-- Why a call may return tokens with the subject. -/
def AuthCall.Entitles (env : Env) (stored : UserRow → Prop) (sub : Value) : AuthCall → Prop
  | .login r => ∃ row, stored row ∧ r.Proves env row ∧ sub = .str row.id
  | .refresh token _ _ =>
    ∃ t claims, JwtTokenService.verifyAt env token t = .ok claims ∧ claims.sub = sub
  | _ => False

section Told

variable {env : Env} {stored : UserRow → Prop} {made : TokenUse → Text → Prop}

/-- A failed call vouches for nothing. -/
theorem vouches_error (op : Op) (e : JsError) : env.Vouches stored made op (.error e) := by
  cases op with
  | user o => cases o <;> exact trivial
  | hasher o => cases o <;> exact trivial
  | _ => exact trivial

/-- Weaker facts about the rows and about the tokens are vouched for as well. -/
theorem Env.Vouches.mono {stored' : UserRow → Prop} {made' : TokenUse → Text → Prop} {op : Op}
    {r : Except JsError op.Reply} (h : env.Vouches stored made op r)
    (hstored : ∀ row, stored row → stored' row)
    (hmade : ∀ (c : SignCall) (token : Text) (now draws : Nat),
      c.exec env now draws = .ok token → made c.use token → made' c.use token) :
    env.Vouches stored' made' op r := by
  cases r with
  | error e => exact vouches_error op e
  | ok a =>
    cases op with
    | user o =>
      cases o with
      | findUniqueByEmail email =>
        cases a with
        | none => exact trivial
        | some row => exact ⟨hstored row h.1, h.2⟩
      | _ => exact trivial
    | hasher o =>
      cases o with
      | verify hash password => exact h
      | hash password => exact trivial
    | jwtSign c =>
      obtain ⟨hmadeBefore, now, draws, hsign⟩ := h
      exact ⟨hmade c a now draws hsign hmadeBefore, now, draws, hsign⟩
    | _ => exact trivial

/-- A pair that is minted has been made for its subject. -/
theorem generateTokens_made (payload : Claims) (subject : Value) :
    (generateTokens env payload subject).Told (env.Vouches stored made) fun tokens ↦
      tokens.MadeFor made subject := by
  have hsign : ∀ use expiresIn, (JwtTokenService.sign env use payload subject expiresIn).Told
      (env.Vouches stored made) fun token ↦ made use token ∧
        ∃ claims, JwtTokenService.decode token = some claims ∧ claims.sub = subject := by
    intro use expiresIn
    apply told_perform
    rintro token ⟨hmade, now, draws, h⟩
    exact ⟨hmade, _, Jwt.decode_sign h, rfl⟩
  unfold generateTokens
  apply Told.seq (hsign .access _)
  rintro accessToken ⟨haccess, haccessSub⟩
  apply Told.seq (hsign .refresh _)
  rintro refreshToken ⟨hrefresh, hrefreshSub⟩
  apply told_pure
  exact ⟨haccess, hrefresh, by simpa using ⟨haccessSub, hrefreshSub⟩⟩

/-- A login that returns tokens has been shown the password of their user. -/
theorem LoginService.execute_entitled (r : LoginRequest) :
    (execute env PrismaUserRepository r).Told (env.Vouches stored made) fun tokens ↦
      ∃ sub, AuthCall.Entitles env stored sub (.login r) ∧ tokens.MadeFor made sub := by
  apply told_execute
  intro row user hfound hlocked hverify hid
  apply told_openSession
  intro payload _
  apply (generateTokens_made payload _).mono
  intro tokens htokens
  refine ⟨.str row.id, ⟨row, hfound.1, ⟨hfound.2, hlocked, hverify rfl⟩, rfl⟩, ?_⟩
  rw [← hid]
  exact htokens

/-- A refresh that returns tokens has been shown one that passes, with the same subject. -/
theorem RefreshTokenService.execute_entitled (token : Text) (ip ua : String) :
    (execute env PrismaUserRepository token ip ua).Told (env.Vouches stored made) fun tokens ↦
      ∃ sub, AuthCall.Entitles env stored sub (.refresh token ip ua) ∧
        tokens.MadeFor made sub := by
  apply told_execute
  intro decoded t session row now hverify _
  apply told_rotate
  intro payload _
  apply (generateTokens_made payload _).mono
  intro tokens htokens
  exact ⟨_, ⟨t, decoded, hverify, rfl⟩, htokens⟩

/-- A request that returns tokens is entitled to them. -/
theorem IdentityApp.handle_entitled (app : IdentityApp) (req : IdentityRequest) :
    (app.handle req).Told (app.env.Vouches stored made) fun response ↦
      ∀ tokens, response.Gives tokens → ∃ c sub, app.call req = some c ∧
        c.Entitles app.env stored sub ∧ tokens.MadeFor made sub := by
  apply handle_tokens
  · intro r hcall
    apply (LoginService.execute_entitled r).mono
    rintro tokens ⟨sub, hentitled, hmade⟩
    exact ⟨_, sub, hcall, hentitled, hmade⟩
  · intro token ip ua hcall
    apply (RefreshTokenService.execute_entitled token ip ua).mono
    rintro tokens ⟨sub, hentitled, hmade⟩
    exact ⟨_, sub, hcall, hentitled, hmade⟩

/-- Before it has been told anything a request has not returned tokens. -/
theorem IdentityApp.handle_untold (app : IdentityApp) (req : IdentityRequest) :
    (app.handle req).Told (fun _ _ ↦ False) fun response ↦
      ∀ tokens, response.Gives tokens → False := by
  apply handle_tokens
  · intro r _
    apply LoginService.told_execute
    exact fun _ _ hfound _ _ _ ↦ hfound.elim
  · intro token ip ua _
    apply RefreshTokenService.told_execute
    exact fun _ _ _ _ _ _ hfound ↦ hfound.elim

end Told

/-! ### The client -/

/-- The strings of a call that its caller has to have. -/
def AuthCall.presented : AuthCall → List Text
  | .refresh token _ _ => [token]
  | .logout r _ _ => [r.accessToken, r.refreshToken]
  | .resetPassword r => [r.token]
  | .verifyEmail r => [r.token]
  | _ => []

section Runs

variable {ι : Type} [DecidableEq ι]

/-- The strings that a request presents. -/
def IdentityApp.presents (app : IdentityApp) (reqs : ι → IdentityRequest) (i : ι) : Set Text :=
  {token | ∃ c, app.call (reqs i) = some c ∧ token ∈ c.presented}

/-- The tokens of an answer. -/
def AppResponse.tokens (response : AppResponse) : Set Text :=
  {token | ∃ pair, response.Gives pair ∧ (token = pair.accessToken ∨ token = pair.refreshToken)}

/-- The client with these private keys. -/
abbrev Jwt.client (makes : ι → Prop) (knows : Set Text) (keys : Set String) : Client ι Text :=
  ⟨makes, knows, derive keys⟩

/-- The runs in which the client presents what it can derive; other requests are not restricted. -/
abbrev IdentityApp.Serves (app : IdentityApp) (client : Client ι Text)
    (reqs : ι → IdentityRequest) : HttpServer ι → HttpServer ι → Prop :=
  Pool.Reaches (exec app.env) World.pass
    fun q (t : Turn JsError ι Nat) ↦ q.derives client AppResponse.tokens (app.presents reqs) t

/-- The pair was returned to the client for the user: by a login for which it has proved the
password, or by a refresh of a token of such a pair. -/
inductive IdentityApp.TracesToLogin (app : IdentityApp) (client : Client ι Text)
    (reqs : ι → IdentityRequest) (w : World) (q : HttpServer ι) : LoginResponse → String → Prop
  | login {i : ι} {r : LoginRequest} {p : HttpServer ι} {row : UserRow} {response : AppResponse}
      {tokens : LoginResponse} (makes : client.makes i)
      (call : app.call (reqs i) = some (.login r))
      (before : app.Serves client reqs (app.start reqs w) p) (after : app.Serves client reqs p q)
      (stored : row ∈ p.world.users) (proves : r.Proves app.env row)
      (returned : q.Returned i response) (gives : response.Gives tokens)
      (made : tokens.MadeFor q.world.MintedAs (.str row.id)) :
      TracesToLogin app client reqs w q tokens row.id
  | refresh {i : ι} {token : Text} {ip ua : String} {held tokens : LoginResponse}
      {userId : String} {response : AppResponse} (makes : client.makes i)
      (call : app.call (reqs i) = some (.refresh token ip ua))
      (traces : TracesToLogin app client reqs w q held userId)
      (presents : token = held.accessToken ∨ token = held.refreshToken)
      (returned : q.Returned i response) (gives : response.Gives tokens)
      (made : tokens.MadeFor q.world.MintedAs (.str userId)) :
      TracesToLogin app client reqs w q tokens userId

variable {app : IdentityApp} {client : Client ι Text} {reqs : ι → IdentityRequest} {w : World}
  {p q : HttpServer ι} {tokens : LoginResponse} {userId : String}

section Log

variable {env : Env} {α : Type} {ok : Pool Api JsError ι α World → Turn JsError ι Nat → Prop}
  {p q : Pool Api JsError ι α World}

/-- The record of signed tokens grows along a run. -/
theorem minted_grows (hq : Pool.Reaches (exec env) World.pass ok p q) {use : TokenUse}
    {token : Text} (h : p.world.MintedAs use token) : q.world.MintedAs use token := by
  apply hq.world_invariant (J := fun w : World ↦ w.MintedAs use token) h
  · exact fun w op hw ↦ minted_subset env w op hw
  · exact fun w ms hw ↦ hw

/-- The run: the replies vouch for what was stored at some moment and for what was signed. -/
theorem log_vouches (hp : p.log = []) (hq : Pool.Reaches (exec env) World.pass ok p q) :
    ∀ e ∈ q.log, env.Vouches
      (fun row ↦ ∃ m, Pool.Reaches (exec env) World.pass ok p m ∧
        Pool.Reaches (exec env) World.pass ok m q ∧ row ∈ m.world.users)
      q.world.MintedAs e.op e.reply := by
  rintro ⟨i, op, r⟩ he
  rcases hq.moment he with he | ⟨x, herror⟩ | ⟨m, m', hm, hmm', hm'q, hexec⟩
  · rw [hp] at he
    cases he
  · have herror : r = .error x := herror
    subst herror
    exact vouches_error op x
  · cases r with
    | error x => exact vouches_error op x
    | ok a =>
      have hreply : (exec env m.world op).1 = .ok a := congrArg Prod.fst hexec
      cases op with
      | user o =>
        cases o with
        | findUniqueByEmail email =>
          cases a with
          | none => exact trivial
          | some row =>
            have hfind : (m.world.users.find fun r ↦ decide (r.email = email)) = some row :=
              Except.ok.inj hreply
            obtain ⟨hrow, hemail⟩ := Table.find_some hfind
            exact ⟨⟨m, hm, hmm'.trans hm'q, hrow⟩, by simpa using hemail⟩
        | _ => exact trivial
      | hasher o =>
        cases o with
        | verify hash password =>
          rintro rfl
          simp only [exec, HasherOp.exec] at hreply
          split at hreply
          · next b hb =>
            cases hreply
            exact hb
          · cases hreply
        | hash password => exact trivial
      | jwtSign c =>
        obtain ⟨hsign, hworld⟩ := exec_jwtSign_ok hexec
        refine ⟨minted_grows hm'q ?_, _, _, hsign⟩
        rw [hworld]
        exact List.mem_append_right _ (List.mem_singleton.mpr rfl)
      | _ => exact trivial

end Log

/-- What has been made stays made. -/
theorem LoginResponse.MadeFor.mono {made made' : TokenUse → Text → Prop} {sub : Value}
    (h : tokens.MadeFor made sub) (hmade : ∀ use token, made use token → made' use token) :
    tokens.MadeFor made' sub :=
  ⟨hmade _ _ h.access, hmade _ _ h.refresh, h.subject⟩

namespace IdentityApp.TracesToLogin

/-- A trace stays one. -/
theorem mono (h : app.TracesToLogin client reqs w p tokens userId)
    (hq : app.Serves client reqs p q) : app.TracesToLogin client reqs w q tokens userId := by
  induction h with
  | login makes call before after stored proves returned gives made =>
    exact .login makes call before (after.trans hq) stored proves (returned.stays hq) gives
      (made.mono fun _ _ ↦ minted_grows hq)
  | refresh makes call _ presents returned gives made ih =>
    exact .refresh makes call ih presents (returned.stays hq) gives
      (made.mono fun _ _ ↦ minted_grows hq)

/-- The pair has been made for the user. -/
theorem madeFor (h : app.TracesToLogin client reqs w q tokens userId) :
    tokens.MadeFor q.world.MintedAs (.str userId) := by
  cases h with
  | login _ _ _ _ _ _ _ _ made => exact made
  | refresh _ _ _ _ _ _ made => exact made

end IdentityApp.TracesToLogin

end Runs

section Client

variable {ι : Type} [DecidableEq ι] {app : IdentityApp} {makes : ι → Prop} {knows : Set Text}
  {keys : Set String} {reqs : ι → IdentityRequest} {w : World} {q : HttpServer ι}

/-- The run: the pairs that the client is answered with trace back to logins of its own. -/
theorem traces_of_returned (hkeys : app.env.Foreign keys)
    (hknows : ∀ token ∈ knows, ¬ Verifies app.env token)
    (hq : app.Serves (Jwt.client makes knows keys) reqs (app.start reqs w) q) :
    ∀ i response, makes i → q.Returned i response → ∀ tokens, response.Gives tokens →
      ∃ userId, app.TracesToLogin (Jwt.client makes knows keys) reqs w q tokens userId := by
  apply Pool.Reaches.answers (Jwt.client makes knows keys) AppResponse.tokens (app.presents reqs)
    hq
    (J := fun q _ response ↦ ∀ tokens, response.Gives tokens →
      ∃ userId, app.TracesToLogin (Jwt.client makes knows keys) reqs w q tokens userId)
  · exact fun _ _ h ↦ h
  · intro p q hpq _ response h tokens hgives
    obtain ⟨userId, htraces⟩ := h tokens hgives
    exact ⟨userId, htraces.mono hpq⟩
  · intro i response _ hdone tokens hgives
    have hend := app.handle_untold (reqs i)
    rw [hdone] at hend
    exact (hend response rfl tokens hgives).elim
  · intro p q hp hpq hbefore i response hi hreturned hpresents tokens hgives
    have hq := hp.trans hpq
    have hend := hq.told (app.handle_entitled (reqs i)) fun e he _ ↦ log_vouches rfl hq e he
    rw [hreturned] at hend
    obtain ⟨c, sub, hcall, hentitled, hmade⟩ := hend response rfl tokens hgives
    cases c with
    | login r =>
      obtain ⟨row, ⟨m, hm, hmq, hrow⟩, hproves, rfl⟩ := hentitled
      exact ⟨row.id, .login hi hcall hm hmq hrow hproves hreturned hgives hmade⟩
    | refresh token ip ua =>
      obtain ⟨t, claims, hverify, rfl⟩ := hentitled
      -- a token that passes is not made by the client, and was not known to it at first
      have hheld : token ∈ p.learnt (Jwt.client makes knows keys) AppResponse.tokens := by
        rcases hpresents ⟨_, hcall, List.mem_singleton_self _⟩ with hlearnt | hmakes
        · exact hlearnt
        · exact (hmakes.not_verifies hkeys ⟨t, claims, hverify⟩).elim
      rcases hheld with hknown | ⟨j, response', hj, hreturned', held, hgives', hpresented⟩
      · exact (hknows token hknown ⟨t, claims, hverify⟩).elim
      · obtain ⟨userId, htraces⟩ := hbefore j response' hj hreturned' held hgives'
        obtain ⟨claims', hdecode, hsub⟩ := htraces.madeFor.subject token (by
          rcases hpresented with rfl | rfl <;> simp)
        have hsame : claims' = claims :=
          Option.some.inj (hdecode.symm.trans (JwtTokenService.decode_of_verifyAt hverify))
        rw [← hsame, hsub] at hmade
        exact ⟨userId, .refresh hi hcall htraces hpresented hreturned hgives hmade⟩
    | _ => exact hentitled.elim

/-- A client that holds no key of the service and no token that passes, and presents only what it
can derive, holds tokens for its own logins only: in every run, among whatever requests of others,
each pair that it is answered with goes back, through refreshes of its own, to a login of its own in
which it has proved the password of the user; and each string that it can derive and that passes at
any time belongs to such a pair, so it was signed by the service. -/
theorem http_tokens_trace_to_logins (app : IdentityApp) (makes : ι → Prop) (knows : Set Text)
    (keys : Set String) (reqs : ι → IdentityRequest) (w : World) (hkeys : app.env.Foreign keys)
    (hknows : ∀ token ∈ knows, ¬ Verifies app.env token)
    (hq : app.Serves (Jwt.client makes knows keys) reqs (app.start reqs w) q) :
    (∀ i response tokens, makes i → q.Returned i response → response.Gives tokens →
      ∃ userId, app.TracesToLogin (Jwt.client makes knows keys) reqs w q tokens userId) ∧
    ∀ token ∈ Jwt.derive keys (q.learnt (Jwt.client makes knows keys) AppResponse.tokens),
      Verifies app.env token →
        (∃ tokens userId, (token = tokens.accessToken ∨ token = tokens.refreshToken) ∧
          app.TracesToLogin (Jwt.client makes knows keys) reqs w q tokens userId) ∧
        ∃ use, q.world.MintedAs use token := by
  have htraces := traces_of_returned hkeys hknows hq
  refine ⟨fun i response tokens hi hreturned hgives ↦ htraces i response hi hreturned tokens hgives,
    ?_⟩
  rintro token (hlearnt | hmakes) hverifies
  · rcases hlearnt with hknown | ⟨i, response, hi, hreturned, tokens, hgives, hheld⟩
    · exact (hknows token hknown hverifies).elim
    · obtain ⟨userId, htrace⟩ := htraces i response hi hreturned tokens hgives
      refine ⟨⟨tokens, userId, hheld, htrace⟩, ?_⟩
      rcases hheld with rfl | rfl
      · exact ⟨.access, htrace.madeFor.access⟩
      · exact ⟨.refresh, htrace.madeFor.refresh⟩
  · exact (hmakes.not_verifies hkeys hverifies).elim

end Client

/-- Two logins of `alice`, one after the other. -/
def Sample.twoSignIns : HttpServer Nat :=
  (app.start (fun _ ↦ signIn) registered).play (exec env) World.pass
    (List.replicate 20 (.act 0) ++ List.replicate 20 (.act 1))

/-- The answer that a program has ended with. -/
def Sample.answerOf : Option (Except JsError AppResponse) → AppResponse
  | some (.ok response) => response
  | _ => ⟨500, none, .empty⟩

/-- The tokens of an answer. -/
def Sample.tokensOf (response : AppResponse) : LoginResponse :=
  match response.body with
  | .auth (.data (.tokens tokens)) => tokens
  | _ => ⟨.plain "", .plain ""⟩

/-- What the second one is answered. -/
def Sample.secondAnswer : AppResponse := answerOf (twoSignIns.result 1)

/-- The tokens in it. -/
def Sample.secondTokens : LoginResponse := tokensOf secondAnswer

/-- Whoever has logged in twice as `alice` has been given the tokens for that. -/
theorem http_tokens_trace_to_logins_twice :
    Sample.twoSignIns.Returned 1 Sample.secondAnswer ∧
      ∃ userId, Sample.app.TracesToLogin (Jwt.client (fun _ ↦ True) ∅ {"mallory"})
        (fun _ : Nat ↦ Sample.signIn) Sample.registered Sample.twoSignIns
        Sample.secondTokens userId := by
  have hreturned : Sample.twoSignIns.Returned 1 Sample.secondAnswer := by decide +kernel
  refine ⟨hreturned, (http_tokens_trace_to_logins Sample.app (fun _ : Nat ↦ True) ∅ {"mallory"}
    (fun _ ↦ Sample.signIn) Sample.registered ?_ ?_ ?_).1 1 _ _ trivial hreturned ?_⟩
  · rintro _ rfl kid key hkey hpublic
    have hkey : (if kid = "key-1" then some (⟨"public", some "private"⟩ : KeyPair) else none) =
        some key := hkey
    split_ifs at hkey
    cases hkey
    revert hpublic
    decide +kernel
  · exact fun _ h ↦ h.elim
  · apply (Pool.reaches_play_any _ _).mono
    have hnone : ∀ i, Sample.app.presents (fun _ : Nat ↦ Sample.signIn) i ⊆ ∅ := by
      rintro i token ⟨c, hcall, hpresented⟩
      have hlogin : c = .login Sample.login := Option.some.inj (hcall.symm.trans rfl)
      subst hlogin
      cases hpresented
    rintro q (i | ⟨i, e⟩ | d) _
    · exact fun _ _ ↦ (hnone i).trans (Set.empty_subset _)
    · exact fun _ _ ↦ (hnone i).trans (Set.empty_subset _)
    · exact trivial
  · unfold AppResponse.Gives
    decide +kernel

end Bankos
