import Bankos.Http.Correlation
import Bankos.Http.Credentials

/-!
# Whom the gateway lets through

The gateway asks for tokens that are signed with HS256 under its own secret, the identity service
hands out tokens that are signed with RS256. Whoever has no other tokens than those, and does not
know the secret, gets no request handed over to a service, in no run of both.
-/

namespace Bankos.Gateway

open Js Jwt Effects Middleware Prog

/-- The token passes the gateway at some time. -/
def Verifies (env : Env) (token : Text) : Prop := ∃ now claims, verifyAt env token now = .ok claims

/-- The string can be made by everyone who does not know the secret; any private key may be
known. -/
def MakesWithout (secret : String) : Text → Prop
  | .plain _ => True
  | .unreadable _ => True
  | .null _ signature => signature ≠ .hs256 secret
  | .jws t => t.signature ≠ .hs256 secret

/-- The token is signed as those of the identity service are. -/
def IsRs256 (token : Text) : Prop := ∃ t : Jws, token = .jws t ∧ t.header.alg = "RS256"

/-- Without the secret nothing can be made that passes. -/
theorem MakesWithout.not_verifies {env : Env} {token : Text}
    (h : MakesWithout env.gateway.jwtSecret token) : ¬ Verifies env token := by
  rintro ⟨now, claims, hverify⟩
  obtain ⟨t, rfl, -, halg, hsignature⟩ := Jwt.verify_ok hverify
  have halg : t.header.alg = "HS256" := by simpa using halg
  unfold validSignature at hsignature
  rw [halg] at hsignature
  unfold MakesWithout at h
  dsimp only at h
  cases hmade : t.signature with
  | hs256 secret =>
    rw [hmade] at hsignature h
    have hsecret : secret = env.gateway.jwtSecret := by simpa using hsignature
    rw [hsecret] at h
    exact h rfl
  | rs256 privateKey =>
    rw [hmade] at hsignature
    simp at hsignature
  | other bytes =>
    rw [hmade] at hsignature
    simp at hsignature

/-- No token of the identity service passes. -/
theorem IsRs256.not_verifies {env : Env} {token : Text} (h : IsRs256 token) :
    ¬ Verifies env token := by
  obtain ⟨t, rfl, halg⟩ := h
  rintro ⟨now, claims, hverify⟩
  rw [verifyAt_of_alg (by rw [halg]; decide)] at hverify
  cases hverify

/-- The tokens of an answer. -/
def TierResponse.tokens : TierResponse → Set Text
  | .direct response => response.tokens
  | .through response =>
    {token | ∃ r : AppResponse, response.body = .identity r.body ∧ token ∈ r.tokens}

/-- A client of both services that knows any keys but the secret of the gateway. -/
def client {ι : Type} (makes : ι → Prop) (knows : Set Text) (secret : String) : Client ι Text :=
  ⟨makes, knows, Client.adding {token | MakesWithout secret token}⟩

/-! ### What the identity service hands out -/

section Told

/-- The replies that matter here: a token that is signed is signed with RS256. -/
abbrev Signing (env : Env) : (op : Op) → Except JsError op.Reply → Prop :=
  env.Vouches (fun _ ↦ True) fun _ token ↦ IsRs256 token

/-- The run: so are the replies. -/
theorem log_signing {ι α : Type} [DecidableEq ι] {env : Env}
    {ok : Pool Api JsError ι α World → Turn JsError ι Nat → Prop}
    {p q : Pool Api JsError ι α World} (hp : p.log = [])
    (hq : Pool.Reaches (exec env) World.pass ok p q) : ∀ e ∈ q.log, Signing env e.op e.reply := by
  intro e he
  apply (log_vouches hp hq e he).mono (fun _ _ ↦ trivial)
  intro c token now draws hsign _
  unfold SignCall.exec Jwt.sign at hsign
  split at hsign
  · cases hsign
    exact ⟨_, rfl, rfl⟩
  · cases hsign

/-- The identity service answers with tokens of its own. -/
theorem identity_signs (app : IdentityApp) (req : IdentityRequest) :
    (app.handle req).Told (Signing app.env) fun response ↦
      ∀ token ∈ response.tokens, IsRs256 token := by
  apply (app.handle_entitled req).mono
  rintro response h token ⟨pair, hgives, hpair⟩
  obtain ⟨c, sub, -, -, hmade⟩ := h pair hgives
  rcases hpair with rfl | rfl
  · exact hmade.access
  · exact hmade.refresh

/-- Through either tier the tokens of an answer are those that the identity service has signed. -/
theorem tiers_sign (tiers : Tiers) (r : TierRequest) :
    (tiers.handle r).Told (Signing tiers.identity.env) fun response ↦
      ∀ token ∈ response.tokens, IsRs256 token := by
  cases r with
  | direct req =>
    apply Told.seq (identity_signs tiers.identity req)
    intro response h
    apply told_pure
    exact h
  | through req net below =>
    unfold Tiers.handle
    dsimp only
    cases harrive : tiers.gateway.arrive req with
    | answered response =>
      apply told_pure
      rintro token ⟨r, hbody, -⟩
      exact ((arrive_answered_own harrive).notIdentity _ hbody).elim
    | forwards x forwarded =>
      dsimp only
      have hserve : (tiers.serve forwarded below).Told (Signing tiers.identity.env)
          fun response ↦ ∀ token ∈ (TierResponse.through response).tokens, IsRs256 token := by
        unfold Tiers.serve
        cases forwarded.service with
        | identity =>
          apply Told.seq (identity_signs _ _)
          intro response h
          apply told_pure
          rintro token ⟨r, hbody, htoken⟩
          have hsame : response.body = r.body := GatewayBody.identity.inj hbody
          apply h token
          obtain ⟨pair, hgives, hpair⟩ := htoken
          exact ⟨pair, hsame.trans hgives, hpair⟩
        | customer360 =>
          apply told_pure
          rintro token ⟨r, hbody, -⟩
          cases hbody
        | credit_risk =>
          apply told_pure
          rintro token ⟨r, hbody, -⟩
          cases hbody
      apply Told.seq (interpret_answers hserve _)
      intro reply hreply
      apply told_pure
      rintro token ⟨r, hbody, htoken⟩
      unfold Delivery.response at hbody
      split at hbody
      · cases hbody
      · split at hbody
        · next response hresponse =>
          obtain ⟨k, -, hk⟩ := Option.bind_eq_some_iff.mp hresponse
          exact hreply response (List.mem_of_getElem? hk) token ⟨r, hbody, htoken⟩
        · cases hbody

end Told

/-! ### Runs of both services -/

variable {ι : Type} [DecidableEq ι] {tiers : Tiers} {reqs : ι → TierRequest} {w : World}
  {ok : TierServer ι → Turn JsError ι Nat → Prop} {q : TierServer ι}

/-- The run: no string that the client can derive passes the gateway. -/
theorem not_verifies_of_derived {makes : ι → Prop} {knows : Set Text}
    (hknows : ∀ token ∈ knows, ¬ Verifies tiers.gateway.env token)
    (hq : Pool.Reaches (exec tiers.identity.env) World.pass ok (tiers.start reqs w) q)
    {token : Text} (h : token ∈ (client makes knows tiers.gateway.env.gateway.jwtSecret).derive
      (q.learnt (client makes knows tiers.gateway.env.gateway.jwtSecret) TierResponse.tokens)) :
    ¬ Verifies tiers.gateway.env token := by
  rcases h with (hknown | ⟨i, response, -, hreturned, htoken⟩) | hmakes
  · exact hknows token hknown
  · have htold := hq.told (tiers_sign tiers (reqs i)) fun e he _ ↦ log_signing rfl hq e he
    rw [show q.rest i = .done (.ok response) from hreturned] at htold
    exact (htold _ rfl token htoken).not_verifies
  · exact hmakes.not_verifies

/-- The token of a request is a part of its header. -/
theorem mem_of_bearerToken {authorization : Option (List Text)} {token : Text}
    (h : bearerToken authorization = .ok token) :
    ∃ parts, authorization = some parts ∧ token ∈ parts := by
  unfold bearerToken at h
  split at h
  · cases h
  · cases h
  · split_ifs at h
    cases h
    exact ⟨_, rfl, by simp⟩
  · cases h

/-- A client that does not know the secret of the gateway, and no token that passes, may know all
private keys of the identity service and all its answers: at no moment of any run can it derive a
request that the gateway hands over. Each such request is answered by the gateway itself, and
takes part with no call. By `run_authMiddleware` it is the middleware that refuses. -/
theorem gateway_shut (tiers : Tiers) (reqs : ι → TierRequest) (w : World) (makes : ι → Prop)
    (knows : Set Text) (hknows : ∀ token ∈ knows, ¬ Verifies tiers.gateway.env token)
    (hq : Pool.Reaches (exec tiers.identity.env) World.pass ok (tiers.start reqs w) q)
    (req : GatewayRequest)
    (hderives : ∀ parts, req.authorization = some parts → ∀ token ∈ parts,
      token ∈ (client makes knows tiers.gateway.env.gateway.jwtSecret).derive
        (q.learnt (client makes knows tiers.gateway.env.gateway.jwtSecret) TierResponse.tokens))
    (net : Delivery) (below : Below) :
    tiers.call (.through req net below) = none ∧
      ∃ response, tiers.handle (.through req net below) = pure (.through response) ∧
        response.Own req.correlationId := by
  have hpasses : ∀ forwarded, ¬ req.Passes tiers.gateway forwarded := by
    intro forwarded h
    obtain ⟨token, claims, -, htoken, hverify, -⟩ := h.token
    obtain ⟨parts, hparts, hmem⟩ := mem_of_bearerToken htoken
    exact not_verifies_of_derived hknows hq (hderives parts hparts token hmem) ⟨_, claims, hverify⟩
  cases harrive : tiers.gateway.arrive req with
  | answered response =>
    refine ⟨?_, response, ?_, arrive_answered_own harrive⟩
    · unfold Tiers.call
      dsimp only
      rw [harrive]
    · unfold Tiers.handle
      dsimp only
      rw [harrive]
  | forwards x forwarded =>
    exact (hpasses forwarded ((arrive_forwards_iff _ _ _ _).mp harrive).1).elim

/-- A login at the identity service itself, up to its answer. -/
def Sample.signedInDirectly : TierServer Nat :=
  (Sample.tiers.start (fun _ ↦ .direct Bankos.Sample.signIn) Bankos.Sample.registered).play
    (exec Bankos.Sample.env) World.pass (List.replicate 20 (.act 0))

/-- What it is answered. -/
def Sample.directAnswer : AppResponse :=
  match signedInDirectly.result 0 with
  | some (.ok (.direct response)) => response
  | _ => ⟨500, none, .empty⟩

/-- The tokens in it. -/
def Sample.directTokens : LoginResponse :=
  match directAnswer.body with
  | .auth (.data (.tokens tokens)) => tokens
  | _ => ⟨.plain "", .plain ""⟩

/-- With the token that `alice` has been given she gets nothing through the gateway. -/
theorem gateway_shut_alice :
    Sample.signedInDirectly.Returned 0 (.direct Sample.directAnswer) ∧
      Sample.tiers.call (.through { Sample.signInThrough with
        authorization := some [.plain "Bearer", Sample.directTokens.accessToken] }
        Sample.delivery Sample.below) = none := by
  have hreturned : Sample.signedInDirectly.Returned 0 (.direct Sample.directAnswer) := by
    decide +kernel
  refine ⟨hreturned, (gateway_shut Sample.tiers (fun _ : Nat ↦ .direct Bankos.Sample.signIn)
    Bankos.Sample.registered (fun _ ↦ True) ∅ (fun _ h ↦ h.elim)
    (Pool.reaches_play_any _ (List.replicate 20 (.act 0))) _ ?_ _ _).1⟩
  intro parts hparts token htoken
  cases hparts
  rcases List.mem_cons.mp htoken with rfl | htoken
  · exact .inr trivial
  · rw [List.mem_singleton.mp htoken]
    refine .inl (.inr ⟨0, _, trivial, hreturned, Sample.directTokens, ?_, .inl rfl⟩)
    unfold AppResponse.Gives
    decide +kernel

end Bankos.Gateway
