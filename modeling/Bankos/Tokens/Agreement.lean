import Bankos.Auth.Alone
import Bankos.Config.Identity

/-!
# What the gateway makes of the tokens of the identity service

The identity service signs with RS256 under its own issuer and audience. The gateway asks for HS256
under a shared secret, and its default issuer and audience are spelt differently. Either of the
differences alone keeps every token out.
-/

namespace Bankos

open Js Jwt Effects Prog Settings

/-- Both services have started: each has accepted its environment, and the surroundings hold the
configurations and the keys that come out of it. -/
structure Started (platform : Platform) (identityEnv gatewayEnv : Environment) (env : Env) :
    Prop where
  identity : ∃ c, IdentityService.configSchema platform identityEnv = .ok c ∧
    env.config = c.services ∧
    KeyManager.construct c.jwtKeys c.jwtActiveKeyId = .ok env.keyManager
  gateway : ∃ c, GatewayService.envSchema platform gatewayEnv = .ok c ∧ env.gateway = c.auth

/-- The environment leaves issuer and audience at their defaults. -/
def LeavesDefaults (settings : Environment) : Prop :=
  settings "JWT_ISSUER" = none ∧ settings "JWT_AUDIENCE" = none

/-- The gateway calls `next` for the token, with the user and the roles in its headers. -/
def GatewayAdmits (env : Env) (token : Text) (userId : String) (roles : List String)
    (w : World) : Prop :=
  ((Gateway.authMiddleware env (some [.plain "Bearer", token])).run (exec env) w).1 =
    .ok (.next (some userId) (some (",".intercalate roles)))

variable {env : Env} {token : Text} {w w' : World}

/-! ### Why a token is refused -/

/-- An access token is signed with RS256, under the issuer and the audience of the service. -/
theorem JwtTokenService.generateAccessToken_ok {payload : Claims} {subject : Value}
    (h : (generateAccessToken env payload subject).run (exec env) w = (.ok token, w')) :
    ∃ t : Jws, token = .jws t ∧ t.header.alg = "RS256" ∧
      t.claims.iss = .str env.config.issuer ∧ t.claims.aud = .str env.config.audience := by
  unfold generateAccessToken sign at h
  rw [run_request] at h
  cases subject with
  | str s =>
    cases h
    exact ⟨_, rfl, rfl, rfl, rfl⟩
  | _ => cases h

/-- Whatever algorithms and key are asked for, a token under another issuer is refused. -/
theorem Jwt.verify_ne_ok_of_issuer {publicKeyOf : String → String} {t : Jws} {key issuer : String}
    {o : VerifyOptions} {now : Nat} (hiss : t.claims.iss = .str issuer) (hne : o.issuer ≠ issuer)
    (hasks : o.issuer ≠ "") (claims : Claims) :
    Jwt.verify publicKeyOf (.jws t) key o now ≠ .ok claims := by
  intro h
  obtain ⟨-, -, -, -, -, -, hissuer⟩ := verify_jws_iff.mp h
  rcases (issuerMatches_str_iff hiss).mp hissuer with hempty | hsame
  · exact hasks hempty
  · exact hne hsame

/-- The gateway refuses every token that is not signed with HS256. -/
theorem Gateway.verifyAt_of_alg {t : Jws} (h : t.header.alg ≠ "HS256") (now : Nat) :
    Gateway.verifyAt env (.jws t) now = .error (.jsonWebToken "invalid algorithm") := by
  have hrefused : ["HS256"].contains t.header.alg = false := by simpa using h
  unfold verifyAt Jwt.verify
  dsimp only
  rw [if_pos hrefused]

/-- The gateway calls `next` only for a token that it has verified. -/
theorem Gateway.verifyAt_of_admits {userId : String} {roles : List String}
    (h : GatewayAdmits env token userId roles w) :
    ∃ claims, Gateway.verifyAt env token w.now = .ok claims := by
  unfold GatewayAdmits authMiddleware at h
  have hbearer : bearerToken (some [.plain "Bearer", token]) = .ok token := rfl
  rw [hbearer] at h
  dsimp only at h
  rw [run_bind, run_now] at h
  dsimp only at h
  cases hverify : Gateway.verifyAt env token w.now with
  | ok claims => exact ⟨claims, rfl⟩
  | error e =>
    rw [hverify] at h
    cases e <;> cases h

/-- Whatever the configurations are, the gateway answers 401 to every access token that the identity
service signs. -/
theorem Gateway.refuses_access_token {payload : Claims} {subject : Value}
    (h : (JwtTokenService.generateAccessToken env payload subject).run (exec env) w =
      (.ok token, w')) (v : World) :
    ((Gateway.authMiddleware env (some [.plain "Bearer", token])).run (exec env) v).1 =
      .ok (.unauthorized "Invalid token signature or payload.") := by
  obtain ⟨t, rfl, halg, -, -⟩ := JwtTokenService.generateAccessToken_ok h
  have hbearer : bearerToken (some [.plain "Bearer", .jws t]) = .ok (.jws t) := rfl
  unfold authMiddleware
  rw [hbearer]
  dsimp only
  rw [run_bind, run_now]
  dsimp only
  rw [Gateway.verifyAt_of_alg (by rw [halg]; decide)]
  rfl

/-- Issuer and audience by default keep the two services apart. -/
theorem Started.default_ne {platform : Platform} {identityEnv gatewayEnv : Environment}
    (h : Started platform identityEnv gatewayEnv env) (hidentity : LeavesDefaults identityEnv)
    (hgateway : LeavesDefaults gatewayEnv) :
    env.config.issuer = "bankos:identity" ∧ env.gateway.jwtIssuer = "bankos-identity" ∧
      env.config.audience = "bankos:gateway" ∧ env.gateway.jwtAudience = "bankos-gateway" := by
  obtain ⟨c, hc, hconfig, -⟩ := h.identity
  obtain ⟨g, hg, hauth⟩ := h.gateway
  obtain ⟨hissuer, haudience⟩ :=
    IdentityService.configSchema_defaults hc hidentity.1 hidentity.2
  obtain ⟨hissuer', haudience'⟩ := GatewayService.envSchema_defaults hg hgateway.1 hgateway.2
  rw [hconfig, hauth]
  exact ⟨hissuer, hissuer', haudience, haudience'⟩

/-- With issuer and audience at their defaults on both sides, the gateway admits no access token
that the identity service signs, for whatever user and roles, and at no time. -/
theorem gateway_admits_no_access_token (platform : Platform)
    (identityEnv gatewayEnv : Environment) (env : Env)
    (hstarted : Started platform identityEnv gatewayEnv env)
    (hidentity : LeavesDefaults identityEnv) (hgateway : LeavesDefaults gatewayEnv)
    (payload : Claims) (userId : String) (roles : List String) (w w' : World) (token : Text)
    (hsigned : (JwtTokenService.generateAccessToken env { payload with roles := .strings roles }
      (.str userId)).run (exec env) w = (.ok token, w')) (v : World) :
    ¬ GatewayAdmits env token userId roles v := by
  intro hadmits
  obtain ⟨hissuer, hissuer', -, -⟩ := hstarted.default_ne hidentity hgateway
  obtain ⟨t, rfl, -, hiss, -⟩ := JwtTokenService.generateAccessToken_ok hsigned
  obtain ⟨claims, hverify⟩ := Gateway.verifyAt_of_admits hadmits
  rw [hissuer] at hiss
  unfold Gateway.verifyAt at hverify
  rw [hissuer'] at hverify
  have hne : "bankos-identity" ≠ "bankos:identity" := by decide
  have hasks : "bankos-identity" ≠ "" := by decide
  exact Jwt.verify_ne_ok_of_issuer hiss hne hasks claims hverify

/-! ### A deployment with default issuers and audiences -/

namespace Sample

/-- The platform, as it behaves on the settings below. -/
def platform : Platform where
  isUrl s := decide ((s.toList.dropWhile (· ≠ ':')).take 3 = "://".toList)
  parseJson s :=
    if s = "\x7b\"key-1\":\x7b\"privateKey\":\"private\",\"publicKey\":\"public\"\x7d\x7d" then
      some (.object [("key-1",
        .object [("privateKey", .str "private"), ("publicKey", .str "public")])])
    else none
  trim := id
  conversions := ⟨fun s ↦ (parseInt s).map fun n ↦ (n : Rat), fun _ ↦ "0"⟩

/-- The environment of the identity service. -/
def identityEnv : Environment := fun name ↦
  [("DATABASE_URL", "postgresql://postgres:5432/identity_db"),
    ("REDIS_URL", "redis://redis:6379"),
    ("JWT_ACTIVE_KEY_ID", "key-1"),
    ("JWT_KEYS",
      "\x7b\"key-1\":\x7b\"privateKey\":\"private\",\"publicKey\":\"public\"\x7d\x7d"),
    ("JWT_ACCESS_EXPIRATION", "15m"),
    ("JWT_REFRESH_EXPIRATION", "7d"),
    ("SMTP_HOST", "smtp"),
    ("SMTP_PORT", "587"),
    ("SMTP_USERNAME", "bankos"),
    ("SMTP_PASSWORD", "secret")].lookup name

/-- The environment of the gateway. -/
def gatewayEnv : Environment := fun name ↦
  [("PORT", "3000"),
    ("IDENTITY_SERVICE_URL", "http://localhost:3001"),
    ("CUSTOMER360_SERVICE_URL", "http://localhost:3002"),
    ("CREDIT_RISK_SERVICE_URL", "http://localhost:3003"),
    ("JWT_SECRET", "a gateway secret of more than 32 characters"),
    ("PROXY_TIMEOUT_MS", "5000")].lookup name

/-- The key of the environment comes with its private part. -/
theorem privateKey_keyPair : (⟨"public", some "private"⟩ : KeyPair).privateKey = some "private" :=
  rfl

/-- The key manager that the keys of the environment make. -/
def keyManager : KeyManager where
  keys kid := [("key-1", (⟨"public", some "private"⟩ : KeyPair))].lookup kid
  activeKeyId := "key-1"
  activeKey := ⟨"public", some "private"⟩
  activePrivateKey := "private"
  getKey_active := rfl
  private_active := privateKey_keyPair

/-- The deployment with these keys. -/
def startedEnv : Env := { Sample.env with keyManager := keyManager }

/-- Both services start in these environments. -/
theorem started : Started platform identityEnv gatewayEnv startedEnv where
  identity := ⟨_, rfl, rfl, rfl⟩
  gateway := ⟨_, rfl, rfl⟩

/-- The access token of `alice`, who has the role `user`, and the world after it was signed. -/
def signed : Except JsError Text × World :=
  (JwtTokenService.generateAccessToken startedEnv { roles := .strings ["user"] }
    (.str "alice")).run (exec startedEnv) registered

/-- The access token that was signed. -/
def accessToken : Text := signed.1.toOption.getD (.plain "")

end Sample

/-- The case of one token, presented at once. -/
theorem gateway_admits_no_access_token_alice :
    ¬ GatewayAdmits Sample.startedEnv Sample.accessToken "alice" ["user"] Sample.signed.2 :=
  gateway_admits_no_access_token Sample.platform Sample.identityEnv Sample.gatewayEnv
    Sample.startedEnv Sample.started ⟨rfl, rfl⟩ ⟨rfl, rfl⟩ {} "alice" ["user"] Sample.registered
    Sample.signed.2 Sample.accessToken rfl Sample.signed.2

/-- The unexpired token of `alice` is refused, with issuers and audiences by default. -/
theorem gateway_refuses_default_deployment :
    ¬ ∀ (platform : Platform) (identityEnv gatewayEnv : Environment) (env : Env),
      Started platform identityEnv gatewayEnv env → LeavesDefaults identityEnv →
      LeavesDefaults gatewayEnv →
      ∀ (payload : Claims) (userId : String) (roles : List String) (w w' : World) (token : Text),
        (JwtTokenService.generateAccessToken env { payload with roles := .strings roles }
          (.str userId)).run (exec env) w = (.ok token, w') →
        ∀ v : World, v.now / 1000 < w.now / 1000 + env.config.accessExpiration.seconds →
          GatewayAdmits env token userId roles v := by
  intro h
  have hadmits := h _ _ _ _ Sample.started ⟨rfl, rfl⟩ ⟨rfl, rfl⟩ {} "alice" ["user"]
    Sample.registered Sample.signed.2 Sample.accessToken rfl Sample.signed.2 (by decide +kernel)
  have hsigned : (JwtTokenService.generateAccessToken Sample.startedEnv
      { roles := .strings ["user"] } (.str "alice")).run (exec Sample.startedEnv)
        Sample.registered = (.ok Sample.accessToken, Sample.signed.2) := rfl
  unfold GatewayAdmits at hadmits
  rw [Gateway.refuses_access_token hsigned] at hadmits
  cases hadmits

end Bankos
