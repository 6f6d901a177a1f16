import Bankos.Auth.Validators
import Bankos.Base.Settings

/-!
# The configuration of the gateway

`gateway/src/config/index.ts`, with the parts of the platform that the schemas of both services
call: what the URL parser accepts, `JSON.parse` and the number syntax.
-/

namespace Bankos

open Js Settings Settings.Schema Settings.Reader

/-- A document that `JSON.parse` returns. -/
inductive Json where
  | null
  | bool (b : Bool)
  | num (q : Rat)
  | str (s : String)
  | array (items : List Json)
  | object (members : List (String × Json))

/-- The platform below the schemas. -/
structure Platform where
  /-- The strings that `z.string().url()` accepts. -/
  isUrl : String → Bool
  /-- `JSON.parse`; `none` when it throws. -/
  parseJson : String → Option Json
  /-- `String.prototype.trim`. -/
  trim : String → String
  conversions : Conversions

/-- The values of `NODE_ENV`. -/
inductive NodeEnv where
  | development
  | production
  | test
  deriving DecidableEq, Repr

/-- The values of `LOG_LEVEL`; the last one is of the gateway only. -/
inductive LogLevel where
  | error
  | warn
  | info
  | http
  | verbose
  | debug
  | silly
  deriving DecidableEq, Repr

/-- The digits at the start of a text, as a decimal number. -/
def leadingNumber (cs : List Char) : Option Nat :=
  let digits := cs.takeWhile Char.isDigit
  if digits.isEmpty then none
  else some (digits.foldl (fun n c ↦ 10 * n + (c.toNat - '0'.toNat)) 0)

/-- `parseInt(val, 10)`, with `none` for NaN. The number is exact, also from `2 ^ 53` on, where the
language rounds it to a double; no setting is compared with so large a number. -/
def parseInt (val : String) : Option Int :=
  match val.toList.dropWhile isSpace with
  | '-' :: cs => (leadingNumber cs).map fun n ↦ -(n : Int)
  | '+' :: cs => (leadingNumber cs).map fun n ↦ (n : Int)
  | cs => (leadingNumber cs).map fun n ↦ (n : Int)

/-- `val.split(',').map((origin) => origin.trim())`. -/
def splitOrigins (trim : String → String) (val : String) : List String :=
  (val.toList.splitOn ',').map fun origin ↦ trim (String.ofList origin)

namespace GatewayService

/-- `config/index.ts:8–53`: the validated settings; a number that `parseInt` makes may be NaN. -/
structure Config where
  port : Option Int
  nodeEnv : NodeEnv
  identityServiceUrl : String
  customer360ServiceUrl : String
  creditRiskServiceUrl : String
  jwtSecret : String
  jwtIssuer : String
  jwtAudience : String
  logLevel : LogLevel
  proxyTimeoutMs : Option Int
  corsAllowedOrigins : List String
  cbErrorThresholdPercent : Option Int
  cbResetTimeoutMs : Option Int
  cbMaxConcurrentRequests : Option Int
  retryCount : Option Int
  retryDelayMs : Option Int

/-- A number that meets a condition, which NaN never does. -/
def numeric (p : Int → Bool) (message : String) : Schema (Option Int) :=
  (string.transform parseInt).check [⟨fun val ↦ val.any p, some message⟩]

/-- A number that is accepted is not NaN and meets the condition. -/
theorem numeric_ok {p : Int → Bool} {message : String} {s : Option String} {val : Option Int}
    (h : numeric p message s = .ok val) : ∃ n, val = some n ∧ p n = true := by
  have hcheck := (check_eq_ok.mp h).2 _ (List.mem_singleton.mpr rfl)
  cases val with
  | none => cases hcheck
  | some n => exact ⟨n, rfl, hcheck⟩

/-- A number with a default text. -/
def number (text : String) : Schema (Option Int) := (string.withDefault text).transform parseInt

/-- `z.string().url()`. -/
def url (platform : Platform) : Schema String := string.check [⟨platform.isUrl, none⟩]

/-- `config/index.ts:9–14`. -/
def port : Schema (Option Int) :=
  numeric (fun val ↦ 0 < val && val ≤ 65535) "PORT must be a valid port number"

/-- `config/index.ts:15`. -/
def nodeEnv : Schema NodeEnv :=
  (enum [("development", .development), ("production", .production), ("test", .test)]).withDefault
    .development

/-- `config/index.ts:19`. -/
def jwtSecret : Schema String :=
  string.check [⟨fun s ↦ 32 ≤ utf16Length s,
    some "JWT_SECRET must be at least 32 characters long for security"⟩]

/-- `config/index.ts:20`. -/
def jwtIssuer : Schema String := string.withDefault "bankos-identity"

/-- `config/index.ts:21`. -/
def jwtAudience : Schema String := string.withDefault "bankos-gateway"

/-- `config/index.ts:22`. -/
def logLevel : Schema LogLevel :=
  (enum [("error", .error), ("warn", .warn), ("info", .info), ("http", .http),
    ("verbose", .verbose), ("debug", .debug), ("silly", .silly)]).withDefault .info

/-- `config/index.ts:23–28`. -/
def proxyTimeoutMs : Schema (Option Int) :=
  numeric (fun val ↦ 1000 ≤ val) "PROXY_TIMEOUT_MS must be at least 1000"

/-- `config/index.ts:29–32`. -/
def corsAllowedOrigins (platform : Platform) : Schema (List String) :=
  (string.withDefault "http://localhost:3000,http://localhost:8000").transform
    (splitOrigins platform.trim)

/-- `config/index.ts:8–53`. -/
def envSchema (platform : Platform) : Reader Config :=
  Config.mk
    <$> field "PORT" port
    <*> field "NODE_ENV" nodeEnv
    <*> field "IDENTITY_SERVICE_URL" (url platform)
    <*> field "CUSTOMER360_SERVICE_URL" (url platform)
    <*> field "CREDIT_RISK_SERVICE_URL" (url platform)
    <*> field "JWT_SECRET" jwtSecret
    <*> field "JWT_ISSUER" jwtIssuer
    <*> field "JWT_AUDIENCE" jwtAudience
    <*> field "LOG_LEVEL" logLevel
    <*> field "PROXY_TIMEOUT_MS" proxyTimeoutMs
    <*> field "CORS_ALLOWED_ORIGINS" (corsAllowedOrigins platform)
    <*> field "CB_ERROR_THRESHOLD_PERCENT" (number "50")
    <*> field "CB_RESET_TIMEOUT_MS" (number "30000")
    <*> field "CB_MAX_CONCURRENT_REQUESTS" (number "100")
    <*> field "RETRY_COUNT" (number "3")
    <*> field "RETRY_DELAY_MS" (number "1000")

/-- The parts of the configuration that `auth.ts` reads. -/
def Config.auth (c : Config) : GatewayConfig := ⟨c.jwtSecret, c.jwtIssuer, c.jwtAudience⟩

/-- The settings that the schema names. -/
def settingNames : List String :=
  ["PORT", "NODE_ENV", "IDENTITY_SERVICE_URL", "CUSTOMER360_SERVICE_URL",
    "CREDIT_RISK_SERVICE_URL", "JWT_SECRET", "JWT_ISSUER", "JWT_AUDIENCE", "LOG_LEVEL",
    "PROXY_TIMEOUT_MS", "CORS_ALLOWED_ORIGINS", "CB_ERROR_THRESHOLD_PERCENT",
    "CB_RESET_TIMEOUT_MS", "CB_MAX_CONCURRENT_REQUESTS", "RETRY_COUNT", "RETRY_DELAY_MS"]

/-- The schema is about these settings, and each complaint names the one it is about. -/
theorem envSchema_covers (platform : Platform) : Covers settingNames (envSchema platform) :=
  (covers_field "PORT" _).map
    |>.seq (covers_field "NODE_ENV" _)
    |>.seq (covers_field "IDENTITY_SERVICE_URL" _)
    |>.seq (covers_field "CUSTOMER360_SERVICE_URL" _)
    |>.seq (covers_field "CREDIT_RISK_SERVICE_URL" _)
    |>.seq (covers_field "JWT_SECRET" _)
    |>.seq (covers_field "JWT_ISSUER" _)
    |>.seq (covers_field "JWT_AUDIENCE" _)
    |>.seq (covers_field "LOG_LEVEL" _)
    |>.seq (covers_field "PROXY_TIMEOUT_MS" _)
    |>.seq (covers_field "CORS_ALLOWED_ORIGINS" _)
    |>.seq (covers_field "CB_ERROR_THRESHOLD_PERCENT" _)
    |>.seq (covers_field "CB_RESET_TIMEOUT_MS" _)
    |>.seq (covers_field "CB_MAX_CONCURRENT_REQUESTS" _)
    |>.seq (covers_field "RETRY_COUNT" _)
    |>.seq (covers_field "RETRY_DELAY_MS" _)

variable {platform : Platform} {env : Environment} {c : Config}

/-- The configuration holds what each schema reads in the environment. -/
structure ReadFrom (platform : Platform) (env : Environment) (c : Config) : Prop where
  port : port (env "PORT") = .ok c.port
  nodeEnv : nodeEnv (env "NODE_ENV") = .ok c.nodeEnv
  identityServiceUrl : url platform (env "IDENTITY_SERVICE_URL") = .ok c.identityServiceUrl
  customer360ServiceUrl :
    url platform (env "CUSTOMER360_SERVICE_URL") = .ok c.customer360ServiceUrl
  creditRiskServiceUrl : url platform (env "CREDIT_RISK_SERVICE_URL") = .ok c.creditRiskServiceUrl
  jwtSecret : jwtSecret (env "JWT_SECRET") = .ok c.jwtSecret
  jwtIssuer : jwtIssuer (env "JWT_ISSUER") = .ok c.jwtIssuer
  jwtAudience : jwtAudience (env "JWT_AUDIENCE") = .ok c.jwtAudience
  logLevel : logLevel (env "LOG_LEVEL") = .ok c.logLevel
  proxyTimeoutMs : proxyTimeoutMs (env "PROXY_TIMEOUT_MS") = .ok c.proxyTimeoutMs
  corsAllowedOrigins :
    corsAllowedOrigins platform (env "CORS_ALLOWED_ORIGINS") = .ok c.corsAllowedOrigins
  cbErrorThresholdPercent :
    number "50" (env "CB_ERROR_THRESHOLD_PERCENT") = .ok c.cbErrorThresholdPercent
  cbResetTimeoutMs : number "30000" (env "CB_RESET_TIMEOUT_MS") = .ok c.cbResetTimeoutMs
  cbMaxConcurrentRequests :
    number "100" (env "CB_MAX_CONCURRENT_REQUESTS") = .ok c.cbMaxConcurrentRequests
  retryCount : number "3" (env "RETRY_COUNT") = .ok c.retryCount
  retryDelayMs : number "1000" (env "RETRY_DELAY_MS") = .ok c.retryDelayMs

/-- An accepted environment has every setting read by its schema. -/
theorem envSchema_yields (platform : Platform) (env : Environment) :
    Yields env (envSchema platform) (ReadFrom platform env) := by
  unfold envSchema
  iterate 15 apply yields_seq
  apply yields_map
  intro _ h1 _ h2 _ h3 _ h4 _ h5 _ h6 _ h7 _ h8 _ h9 _ h10 _ h11 _ h12 _ h13 _ h14 _ h15 _ h16
  exact ⟨h1, h2, h3, h4, h5, h6, h7, h8, h9, h10, h11, h12, h13, h14, h15, h16⟩

/-- The bounds of an accepted configuration, defaults included. -/
theorem envSchema_bounds (h : envSchema platform env = .ok c) :
    (∃ n, c.port = some n ∧ 0 < n ∧ n ≤ 65535) ∧ 32 ≤ utf16Length c.jwtSecret ∧
      ∃ n, c.proxyTimeoutMs = some n ∧ 1000 ≤ n := by
  have hread := envSchema_yields platform env c h
  obtain ⟨n, hn, hport⟩ := numeric_ok hread.port
  obtain ⟨m, hm, htimeout⟩ := numeric_ok hread.proxyTimeoutMs
  have hsecret := (check_eq_ok.mp hread.jwtSecret).2 _ (List.mem_singleton.mpr rfl)
  exact ⟨⟨n, hn, by simpa using hport⟩, by simpa using hsecret, ⟨m, hm, by simpa using htimeout⟩⟩

/-- Without settings of their own, issuer and audience are the defaults of the gateway. -/
theorem envSchema_defaults (h : envSchema platform env = .ok c) (hissuer : env "JWT_ISSUER" = none)
    (haudience : env "JWT_AUDIENCE" = none) :
    c.jwtIssuer = "bankos-identity" ∧ c.jwtAudience = "bankos-gateway" := by
  have hread := envSchema_yields platform env c h
  have hi := hread.jwtIssuer
  have ha := hread.jwtAudience
  rw [hissuer] at hi
  rw [haudience] at ha
  exact ⟨(Except.ok.inj hi).symm, (Except.ok.inj ha).symm⟩

end GatewayService
end Bankos
