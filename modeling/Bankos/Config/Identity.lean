import Bankos.Config.Gateway
import Bankos.Core.Events

/-!
# The configuration of the identity service

`identity/src/config/index.ts`, and the key manager that is built from it.
-/

namespace Bankos

open Js Settings Settings.Schema Settings.Reader

/-! ### The texts of the settings -/

/-- `/^[0-9]+[mhd]$/`, read as the duration that it stands for. -/
def Duration.parse (s : String) : Option Duration :=
  match s.toList.reverse with
  | [] => none
  | suffix :: digits =>
    if digits.all Char.isDigit then
      match leadingNumber digits.reverse, suffix with
      | some n, 'm' => some (.minutes n)
      | some n, 'h' => some (.hours n)
      | some n, 'd' => some (.days n)
      | _, _ => none
    else none

/-- A member of a document that is an object. -/
def Json.member (members : List (String × Json)) (name : String) : Option Json :=
  (members.find? fun m ↦ decide (m.1 = name)).map (·.2)

/-- `z.object({ privateKey: z.string().optional(), publicKey: z.string() })`. -/
def KeyPair.ofJson : Json → Option KeyPair
  | .object members =>
    match Json.member members "publicKey", Json.member members "privateKey" with
    | some (.str publicKey), none => some ⟨publicKey, none⟩
    | some (.str publicKey), some (.str privateKey) => some ⟨publicKey, some privateKey⟩
    | _, _ => none
  | _ => none

/-- `z.record(z.string(), …)` of such key pairs. -/
def KeyPair.recordOfJson : Json → Option (List (String × KeyPair))
  | .object members => members.mapM fun m ↦ (KeyPair.ofJson m.2).map fun key ↦ (m.1, key)
  | _ => none

namespace IdentityService

/-- The validated settings of `config/index.ts:7–53`. -/
structure EnvConfig where
  nodeEnv : NodeEnv
  port : Int
  databaseUrl : String
  databasePoolSize : Option Int
  redisUrl : String
  redisConnectTimeoutMs : Int
  redisMaxRetries : Int
  redisKeyPrefix : String
  jwtActiveKeyId : String
  jwtKeys : List (String × KeyPair)
  jwtAccessExpiration : Duration
  jwtRefreshExpiration : Duration
  jwtIssuer : String
  jwtAudience : String
  argon2MemoryCost : Int
  argon2TimeCost : Int
  argon2Parallelism : Int
  passwordPepper : Option String
  smtpHost : String
  smtpPort : Int
  smtpUsername : String
  smtpPassword : String
  logLevel : LogLevel
  corsAllowedOrigins : List String

/-- The text starts with the other one. -/
def startsWith (url start : String) : Bool := start.toList.isPrefixOf url.toList

/-- `z.coerce.number().int()`: a safe integer. -/
def int (platform : Platform) : Schema Int :=
  string.convert fun s ↦
    match platform.conversions.numberOfString s with
    | none => .error none
    | some q => if q.den = 1 ∧ q.num.natAbs < 2 ^ 53 then .ok q.num else .error none

/-- A safe integer from `low` on. -/
def intFrom (platform : Platform) (low : Int) : Schema Int :=
  (int platform).check [⟨fun n ↦ low ≤ n, none⟩]

/-- A safe integer from `low` to `high`. -/
def intBetween (platform : Platform) (low high : Int) : Schema Int :=
  (int platform).check [⟨fun n ↦ low ≤ n, none⟩, ⟨fun n ↦ n ≤ high, none⟩]

/-- `z.string().url()` with a refinement that looks at the start. -/
def url (platform : Platform) (starts : List String) (message : String) : Schema String :=
  string.check [⟨platform.isUrl, none⟩, ⟨fun s ↦ starts.any (startsWith s), some message⟩]

/-- `z.string().min(1, message)`. -/
def required (message : String) : Schema String :=
  string.check [⟨fun s ↦ 1 ≤ utf16Length s, some message⟩]

/-- A duration, with the message of the pattern. -/
def duration (message : String) : Schema Duration :=
  string.convert fun s ↦
    match Duration.parse s with
    | some d => .ok d
    | none => .error (some message)

/-- `config/index.ts:8`. -/
def nodeEnv : Schema NodeEnv :=
  (enum [("development", .development), ("test", .test), ("production", .production)]).withDefault
    .development

/-- `config/index.ts:9`. -/
def port (platform : Platform) : Schema Int := (intBetween platform 1024 65535).withDefault 3001

/-- `config/index.ts:10–13`. -/
def databaseUrl (platform : Platform) : Schema String :=
  url platform ["postgres://", "postgresql://"] "Must be a valid PostgreSQL connection string"

/-- `config/index.ts:14`. -/
def databasePoolSize (platform : Platform) : Schema (Option Int) :=
  (intBetween platform 1 100).optional

/-- `config/index.ts:15–18`. -/
def redisUrl (platform : Platform) : Schema String :=
  url platform ["redis://", "rediss://"] "Must be a valid Redis URL"

/-- `config/index.ts:23–38`. -/
def jwtKeys (platform : Platform) : Schema (List (String × KeyPair)) :=
  string.convert fun val ↦
    match (platform.parseJson val).bind KeyPair.recordOfJson with
    | some keys => .ok keys
    | none => .error
        (some "JWT_KEYS must be a valid JSON string mapping kid to \x7b publicKey, privateKey \x7d")

/-- `config/index.ts:41`. -/
def jwtIssuer : Schema String := string.withDefault "bankos:identity"

/-- `config/index.ts:42`. -/
def jwtAudience : Schema String := string.withDefault "bankos:gateway"

/-- `config/index.ts:51`. -/
def logLevel : Schema LogLevel :=
  (enum [("error", .error), ("warn", .warn), ("info", .info), ("http", .http),
    ("verbose", .verbose), ("debug", .debug)]).withDefault .info

/-- `config/index.ts:52`. -/
def corsAllowedOrigins (platform : Platform) : Schema (List String) :=
  (string.withDefault "http://localhost:3000").transform (splitOrigins platform.trim)

/-- `config/index.ts:7–53`. -/
def envSchema (platform : Platform) : Reader EnvConfig :=
  EnvConfig.mk
    <$> field "NODE_ENV" nodeEnv
    <*> field "PORT" (port platform)
    <*> field "DATABASE_URL" (databaseUrl platform)
    <*> field "DATABASE_POOL_SIZE" (databasePoolSize platform)
    <*> field "REDIS_URL" (redisUrl platform)
    <*> field "REDIS_CONNECT_TIMEOUT_MS" ((intFrom platform 100).withDefault 5000)
    <*> field "REDIS_MAX_RETRIES" ((intFrom platform 0).withDefault 5)
    <*> field "REDIS_KEY_PREFIX" (string.withDefault "bankos:id:")
    <*> field "JWT_ACTIVE_KEY_ID" (required "JWT_ACTIVE_KEY_ID is required")
    <*> field "JWT_KEYS" (jwtKeys platform)
    <*> field "JWT_ACCESS_EXPIRATION" (duration "Must be a valid duration (e.g. 15m, 1h)")
    <*> field "JWT_REFRESH_EXPIRATION" (duration "Must be a valid duration (e.g. 7d, 30d)")
    <*> field "JWT_ISSUER" jwtIssuer
    <*> field "JWT_AUDIENCE" jwtAudience
    <*> field "ARGON2_MEMORY_COST" ((intFrom platform 1024).withDefault 65536)
    <*> field "ARGON2_TIME_COST" ((intFrom platform 1).withDefault 3)
    <*> field "ARGON2_PARALLELISM" ((intFrom platform 1).withDefault 4)
    <*> field "PASSWORD_PEPPER" string.optional
    <*> field "SMTP_HOST" (required "SMTP_HOST is required")
    <*> field "SMTP_PORT" (intBetween platform 1 65535)
    <*> field "SMTP_USERNAME" (required "SMTP_USERNAME is required")
    <*> field "SMTP_PASSWORD" (required "SMTP_PASSWORD is required")
    <*> field "LOG_LEVEL" logLevel
    <*> field "CORS_ALLOWED_ORIGINS" (corsAllowedOrigins platform)

/-- The refinement of `config/index.ts:55–63`; an empty pepper is none. -/
def pepperIssues (data : EnvConfig) : List Issue :=
  if data.nodeEnv = .production ∧ data.passwordPepper.getD "" = "" then
    [⟨["PASSWORD_PEPPER"], some "PASSWORD_PEPPER is mandatory in production"⟩]
  else []

/-- `config/index.ts:55–63`. -/
def configSchema (platform : Platform) : Reader EnvConfig :=
  (envSchema platform).refine pepperIssues

/-- The settings that the schema names. -/
def settingNames : List String :=
  ["NODE_ENV", "PORT", "DATABASE_URL", "DATABASE_POOL_SIZE", "REDIS_URL",
    "REDIS_CONNECT_TIMEOUT_MS", "REDIS_MAX_RETRIES", "REDIS_KEY_PREFIX", "JWT_ACTIVE_KEY_ID",
    "JWT_KEYS", "JWT_ACCESS_EXPIRATION", "JWT_REFRESH_EXPIRATION", "JWT_ISSUER", "JWT_AUDIENCE",
    "ARGON2_MEMORY_COST", "ARGON2_TIME_COST", "ARGON2_PARALLELISM", "PASSWORD_PEPPER",
    "SMTP_HOST", "SMTP_PORT", "SMTP_USERNAME", "SMTP_PASSWORD", "LOG_LEVEL",
    "CORS_ALLOWED_ORIGINS"]

/-- The schema is about these settings, and each complaint names the one it is about. -/
theorem configSchema_covers (platform : Platform) :
    Covers settingNames (configSchema platform) := by
  have henv : Covers settingNames (envSchema platform) :=
    (covers_field "NODE_ENV" _).map
      |>.seq (covers_field "PORT" _)
      |>.seq (covers_field "DATABASE_URL" _)
      |>.seq (covers_field "DATABASE_POOL_SIZE" _)
      |>.seq (covers_field "REDIS_URL" _)
      |>.seq (covers_field "REDIS_CONNECT_TIMEOUT_MS" _)
      |>.seq (covers_field "REDIS_MAX_RETRIES" _)
      |>.seq (covers_field "REDIS_KEY_PREFIX" _)
      |>.seq (covers_field "JWT_ACTIVE_KEY_ID" _)
      |>.seq (covers_field "JWT_KEYS" _)
      |>.seq (covers_field "JWT_ACCESS_EXPIRATION" _)
      |>.seq (covers_field "JWT_REFRESH_EXPIRATION" _)
      |>.seq (covers_field "JWT_ISSUER" _)
      |>.seq (covers_field "JWT_AUDIENCE" _)
      |>.seq (covers_field "ARGON2_MEMORY_COST" _)
      |>.seq (covers_field "ARGON2_TIME_COST" _)
      |>.seq (covers_field "ARGON2_PARALLELISM" _)
      |>.seq (covers_field "PASSWORD_PEPPER" _)
      |>.seq (covers_field "SMTP_HOST" _)
      |>.seq (covers_field "SMTP_PORT" _)
      |>.seq (covers_field "SMTP_USERNAME" _)
      |>.seq (covers_field "SMTP_PASSWORD" _)
      |>.seq (covers_field "LOG_LEVEL" _)
      |>.seq (covers_field "CORS_ALLOWED_ORIGINS" _)
  apply henv.refine
  intro data i hi
  unfold pepperIssues at hi
  split at hi
  · rw [List.mem_singleton.mp hi]
    exact ⟨"PASSWORD_PEPPER", by decide, rfl⟩
  · cases hi

variable {platform : Platform} {env : Environment} {c : EnvConfig}

/-- The configuration holds what each schema reads in the environment. -/
structure ReadFrom (platform : Platform) (env : Environment) (c : EnvConfig) : Prop where
  nodeEnv : nodeEnv (env "NODE_ENV") = .ok c.nodeEnv
  port : port platform (env "PORT") = .ok c.port
  databaseUrl : databaseUrl platform (env "DATABASE_URL") = .ok c.databaseUrl
  databasePoolSize : databasePoolSize platform (env "DATABASE_POOL_SIZE") = .ok c.databasePoolSize
  redisUrl : redisUrl platform (env "REDIS_URL") = .ok c.redisUrl
  redisConnectTimeoutMs :
    (intFrom platform 100).withDefault 5000 (env "REDIS_CONNECT_TIMEOUT_MS") =
      .ok c.redisConnectTimeoutMs
  redisMaxRetries :
    (intFrom platform 0).withDefault 5 (env "REDIS_MAX_RETRIES") = .ok c.redisMaxRetries
  redisKeyPrefix : (string.withDefault "bankos:id:") (env "REDIS_KEY_PREFIX") = .ok c.redisKeyPrefix
  jwtActiveKeyId :
    required "JWT_ACTIVE_KEY_ID is required" (env "JWT_ACTIVE_KEY_ID") = .ok c.jwtActiveKeyId
  jwtKeys : jwtKeys platform (env "JWT_KEYS") = .ok c.jwtKeys
  jwtAccessExpiration :
    duration "Must be a valid duration (e.g. 15m, 1h)" (env "JWT_ACCESS_EXPIRATION") =
      .ok c.jwtAccessExpiration
  jwtRefreshExpiration :
    duration "Must be a valid duration (e.g. 7d, 30d)" (env "JWT_REFRESH_EXPIRATION") =
      .ok c.jwtRefreshExpiration
  jwtIssuer : jwtIssuer (env "JWT_ISSUER") = .ok c.jwtIssuer
  jwtAudience : jwtAudience (env "JWT_AUDIENCE") = .ok c.jwtAudience
  argon2MemoryCost :
    (intFrom platform 1024).withDefault 65536 (env "ARGON2_MEMORY_COST") = .ok c.argon2MemoryCost
  argon2TimeCost :
    (intFrom platform 1).withDefault 3 (env "ARGON2_TIME_COST") = .ok c.argon2TimeCost
  argon2Parallelism :
    (intFrom platform 1).withDefault 4 (env "ARGON2_PARALLELISM") = .ok c.argon2Parallelism
  passwordPepper : string.optional (env "PASSWORD_PEPPER") = .ok c.passwordPepper
  smtpHost : required "SMTP_HOST is required" (env "SMTP_HOST") = .ok c.smtpHost
  smtpPort : intBetween platform 1 65535 (env "SMTP_PORT") = .ok c.smtpPort
  smtpUsername : required "SMTP_USERNAME is required" (env "SMTP_USERNAME") = .ok c.smtpUsername
  smtpPassword : required "SMTP_PASSWORD is required" (env "SMTP_PASSWORD") = .ok c.smtpPassword
  logLevel : logLevel (env "LOG_LEVEL") = .ok c.logLevel
  corsAllowedOrigins :
    corsAllowedOrigins platform (env "CORS_ALLOWED_ORIGINS") = .ok c.corsAllowedOrigins

/-- An accepted environment has every setting read by its schema. -/
theorem envSchema_yields (platform : Platform) (env : Environment) :
    Yields env (envSchema platform) (ReadFrom platform env) := by
  unfold envSchema
  iterate 23 apply yields_seq
  apply yields_map
  intro _ h1 _ h2 _ h3 _ h4 _ h5 _ h6 _ h7 _ h8 _ h9 _ h10 _ h11 _ h12 _ h13 _ h14 _ h15 _ h16 _
    h17 _ h18 _ h19 _ h20 _ h21 _ h22 _ h23 _ h24
  exact ⟨h1, h2, h3, h4, h5, h6, h7, h8, h9, h10, h11, h12, h13, h14, h15, h16, h17, h18, h19, h20,
    h21, h22, h23, h24⟩

/-- An accepted configuration has been read, and has a pepper in production. -/
theorem configSchema_ok (h : configSchema platform env = .ok c) :
    ReadFrom platform env c ∧
      (c.nodeEnv = .production → ∃ pepper, c.passwordPepper = some pepper ∧ pepper ≠ "") := by
  obtain ⟨hread, hissues⟩ := refine_eq_ok.mp h
  refine ⟨envSchema_yields platform env c hread, fun hproduction ↦ ?_⟩
  unfold pepperIssues at hissues
  split at hissues
  · cases hissues
  · next hnot =>
    cases hpepper : c.passwordPepper with
    | none => exact absurd ⟨hproduction, by rw [hpepper]; rfl⟩ hnot
    | some pepper =>
      refine ⟨pepper, rfl, fun hempty ↦ hnot ⟨hproduction, ?_⟩⟩
      rw [hpepper]
      exact hempty

/-- An integer that is accepted is within its bounds. -/
theorem intBetween_ok {low high n : Int} {s : Option String}
    (h : intBetween platform low high s = .ok n) : low ≤ n ∧ n ≤ high := by
  have hchecks := (check_eq_ok.mp h).2
  have hlow := hchecks _ List.mem_cons_self
  have hhigh := hchecks _ (List.mem_cons_of_mem _ List.mem_cons_self)
  exact ⟨by simpa using hlow, by simpa using hhigh⟩

/-- An integer that is accepted is not below its bound, and a default that is not is within it. -/
theorem intFrom_ok {low default n : Int} {s : Option String} (hdefault : low ≤ default)
    (h : (intFrom platform low).withDefault default s = .ok n) : low ≤ n := by
  rcases withDefault_eq_ok.mp h with ⟨-, rfl⟩ | ⟨-, hread⟩
  · exact hdefault
  · have hlow := (check_eq_ok.mp hread).2 _ (List.mem_singleton.mpr rfl)
    simpa using hlow

/-- The bounds of an accepted configuration, defaults included. -/
theorem configSchema_bounds (h : configSchema platform env = .ok c) :
    (1024 ≤ c.port ∧ c.port ≤ 65535) ∧ (1 ≤ c.smtpPort ∧ c.smtpPort ≤ 65535) ∧
      (∀ n, c.databasePoolSize = some n → 1 ≤ n ∧ n ≤ 100) ∧ 100 ≤ c.redisConnectTimeoutMs ∧
      0 ≤ c.redisMaxRetries ∧ 1024 ≤ c.argon2MemoryCost ∧ 1 ≤ c.argon2TimeCost ∧
      1 ≤ c.argon2Parallelism := by
  have hread := (configSchema_ok h).1
  have hport : 1024 ≤ c.port ∧ c.port ≤ 65535 := by
    rcases withDefault_eq_ok.mp hread.port with ⟨-, hport⟩ | ⟨-, hport⟩
    · rw [← hport]
      decide
    · exact intBetween_ok hport
  have hpool : ∀ n, c.databasePoolSize = some n → 1 ≤ n ∧ n ≤ 100 := by
    intro n hn
    have hsize := hread.databasePoolSize
    rw [hn] at hsize
    exact intBetween_ok (optional_eq_some.mp hsize).2
  exact ⟨hport, intBetween_ok hread.smtpPort, hpool,
    intFrom_ok (by decide) hread.redisConnectTimeoutMs,
    intFrom_ok (by decide) hread.redisMaxRetries, intFrom_ok (by decide) hread.argon2MemoryCost,
    intFrom_ok (by decide) hread.argon2TimeCost, intFrom_ok (by decide) hread.argon2Parallelism⟩

/-- Without settings of their own, issuer and audience are the defaults of the service. -/
theorem configSchema_defaults (h : configSchema platform env = .ok c)
    (hissuer : env "JWT_ISSUER" = none) (haudience : env "JWT_AUDIENCE" = none) :
    c.jwtIssuer = "bankos:identity" ∧ c.jwtAudience = "bankos:gateway" := by
  have hread := (configSchema_ok h).1
  have hi := hread.jwtIssuer
  have ha := hread.jwtAudience
  rw [hissuer] at hi
  rw [haudience] at ha
  exact ⟨(Except.ok.inj hi).symm, (Except.ok.inj ha).symm⟩

/-- The parts of `config/index.ts:83–116` that the services read. -/
def EnvConfig.services (c : EnvConfig) : Config where
  accessExpiration := c.jwtAccessExpiration
  refreshExpiration := c.jwtRefreshExpiration
  issuer := c.jwtIssuer
  audience := c.jwtAudience
  pepper := c.passwordPepper

end IdentityService

/-- `KeyManager.ts:6–24`, over the keys that `KeyLoader.ts:9–11` passes on. -/
def KeyManager.construct (keysConfig : List (String × KeyPair)) (activeKeyId : String) :
    Except JsError KeyManager :=
  match h : keysConfig.lookup activeKeyId with
  | none => .error (.error
      ("Active key with kid '" ++ activeKeyId ++ "' not found in key configuration"))
  | some activeKey =>
    match hp : activeKey.privateKey with
    | none => .error (.error
        ("Active key with kid '" ++ activeKeyId ++ "' must contain a privateKey for signing"))
    | some activePrivateKey =>
      if activePrivateKey = "" then
        .error (.error
          ("Active key with kid '" ++ activeKeyId ++ "' must contain a privateKey for signing"))
      else
        .ok
          { keys := fun kid ↦ keysConfig.lookup kid
            activeKeyId := activeKeyId
            activeKey := activeKey
            activePrivateKey := activePrivateKey
            getKey_active := h
            private_active := hp }

end Bankos
