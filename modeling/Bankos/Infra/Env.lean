import Bankos.Core.Entities

/-!
# Configuration and surroundings

The validated configuration (`identity/src/config/index.ts`), the key manager
(`identity/src/infrastructure/crypto/keys`), and the parts of the platform that the services
only call: the number syntax and the string functions of the language, the UUID syntax of
the database, SHA-256, Argon2 and the random generator. Nothing is assumed of these beyond
the fields that say so.
-/

namespace Bankos

open Js Jwt

/-- `config/index.ts:39–40`: a number of minutes, hours or days. -/
inductive Duration where
  | minutes (n : Nat)
  | hours (n : Nat)
  | days (n : Nat)
  deriving DecidableEq, Repr

/-- The span in seconds. -/
def Duration.seconds : Duration → Nat
  | minutes n => n * 60
  | hours n => n * 3600
  | days n => n * 86400

/-- The parts of `config` that the services read. -/
structure Config where
  accessExpiration : Duration
  refreshExpiration : Duration
  issuer : String
  audience : String
  pepper : Option String

/-- The parts of the gateway's `config` that its `auth.ts` reads. -/
structure GatewayConfig where
  jwtSecret : String
  jwtIssuer : String
  jwtAudience : String

/-- `KeyLoader.ts:1–4`. -/
structure KeyPair where
  publicKey : String
  privateKey : Option String

/-- `KeyManager.ts:3–24`. The constructor refuses a configuration without a private key for
the active key id, so the fields carry that key. -/
structure KeyManager where
  keys : String → Option KeyPair
  activeKeyId : String
  activeKey : KeyPair
  activePrivateKey : String
  getKey_active : keys activeKeyId = some activeKey
  private_active : activeKey.privateKey = some activePrivateKey

/-- Everything that stays fixed while the services run. -/
structure Env where
  config : Config
  gateway : GatewayConfig
  keyManager : KeyManager
  conversions : Conversions
  /-- `String.prototype.trim`. -/
  trim : String → String
  /-- `String.prototype.toLowerCase`. -/
  toLowerCase : String → String
  /-- The canonical form of a string that the database accepts as a UUID. -/
  parseUuid : String → Option String
  /-- SHA-256 in hexadecimal. -/
  sha256 : Text → Text
  /-- The successive results of `crypto.randomUUID`. -/
  uuid : Nat → String
  uuid_injective : Function.Injective uuid
  parseUuid_uuid : ∀ n, parseUuid (uuid n) = some (uuid n)
  /-- The successive results of `crypto.randomBytes` with a given length, in hexadecimal. -/
  randomHex : Nat → Nat → String
  /-- The public half of an RSA private key. -/
  publicKeyOf : String → String
  /-- `argon2.hash` with a given salt. -/
  argon2Hash : Nat → String → String
  /-- `argon2.verify`; `none` when it throws on a malformed hash. -/
  argon2Verify : String → String → Option Bool

end Bankos
