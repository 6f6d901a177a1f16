import Bankos.Auth.Guards
import Bankos.Auth.Services

/-!
# Requests in flight

Every request is one program, and the server is the pool of all of them over one world. A
request that has not had a turn has not arrived yet.
-/

namespace Bankos

open Js Jwt Effects

/-- A request to the identity services, to one of the guards or to the gateway. -/
inductive Request where
  | login (r : LoginRequest)
  | refresh (refreshToken : Text) (ipAddress userAgent : String)
  | logout (r : LogoutRequest) (ipAddress userAgent : String)
  | resetPassword (r : ResetPasswordRequest)
  | verifyEmail (r : VerifyEmailRequest)
  | guarded (guard : RequireAuth) (req : HttpRequest)
  | gateway (authorization : Option (List Text))
  deriving DecidableEq, Repr

/-- What a request returns. -/
inductive Response where
  | tokens (r : LoginResponse)
  | done
  | verdict (v : Verdict)
  | gateway (v : GatewayVerdict)
  deriving DecidableEq, Repr

/-- The program of a request. -/
def serve (env : Env) (users : IUserRepository) : Request → Program Response
  | .login r => do
    let tokens ← LoginService.execute env users r
    pure (.tokens tokens)
  | .refresh refreshToken ipAddress userAgent => do
    let tokens ← RefreshTokenService.execute env users refreshToken ipAddress userAgent
    pure (.tokens tokens)
  | .logout r ipAddress userAgent => do
    LogoutService.execute env r ipAddress userAgent
    pure .done
  | .resetPassword r => do
    ResetPasswordService.execute env users r
    pure .done
  | .verifyEmail r => do
    VerifyEmailService.execute env users r
    pure .done
  | .guarded guard req => do
    let v ← guard.guard.handle env dispatch req
    pure (.verdict v)
  | .gateway authorization => do
    let v ← Gateway.authMiddleware env authorization
    pure (.gateway v)

/-- The requests in flight, named by `ι`. -/
abbrev Server (ι : Type) := Pool Api JsError ι Response World

/-- What happens next to a server: milliseconds pass, or a call is answered or fails. -/
abbrev ServerTurn (ι : Type) := Turn JsError ι Nat

/-- The server over the world `w` before any request has arrived. -/
def Server.start {ι : Type} (env : Env) (users : IUserRepository) (reqs : ι → Request)
    (w : World) : Server ι :=
  Pool.start w fun i ↦ serve env users (reqs i)

/-- The server `q` comes out of `p` by turns that each satisfy `ok`. -/
abbrev Server.Reaches {ι : Type} [DecidableEq ι] (env : Env)
    (ok : Server ι → ServerTurn ι → Prop) (p q : Server ι) : Prop :=
  Pool.Reaches (exec env) World.pass ok p q

/-- Nothing is asked of the turns. -/
def anyTurn {ι : Type} (_ : Server ι) (_ : ServerTurn ι) : Prop := True

/-- No call fails by itself. -/
def noFault {ι : Type} (_ : Server ι) : ServerTurn ι → Prop
  | .fail _ _ => False
  | _ => True

instance {ι : Type} (q : Server ι) : (t : ServerTurn ι) → Decidable (noFault q t)
  | .act _ => isTrue trivial
  | .fail _ _ => isFalse not_false
  | .pass _ => isTrue trivial

/-! ### A small deployment

One key, no roles, and stand-ins for the hash functions that keep apart what is hashed here. -/

namespace Sample

/-- A digest that shows what was hashed: the identifier of a signed token, or the string. -/
def sha256 : Text → Text
  | .plain s => .plain ("sha256-" ++ s)
  | .unreadable s => .plain ("sha256-unreadable-" ++ s)
  | .null _ _ => .plain "sha256-null"
  | .jws t =>
    match t.claims.jti with
    | .str jti => .plain ("sha256-jws-" ++ jti)
    | _ => .plain "sha256-jws"

/-- Identifiers of growing length. -/
def uuid (n : Nat) : String := String.ofList (List.replicate (n + 1) 'u')

/-- Identifiers differ in their lengths. -/
theorem uuid_injective : Function.Injective uuid := by
  intro m n h
  have h : (uuid m).length = (uuid n).length := congrArg String.length h
  simpa [uuid] using h

/-- The hash of a password after its salt. -/
def argon2Hash (salt : Nat) (password : String) : String :=
  String.ofList ('$' :: List.replicate salt 's' ++ '$' :: password.toList)

/-- The check of a hash that `argon2Hash` made; other strings are malformed. -/
def argon2Verify (pchstr plaintext : String) : Option Bool :=
  match pchstr.toList with
  | '$' :: rest => some (rest.dropWhile (· = 's') = '$' :: plaintext.toList)
  | _ => none

/-- The deployment. -/
def env : Env where
  config :=
    { accessExpiration := .minutes 15
      refreshExpiration := .days 7
      issuer := "bankos:identity"
      audience := "bankos:gateway"
      pepper := none }
  gateway :=
    { jwtSecret := "a gateway secret of more than 32 characters"
      jwtIssuer := "bankos-identity"
      jwtAudience := "bankos-gateway" }
  keyManager :=
    { keys := fun kid ↦ if kid = "key-1" then some ⟨"public", some "private"⟩ else none
      activeKeyId := "key-1"
      activeKey := ⟨"public", some "private"⟩
      activePrivateKey := "private"
      getKey_active := rfl
      private_active := rfl }
  conversions := ⟨fun _ ↦ none, fun _ ↦ "0"⟩
  trim := id
  toLowerCase := id
  parseUuid := some
  sha256 := sha256
  uuid := uuid
  uuid_injective := uuid_injective
  parseUuid_uuid _ := rfl
  randomHex length n := String.ofList ('x' :: List.replicate (length + n) 'f')
  publicKeyOf privateKey := if privateKey = "private" then "public" else ""
  argon2Hash := argon2Hash
  argon2Verify := argon2Verify

/-- The stored user. -/
def alice : UserRow :=
  { id := "alice"
    email := "alice@bank.example"
    passwordHash := argon2Hash 1 "Correct-horse-1"
    isLocked := false
    failedLoginAttempts := 0
    emailVerified := false }

/-- The world in which `alice` has registered and nobody has logged in. -/
def registered : World := { users := .single alice, now := 1000000 }

/-- The login of `alice`. -/
def login : LoginRequest := ⟨"alice@bank.example", "Correct-horse-1", "10.0.0.1", "browser"⟩

/-- The login of `alice`, alone. -/
def loginRun : Except JsError LoginResponse × World :=
  (LoginService.execute env PrismaUserRepository login).run (exec env) registered

/-- The world in which `alice` has logged in. -/
def loggedIn : World := loginRun.2

/-- The tokens of that login. -/
def tokens : LoginResponse := loginRun.1.toOption.getD ⟨.plain "", .plain ""⟩

end Sample
end Bankos
