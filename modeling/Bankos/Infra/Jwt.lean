import Bankos.Base.Js

/-!
# Compact tokens and their signatures

Tokens travel as strings. `Text` is a string as the JWT library sees it: a compact JWS, with
its header, its claims and its signature, or a string that does not parse as one. A JWS of type
`JWT` has to carry JSON: the library throws over any other payload, and trips over `null`. Two
strings are the same exactly when the library sees the same, so strings are compared here.
Signatures are ideal: a signature carries the key that made it, and a string whose
signature was not made by a key carries other bytes.
`sign`, `decode` and `verify` are the parts of `jsonwebtoken` that the services call.
-/

namespace Bankos.Jwt

open Js

/-- The header fields that the services read or write. -/
structure Header where
  alg : String
  kid : Option String
  deriving DecidableEq, Repr

/-- The claims that the services read or write; an absent claim is `undefined`.
A payload that is neither an object nor `null` has no claims. -/
structure Claims where
  sub : Value := .undefined
  jti : Value := .undefined
  iss : Value := .undefined
  aud : Value := .undefined
  iat : Value := .undefined
  exp : Value := .undefined
  nbf : Value := .undefined
  sessionId : Value := .undefined
  roles : Value := .undefined
  permissions : Value := .undefined
  tokenVersion : Value := .undefined
  tenantId : Value := .undefined
  userId : Value := .undefined
  deriving DecidableEq, Repr

/-- What stands in the signature part. -/
inductive Signature where
  | rs256 (privateKey : String)
  | hs256 (secret : String)
  | other (bytes : String)
  deriving DecidableEq, Repr

/-- The three parts of a compact JWS. -/
structure Jws where
  header : Header
  claims : Claims
  signature : Signature
  deriving DecidableEq, Repr

/-- A string, seen through the JWT library: `unreadable` is of type `JWT` with a payload that is not
JSON, `null` is of type `JWT` with the payload `null`. -/
inductive Text where
  | plain (s : String)
  | unreadable (s : String)
  | null (header : Header) (signature : Signature)
  | jws (t : Jws)
  deriving DecidableEq, Repr

/-- The empty string is the only falsy one. -/
def Text.truthy : Text → Bool
  | .plain s => decide (s ≠ "")
  | .unreadable _ => true
  | .null _ _ => true
  | .jws _ => true

/-- Why a token was refused: an error of the library's own two classes, or another one, by the name
of its class. -/
inductive JwtError where
  | tokenExpired
  | jsonWebToken (message : String)
  | other (name : String)
  deriving DecidableEq, Repr

/-- The options that `JwtTokenService.sign` passes to `jwt.sign`. -/
structure SignOptions where
  keyid : String
  expiresIn : Nat
  issuer : String
  audience : String
  subject : Value
  jwtid : String

/-- `jwt.sign` with algorithm RS256 at the time `now` in milliseconds. The subject has to be a
string; `exp` counts seconds from `iat`. -/
def sign (payload : Claims) (privateKey : String) (o : SignOptions) (now : Nat) :
    Except JwtError Text :=
  match o.subject with
  | .str _ =>
    let iat := now / 1000
    .ok (.jws
      { header := ⟨"RS256", some o.keyid⟩
        claims := { payload with
          sub := o.subject
          jti := .str o.jwtid
          iss := .str o.issuer
          aud := .str o.audience
          iat := .num (iat : Nat)
          exp := .num ((iat + o.expiresIn : Nat) : Rat) }
        signature := .rs256 privateKey })
  | _ => .error (.other "Error")

/-- `jwt.decode`: the claims of whatever parses, without any check. Over an unreadable payload it
throws; `LogoutService.ts:23–28` and `41–46`, which decode what a client has sent, take that for
nothing. -/
def decode : Text → Option Claims
  | .plain _ => none
  | .unreadable _ => none
  | .null _ _ => none
  | .jws t => some t.claims

/-- The options of `jwt.verify`. -/
structure VerifyOptions where
  algorithms : List String
  issuer : String
  audience : String

/-- The signature was made with the key that belongs to `key`. -/
def validSignature (publicKeyOf : String → String) (t : Jws) (key : String) : Bool :=
  match t.header.alg, t.signature with
  | "RS256", .rs256 privateKey => decide (publicKeyOf privateKey = key)
  | "HS256", .hs256 secret => decide (secret = key)
  | _, _ => false

/-- The `nbf` check: an absent claim passes, a present one must be a number that has come. -/
def notBefore (claims : Claims) (clockTimestamp : Nat) : Except JwtError Unit :=
  match claims.nbf with
  | .undefined => .ok ()
  | .num q => if (clockTimestamp : Rat) < q then .error (.jsonWebToken "jwt not active") else .ok ()
  | _ => .error (.jsonWebToken "invalid nbf value")

/-- The `exp` check: an absent claim passes, a present one must be a number still to come. -/
def notExpired (claims : Claims) (clockTimestamp : Nat) : Except JwtError Unit :=
  match claims.exp with
  | .undefined => .ok ()
  | .num q => if q ≤ (clockTimestamp : Rat) then .error .tokenExpired else .ok ()
  | _ => .error (.jsonWebToken "invalid exp value")

/-- The `aud` check; an empty option asks for nothing. -/
def audienceMatches (claims : Claims) (audience : String) : Bool :=
  audience = "" ||
    match claims.aud with
    | .array xs => xs.contains (.str audience)
    | v => v = .str audience

/-- The `iss` check; an empty option asks for nothing. -/
def issuerMatches (claims : Claims) (issuer : String) : Bool :=
  issuer = "" || claims.iss = .str issuer

/-- `jwt.verify` at the time `now` in milliseconds, its checks in the order of the library. -/
def verify (publicKeyOf : String → String) (token : Text) (key : String) (o : VerifyOptions)
    (now : Nat) : Except JwtError Claims :=
  match token with
  | .plain _ => .error (.jsonWebToken "jwt malformed")
  | .unreadable _ => .error (.other "SyntaxError")
  | .null header signature =>
    if o.algorithms.contains header.alg = false then
      .error (.jsonWebToken "invalid algorithm")
    else if validSignature publicKeyOf ⟨header, {}, signature⟩ key = false then
      .error (.jsonWebToken "invalid signature")
    -- the claims are read before the payload is looked at
    else .error (.other "TypeError")
  | .jws t =>
    if o.algorithms.contains t.header.alg = false then
      .error (.jsonWebToken "invalid algorithm")
    else if validSignature publicKeyOf t key = false then
      .error (.jsonWebToken "invalid signature")
    else do
      notBefore t.claims (now / 1000)
      notExpired t.claims (now / 1000)
      if audienceMatches t.claims o.audience = false then
        .error (.jsonWebToken "jwt audience invalid")
      else if issuerMatches t.claims o.issuer = false then
        .error (.jsonWebToken "jwt issuer invalid")
      else .ok t.claims

/-- A token that does not say from when it is valid is valid. -/
theorem notBefore_undefined {claims : Claims} (h : claims.nbf = .undefined)
    (clockTimestamp : Nat) : notBefore claims clockTimestamp = .ok () := by
  unfold notBefore
  rw [h]

/-- A token lives up to the second of its end. -/
theorem notExpired_num_iff {claims : Claims} {seconds clockTimestamp : Nat}
    (h : claims.exp = .num ((seconds : Nat) : Rat)) :
    notExpired claims clockTimestamp = .ok () ↔ clockTimestamp < seconds := by
  unfold notExpired
  rw [h, ← not_le]
  dsimp only
  constructor
  · intro hok hle
    rw [if_pos (by exact_mod_cast hle)] at hok
    cases hok
  · intro hlt
    rw [if_neg (by exact_mod_cast hlt)]

/-- A token for one audience meets the option that names it, or none. -/
theorem audienceMatches_str_iff {claims : Claims} {aud audience : String}
    (h : claims.aud = .str aud) :
    audienceMatches claims audience = true ↔ audience = "" ∨ audience = aud := by
  unfold audienceMatches
  rw [h, Bool.or_eq_true, decide_eq_true_eq]
  dsimp only
  rw [decide_eq_true_eq, Value.str.injEq, eq_comm (b := audience)]

/-- A token of an issuer meets the option that names it, or none. -/
theorem issuerMatches_str_iff {claims : Claims} {iss issuer : String}
    (h : claims.iss = .str iss) :
    issuerMatches claims issuer = true ↔ issuer = "" ∨ issuer = iss := by
  unfold issuerMatches
  rw [h, Bool.or_eq_true, decide_eq_true_eq, decide_eq_true_eq, Value.str.injEq,
    eq_comm (b := issuer)]

/-- What decodes from a signed token is what was signed. -/
theorem decode_sign {payload : Claims} {privateKey : String} {o : SignOptions} {now : Nat}
    {token : Text} (h : sign payload privateKey o now = .ok token) :
    decode token = some { payload with
      sub := o.subject
      jti := .str o.jwtid
      iss := .str o.issuer
      aud := .str o.audience
      iat := .num (now / 1000 : Nat)
      exp := .num ((now / 1000 + o.expiresIn : Nat) : Rat) } := by
  unfold sign at h
  split at h
  · cases h
    rfl
  · cases h

/-- A token is accepted when it passes each of the checks, and its claims are returned. -/
theorem verify_jws_iff {publicKeyOf : String → String} {t : Jws} {key : String}
    {o : VerifyOptions} {now : Nat} {claims : Claims} :
    verify publicKeyOf (.jws t) key o now = .ok claims ↔
      t.claims = claims ∧ t.header.alg ∈ o.algorithms ∧ validSignature publicKeyOf t key = true ∧
        notBefore t.claims (now / 1000) = .ok () ∧ notExpired t.claims (now / 1000) = .ok () ∧
        audienceMatches t.claims o.audience = true ∧ issuerMatches t.claims o.issuer = true := by
  unfold verify
  dsimp only
  by_cases halg : t.header.alg ∈ o.algorithms
  · rw [if_neg (by simpa using halg)]
    by_cases hsig : validSignature publicKeyOf t key = true
    · rw [if_neg (by simp [hsig])]
      cases hnbf : notBefore t.claims (now / 1000) with
      | error e => simp [bind, Except.bind]
      | ok u =>
        cases hexp : notExpired t.claims (now / 1000) with
        | error e => simp [bind, Except.bind]
        | ok u' =>
          simp only [bind, Except.bind]
          cases haud : audienceMatches t.claims o.audience <;>
            cases hiss : issuerMatches t.claims o.issuer <;> simp [halg, hsig]
    · rw [if_pos (by simpa using hsig)]
      simp [hsig]
  · rw [if_pos (by simpa using halg)]
    simp [halg]

/-- A payload of `null` is never accepted. -/
theorem verify_null {publicKeyOf : String → String} {header : Header} {signature : Signature}
    {key : String} {o : VerifyOptions} {now : Nat} {claims : Claims} :
    verify publicKeyOf (.null header signature) key o now ≠ .ok claims := by
  intro h
  unfold verify at h
  dsimp only at h
  split_ifs at h

/-- An accepted token carries the claims that were returned, and its signature was made with
the key that was asked for. -/
theorem verify_ok {publicKeyOf : String → String} {token : Text} {key : String}
    {o : VerifyOptions} {now : Nat} {claims : Claims}
    (h : verify publicKeyOf token key o now = .ok claims) :
    ∃ t, token = .jws t ∧ t.claims = claims ∧ t.header.alg ∈ o.algorithms ∧
      validSignature publicKeyOf t key = true := by
  cases token with
  | plain s => cases h
  | unreadable s => cases h
  | null header signature => exact absurd h verify_null
  | jws t =>
    obtain ⟨hclaims, halg, hsig, -⟩ := verify_jws_iff.mp h
    exact ⟨t, rfl, hclaims, halg, hsig⟩

/-- An accepted token has not expired. -/
theorem notExpired_of_verify {publicKeyOf : String → String} {token : Text} {key : String}
    {o : VerifyOptions} {now : Nat} {claims : Claims}
    (h : verify publicKeyOf token key o now = .ok claims) :
    notExpired claims (now / 1000) = .ok () := by
  obtain ⟨t, rfl, -⟩ := verify_ok h
  obtain ⟨rfl, -, -, -, hexp, -⟩ := verify_jws_iff.mp h
  exact hexp

/-- The token has an end, and its second has come. -/
def Claims.Expired (claims : Claims) (now : Nat) : Prop :=
  ∃ exp, claims.exp = .num exp ∧ exp ≤ ((now / 1000 : Nat) : Rat)

/-- A token that is accepted has not come to its end. -/
theorem not_expired_of_verify {publicKeyOf : String → String} {token : Text} {key : String}
    {o : VerifyOptions} {now : Nat} {claims : Claims}
    (h : verify publicKeyOf token key o now = .ok claims) : ¬ claims.Expired now := by
  rintro ⟨exp, hexp, hle⟩
  have hlives := notExpired_of_verify h
  unfold notExpired at hlives
  rw [hexp] at hlives
  dsimp only at hlives
  rw [if_pos hle] at hlives
  cases hlives

/-- A token that is accepted at one time, and has not come to its end by another, is accepted at
the later one. -/
theorem verify_max {publicKeyOf : String → String} {token : Text} {key : String}
    {o : VerifyOptions} {t now : Nat} {claims : Claims}
    (h : verify publicKeyOf token key o t = .ok claims) (hlives : ¬ claims.Expired now) :
    verify publicKeyOf token key o (max t now) = .ok claims := by
  rcases Nat.le_total now t with hle | hle
  · rw [Nat.max_eq_left hle]
    exact h
  · rw [Nat.max_eq_right hle]
    have hseconds : ((t / 1000 : Nat) : Rat) ≤ ((now / 1000 : Nat) : Rat) := by
      exact_mod_cast Nat.div_le_div_right hle
    obtain ⟨jws, rfl, -⟩ := verify_ok h
    obtain ⟨rfl, halg, hsig, hnbf, hexp, haud, hiss⟩ := verify_jws_iff.mp h
    refine verify_jws_iff.mpr ⟨rfl, halg, hsig, ?_, ?_, haud, hiss⟩
    · unfold notBefore at hnbf ⊢
      cases hclaim : jws.claims.nbf with
      | undefined => rfl
      | num q =>
        rw [hclaim] at hnbf
        dsimp only at hnbf ⊢
        by_cases hstart : ((t / 1000 : Nat) : Rat) < q
        · rw [if_pos hstart] at hnbf
          cases hnbf
        · have hstarted : q ≤ ((now / 1000 : Nat) : Rat) :=
            Rat.le_trans (Rat.not_lt.mp hstart) hseconds
          exact if_neg (Rat.not_lt.mpr hstarted)
      | _ =>
        rw [hclaim] at hnbf
        cases hnbf
    · unfold notExpired at hexp ⊢
      cases hclaim : jws.claims.exp with
      | undefined => rfl
      | num q => exact if_neg fun hend ↦ hlives ⟨q, hclaim, hend⟩
      | _ =>
        rw [hclaim] at hexp
        cases hexp

end Bankos.Jwt
