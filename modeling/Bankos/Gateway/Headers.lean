import Bankos.Tokens.Agreement

/-!
# Identity headers at the gateway

`gateway/src/middlewares/security.ts` strips the identity headers that a client has sent,
`gateway/src/middlewares/auth.ts` writes those of the token. The first deletes a header only if
its value is truthy, the second writes some of the six only. So an empty value gets through
wherever nothing is written over it, and nothing else does.
-/

namespace Bankos

open Js Jwt Effects Prog

/-- `req.headers`: the value of each header that is present, under its name in lower case. -/
abbrev Headers := String → Option String

namespace Headers

/-- `headers[name]` is truthy. -/
def holds (headers : Headers) (name : String) : Bool :=
  match headers name with
  | none => false
  | some value => decide (value ≠ "")

/-- `delete headers[name]`. -/
def delete (headers : Headers) (name : String) : Headers := fun key ↦
  if key = name then none else headers key

/-- `headers[name] = value`. -/
def set (headers : Headers) (name value : String) : Headers := fun key ↦
  if key = name then some value else headers key

/-- `headers[name] = value`, if there is a value. -/
def setIfSome (headers : Headers) (name : String) : Option String → Headers
  | none => headers
  | some value => headers.set name value

/-- A header that is set, and every other one. -/
theorem set_apply (headers : Headers) (name value key : String) :
    headers.set name value key = if key = name then some value else headers key := rfl

/-- A header that is set if there is a value, and every other one. -/
theorem setIfSome_apply (headers : Headers) (name : String) (value : Option String)
    (key : String) :
    headers.setIfSome name value key = if key = name then value.or (headers key)
      else headers key := by
  cases value with
  | none => simp [setIfSome]
  | some value => simp [setIfSome, set_apply]

end Headers

namespace Gateway

/-- `security.ts:30–37`. -/
def DISALLOWED_HEADERS : List String :=
  ["x-user-id", "x-user-role", "x-user-email", "x-user-roles", "x-authenticated-user",
    "x-forwarded-user"]

/-- `security.ts:39–46`. -/
def sanitizeHeadersMiddleware (headers : Headers) : Headers :=
  DISALLOWED_HEADERS.foldl
    (fun headers header ↦ if headers.holds header then headers.delete header else headers) headers

/-- What `auth.ts:61–65` makes of the headers, or nothing if the request was answered. -/
def inject (headers : Headers) : GatewayVerdict → Option Headers
  | .next xUserId xUserRoles =>
    some (((headers.setIfSome "x-user-id" xUserId).setIfSome "x-user-roles" xUserRoles).set
      "x-authenticated-user" "true")
  | .unauthorized _ => none
  | .internalServerError _ => none

/-- What the two middlewares read of a request. -/
structure Incoming where
  authorization : Option (List Text)
  headers : Headers

/-- The two middlewares in the order of `app.ts:45–56`: the headers that go on to the proxy. -/
def protect (env : Env) (req : Incoming) : Program (Option Headers) := do
  let headers := sanitizeHeadersMiddleware req.headers
  let verdict ← authMiddleware env req.authorization
  pure (inject headers verdict)

/-- The payload has a truthy user: its `sub`, if that is a string, or else its `userId`. -/
def namesUser (decoded : Claims) : Bool :=
  match decoded.sub with
  | .str s => decide (s ≠ "")
  | _ => decoded.userId.truthy

/-- The roles of the payload are an array, or they are falsy and an empty array stands for them. -/
def listsRoles (decoded : Claims) : Bool :=
  match decoded.roles with
  | .array _ => true
  | roles => !roles.truthy

/-- The identity headers that `auth.ts` does not write for the payload: three of them never, the
user and the roles where the payload has none. -/
def unwritten (decoded : Claims) : List String :=
  ["x-user-role", "x-user-email", "x-forwarded-user"] ++
    (if namesUser decoded then [] else ["x-user-id"]) ++
    (if listsRoles decoded then [] else ["x-user-roles"])

variable {env : Env} {req : Incoming} {headers : Headers} {w : World} {claims : Claims}

/-! ### What is stripped -/

/-- A header is deleted if its name is on the list and its value is not empty. -/
theorem strip_apply (names : List String) (headers : Headers) (key : String) :
    names.foldl (fun headers header ↦
        if headers.holds header then headers.delete header else headers) headers key =
      if key ∈ names ∧ headers.holds key = true then none else headers key := by
  induction names generalizing headers with
  | nil => simp
  | cons name names ih =>
    rw [List.foldl_cons, ih]
    by_cases hholds : headers.holds name = true
    · rw [if_pos hholds]
      by_cases hkey : key = name
      · subst hkey
        simp [Headers.delete, hholds]
      · have hsame : (headers.delete name).holds key = headers.holds key := by
          unfold Headers.holds Headers.delete
          rw [if_neg hkey]
        rw [hsame]
        simp [Headers.delete, hkey]
    · rw [if_neg hholds]
      by_cases hkey : key = name
      · subst hkey
        simp [hholds]
      · simp [hkey]

/-- Of an identity header an empty value stays, and nothing else. -/
theorem sanitizeHeadersMiddleware_of_mem {key : String} (h : key ∈ DISALLOWED_HEADERS) :
    sanitizeHeadersMiddleware headers key = if headers key = some "" then some "" else none := by
  unfold sanitizeHeadersMiddleware
  rw [strip_apply]
  unfold Headers.holds
  cases hvalue : headers key with
  | none => simp
  | some value => by_cases hempty : value = "" <;> simp [h, hempty]

/-- A header that names nobody passes. -/
theorem sanitizeHeadersMiddleware_of_not_mem {key : String} (h : key ∉ DISALLOWED_HEADERS) :
    sanitizeHeadersMiddleware headers key = headers key := by
  unfold sanitizeHeadersMiddleware
  rw [strip_apply, if_neg fun hmem ↦ h hmem.1]

/-! ### What is written -/

/-- The gateway passes a request on with the headers of the payload written over the others. -/
theorem protect_ok {headers' : Headers}
    (h : ((protect env req).run (exec env) w).1 = .ok (some headers')) :
    ∃ token claims, bearerToken req.authorization = .ok token ∧ decode token = some claims ∧
      inject (sanitizeHeadersMiddleware req.headers)
        (.next (userIdHeader env claims) (rolesHeader claims)) = some headers' := by
  unfold protect authMiddleware at h
  cases hbearer : bearerToken req.authorization with
  | error message =>
    rw [hbearer] at h
    cases h
  | ok token =>
    rw [hbearer] at h
    dsimp only at h
    rw [run_bind, run_bind, run_now] at h
    dsimp only at h
    cases hverify : verifyAt env token w.now with
    | error e =>
      rw [hverify] at h
      cases e <;> cases h
    | ok claims =>
      rw [hverify] at h
      refine ⟨token, claims, rfl, ?_, by injection h⟩
      obtain ⟨t, rfl, hclaims, -⟩ := Jwt.verify_ok hverify
      exact congrArg some hclaims

/-- What `auth.ts` has written under the name, if anything. -/
def written (env : Env) (decoded : Claims) (name : String) : Option String :=
  if name = "x-authenticated-user" then some "true"
  else if name = "x-user-roles" then rolesHeader decoded
  else if name = "x-user-id" then userIdHeader env decoded
  else none

/-- A header that goes on to the proxy is the one written, or else the one that came. -/
theorem inject_apply {headers' : Headers}
    (h : inject headers (.next (userIdHeader env claims) (rolesHeader claims)) = some headers')
    (name : String) : headers' name = (written env claims name).or (headers name) := by
  cases h
  unfold written
  rw [Headers.set_apply, Headers.setIfSome_apply, Headers.setIfSome_apply]
  by_cases hauthenticated : name = "x-authenticated-user"
  · rw [if_pos hauthenticated, if_pos hauthenticated]
    rfl
  · rw [if_neg hauthenticated, if_neg hauthenticated]
    by_cases hroles : name = "x-user-roles"
    · rw [if_pos hroles, if_pos hroles, if_neg (by simp [hroles])]
    · rw [if_neg hroles, if_neg hroles]
      by_cases huser : name = "x-user-id"
      · rw [if_pos huser, if_pos huser]
      · rw [if_neg huser, if_neg huser]
        rfl

/-- `x-user-id` is written for a payload with a user. -/
theorem isSome_userIdHeader : (userIdHeader env claims).isSome = namesUser claims := by
  unfold userIdHeader namesUser
  dsimp only
  cases claims.sub with
  | str s => by_cases hempty : s = "" <;> simp [Value.truthy, hempty]
  | _ => cases claims.userId.truthy <;> rfl

/-- `x-user-roles` is written for a payload with an array of roles or without roles. -/
theorem isSome_rolesHeader : (rolesHeader claims).isSome = listsRoles claims := by
  unfold rolesHeader listsRoles PolicyEngine.orEmpty
  cases htruthy : claims.roles.truthy with
  | true =>
    rw [if_pos rfl]
    revert htruthy
    cases claims.roles with
    | array xs => exact fun _ ↦ rfl
    | _ => exact fun htruthy ↦ by simp [htruthy]
  | false =>
    rw [if_neg Bool.false_ne_true]
    revert htruthy
    cases claims.roles with
    | array xs => exact fun _ ↦ rfl
    | _ => exact fun htruthy ↦ by simp [htruthy]

/-- The identity headers that are not written. -/
theorem mem_unwritten {name : String} :
    name ∈ unwritten claims ↔ name ∈ DISALLOWED_HEADERS ∧ written env claims name = none := by
  have huser : (userIdHeader env claims).isSome = namesUser claims := isSome_userIdHeader
  have hroles : (rolesHeader claims).isSome = listsRoles claims := isSome_rolesHeader
  unfold unwritten written DISALLOWED_HEADERS
  rw [← huser, ← hroles]
  cases userIdHeader env claims <;> cases rolesHeader claims <;> simp <;> grind

/-! ### Two requests with one token -/

/-- The identity header that goes on is the one written, or else an empty one that came. -/
theorem protect_identity {headers' : Headers} {token : Text} {name : String}
    (h : ((protect env req).run (exec env) w).1 = .ok (some headers'))
    (htoken : bearerToken req.authorization = .ok token) (hclaims : decode token = some claims)
    (hname : name ∈ DISALLOWED_HEADERS) :
    headers' name =
      (written env claims name).or (if req.headers name = some "" then some "" else none) := by
  obtain ⟨token', claims', htoken', hclaims', hinject⟩ := protect_ok h
  rw [htoken'] at htoken
  cases htoken
  rw [hclaims'] at hclaims
  cases hclaims
  rw [inject_apply hinject, sanitizeHeadersMiddleware_of_mem hname]

end Gateway

open Gateway

/-- Two admitted requests with one token go on with the same identity headers if and only if each
header that the gateway does not write for the payload has come empty in both or in neither. -/
theorem identity_headers_agree_iff (env : Env) (req₁ req₂ : Incoming) (w₁ w₂ : World)
    (token : Text) (claims : Claims) (headers₁ headers₂ : Headers)
    (hsame : req₁.authorization = req₂.authorization)
    (htoken : bearerToken req₁.authorization = .ok token) (hclaims : decode token = some claims)
    (h₁ : ((protect env req₁).run (exec env) w₁).1 = .ok (some headers₁))
    (h₂ : ((protect env req₂).run (exec env) w₂).1 = .ok (some headers₂)) :
    (∀ name ∈ DISALLOWED_HEADERS, headers₁ name = headers₂ name) ↔
      ∀ name ∈ unwritten claims,
        (req₁.headers name = some "" ↔ req₂.headers name = some "") := by
  have htoken₂ : bearerToken req₂.authorization = .ok token := by rw [← hsame, htoken]
  constructor
  · intro hagree name hname
    obtain ⟨hdisallowed, hunwritten⟩ := mem_unwritten.mp hname
    have heq := hagree name hdisallowed
    rw [protect_identity h₁ htoken hclaims hdisallowed,
      protect_identity h₂ htoken₂ hclaims hdisallowed, hunwritten] at heq
    by_cases hempty₁ : req₁.headers name = some "" <;>
      by_cases hempty₂ : req₂.headers name = some "" <;> simp_all
  · intro hagree name hdisallowed
    rw [protect_identity h₁ htoken hclaims hdisallowed,
      protect_identity h₂ htoken₂ hclaims hdisallowed]
    cases hwritten : written env claims name with
    | some value => rfl
    | none => simp only [hagree name (mem_unwritten.mpr ⟨hdisallowed, hwritten⟩)]

namespace Sample

/-- The payload of a token for `alice`. -/
def gatewayClaims : Claims :=
  { sub := .str "alice", iss := .str "bankos-identity", aud := .str "bankos-gateway" }

/-- The token with this payload, under the secret of the gateway. -/
def gatewayToken : Text :=
  .jws ⟨⟨"HS256", none⟩, gatewayClaims, .hs256 "a gateway secret of more than 32 characters"⟩

/-- A request of `alice` with one more header. -/
def aliceSends (name value : String) : Incoming :=
  ⟨some [.plain "Bearer", gatewayToken], Headers.set (fun _ ↦ none) name value⟩

/-- The headers with which that request goes on to the proxy. -/
def passedOn (name value : String) : Headers :=
  match ((protect env (aliceSends name value)).run (exec env) registered).1 with
  | .ok (some headers) => headers
  | _ => fun _ ↦ none

end Sample

/-- The case of a client that sends an empty `x-user-role`, and of one that sends a role. -/
theorem identity_headers_agree_iff_alice :
    (∀ name ∈ DISALLOWED_HEADERS,
        Sample.passedOn "x-user-role" "" name = Sample.passedOn "x-user-role" "admin" name) ↔
      ∀ name ∈ unwritten Sample.gatewayClaims,
        ((Sample.aliceSends "x-user-role" "").headers name = some "" ↔
          (Sample.aliceSends "x-user-role" "admin").headers name = some "") :=
  identity_headers_agree_iff Sample.env (Sample.aliceSends "x-user-role" "")
    (Sample.aliceSends "x-user-role" "admin") Sample.registered Sample.registered
    Sample.gatewayToken Sample.gatewayClaims _ _ rfl rfl rfl rfl rfl

/-- An empty `x-user-role` of the client goes on to the proxy. -/
theorem identity_headers_kept_empty :
    ¬ ∀ (env : Env) (req₁ req₂ : Incoming) (w : World) (headers₁ headers₂ : Headers),
      req₁.authorization = req₂.authorization →
      (∀ name, name ∉ DISALLOWED_HEADERS → req₁.headers name = req₂.headers name) →
      ((protect env req₁).run (exec env) w).1 = .ok (some headers₁) →
      ((protect env req₂).run (exec env) w).1 = .ok (some headers₂) →
        ∀ name ∈ DISALLOWED_HEADERS, headers₁ name = headers₂ name := by
  intro h
  have hagree := h Sample.env (Sample.aliceSends "x-user-role" "")
    (Sample.aliceSends "x-user-role" "admin") Sample.registered _ _ rfl ?_ rfl rfl
    "x-user-role" (by decide)
  · revert hagree
    decide
  · intro name hname
    have hne : name ≠ "x-user-role" := by
      rintro rfl
      exact hname (by decide)
    simp [Sample.aliceSends, Headers.set_apply, hne]

end Bankos
