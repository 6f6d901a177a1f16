import Bankos.Base.Middleware
import Bankos.Gateway.Headers

/-!
# Exchanges

What the middlewares of `identity/src/middlewares` and of `gateway/src/middlewares` share: the
error on its way to the error handler, the check of origins, and the correlation identifier.
-/

namespace Bankos

/-- What the error handlers read of an error. -/
structure HttpError where
  message : String
  type : Option String := none
  status : Option Nat := none
  deriving DecidableEq, Repr

/-- The methods of `security.ts:45` of the identity service and `security.ts:49` of the gateway. -/
def ALLOWED_METHODS : List String := ["GET", "POST", "PUT", "PATCH", "DELETE", "OPTIONS"]

/-- The methods whose content type is checked. -/
def METHODS_WITH_BODY : List String := ["POST", "PUT", "PATCH"]

/-- The `origin` option of `corsMiddleware`: a missing or empty origin passes. -/
def originAllowed (allowedOrigins : List String) (origin : Option String) : Bool :=
  match origin with
  | none => true
  | some o => decide (o = "") || allowedOrigins.contains o || allowedOrigins.contains "*"

/-! ### Correlation identifiers -/

/-- A hexadecimal digit, in either case. -/
def isHexDigit (c : Char) : Bool :=
  c.isDigit || decide ('a' ≤ c ∧ c ≤ 'f') || decide ('A' ≤ c ∧ c ≤ 'F')

/-- The characters that `UUIDV4_REGEX` of `correlationId.ts` asks for, one after the other. -/
def UUIDV4_REGEX : List (Char → Bool) :=
  let hex (n : Nat) := List.replicate n isHexDigit
  let only (c : Char) : List (Char → Bool) := [fun d ↦ decide (d = c)]
  hex 8 ++ only '-' ++ hex 4 ++ only '-' ++ only '4' ++ hex 3 ++ only '-' ++
    [fun d ↦ "89abAB".toList.contains d] ++ hex 3 ++ only '-' ++ hex 12

/-- The characters satisfy the tests in order, and there are as many of them. -/
def matchesAll : List (Char → Bool) → List Char → Bool
  | [], [] => true
  | test :: tests, c :: cs => test c && matchesAll tests cs
  | _, _ => false

/-- `UUIDV4_REGEX.test(s)`. -/
def isUuidV4 (s : String) : Bool := matchesAll UUIDV4_REGEX s.toList

/-- `correlationId.ts:9–11` of the identity service and `correlationId.ts:10–12` of the gateway:
the identifier that came, or else a fresh one. -/
def correlationId (header : Option String) (fresh : String) : String :=
  match header with
  | some s => if isUuidV4 s then s else fresh
  | none => fresh

/-- An identifier that came is a UUID of version 4 if the fresh one is. -/
theorem isUuidV4_correlationId {fresh : String} (h : isUuidV4 fresh = true)
    (header : Option String) : isUuidV4 (correlationId header fresh) = true := by
  unfold correlationId
  split
  · next s =>
    by_cases hs : isUuidV4 s = true
    · rw [if_pos hs]
      exact hs
    · rw [if_neg hs]
      exact h
  · exact h

/-- A correlation identifier that is passed on is taken over. -/
theorem correlationId_of_isUuidV4 {s : String} (h : isUuidV4 s = true) (fresh : String) :
    correlationId (some s) fresh = s := if_pos h

end Bankos
