import Bankos.Auth.Alone
import Bankos.Auth.Guards

/-!
# Chains of guards

The guards of a route run one after the other, and each of them overwrites `req.user`. One of the
four reads the token of the body before that of the header, the others read the header alone.
-/

namespace Bankos

open Js Jwt Effects Prog

/-- What comes out of the guards of a route: the handler behind them with `req.user`, or the answer
of one of them. -/
inductive Passage where
  | handler (user : Option Claims)
  | answered
  deriving DecidableEq, Repr

/-- The guards of a route, each called by the `next` of the one before it. -/
def guardChain (env : Env) (dispatcher : List DomainEvent → Program Unit) (req : HttpRequest) :
    List RequireAuth → Option Claims → Program Passage
  | [], user => pure (.handler user)
  | guard :: guards, _ => do
    match ← guard.guard.handle env dispatcher req with
    | .next payload => guardChain env dispatcher req guards (some payload)
    | _ => pure .answered

/-- A guard admits the request at the time `t` with the claims of the token it reads. -/
def RequireAuth.Admits (env : Env) (req : HttpRequest) (t : Nat) (guard : RequireAuth)
    (payload : Claims) : Prop :=
  ∃ token, guard.guard.token req = some token ∧
    JwtTokenService.verifyAt env token t = .ok payload ∧ guard.guard.policy payload = .ok true

/-- The request presents the token in its body or in its header. -/
def HttpRequest.Presents (req : HttpRequest) (token : Text) : Prop :=
  req.bodyToken = some token ∨ req.headerToken = some token

/-- One presented token is behind the whole chain: its claims satisfy the policy of every guard, and
they are what is left in `req.user`. -/
def OneIdentity (env : Env) (req : HttpRequest) (guards : List RequireAuth)
    (user : Option Claims) : Prop :=
  ∃ token payload, req.Presents token ∧ (∃ t, JwtTokenService.verifyAt env token t = .ok payload) ∧
    (∀ guard ∈ guards, guard.guard.policy payload = .ok true) ∧ user = some payload

/-- Every guard of the chain admits the request when its turn comes. -/
def ChainAdmits (env : Env) (req : HttpRequest) : Nat → (Nat → Nat) → List RequireAuth → Prop
  | _, _, [] => True
  | now, pauses, guard :: guards =>
    (∃ payload, guard.Admits env req (now + pauses 0) payload) ∧
      ChainAdmits env req (now + pauses 0) (fun n ↦ pauses (n + 1)) guards

/-- `requireRole` is the guard that reads the body. -/
def RequireAuth.readsBody : RequireAuth → Bool
  | .role _ => true
  | _ => false

/-- The chain mixes the two ways to read a token, the body brings one that the header does not,
every guard admits the request by its own token, and the token of the last guard does not meet the
policy of one that reads the other token. -/
def Confused (env : Env) (req : HttpRequest) (now : Nat) (pauses : Nat → Nat)
    (guards : List RequireAuth) (last : RequireAuth) : Prop :=
  ChainAdmits env req now pauses (guards ++ [last]) ∧
    (∃ token, truthyText req.bodyToken = some token ∧ req.headerToken ≠ some token) ∧
      ∃ guard ∈ guards, guard.readsBody ≠ last.readsBody ∧
        ∃ payload, (last.guard.token req).bind JwtTokenService.decode = some payload ∧
          guard.guard.policy payload ≠ .ok true

/-! ### Which token a guard reads -/

/-- The token of the body comes first for the guard that reads the body. -/
theorem RequireAuth.token_eq (guard : RequireAuth) (req : HttpRequest) :
    guard.guard.token req =
      if guard.readsBody then (truthyText req.bodyToken).orElse fun _ ↦ req.headerToken
      else req.headerToken := by
  cases guard with
  | role requiredRole => rfl
  | _ => rfl

/-- Two guards read different tokens when just one of them reads the body, and the body brings a
token that the header does not. -/
theorem RequireAuth.token_ne_iff (guard last : RequireAuth) (req : HttpRequest) :
    guard.guard.token req ≠ last.guard.token req ↔
      guard.readsBody ≠ last.readsBody ∧
        ∃ token, truthyText req.bodyToken = some token ∧ req.headerToken ≠ some token := by
  rw [token_eq, token_eq]
  cases hbody : truthyText req.bodyToken with
  | none => simp
  | some token =>
    cases hguard : guard.readsBody <;> cases hlast : last.readsBody
    · simp
    · simp
    · simp [eq_comm]
    · simp

/-- What a truthy string is. -/
theorem eq_of_truthyText {o : Option Text} {token : Text} (h : truthyText o = some token) :
    o = some token := by
  cases o with
  | none => cases h
  | some t =>
    simp only [truthyText] at h
    split at h
    · exact h
    · cases h

/-- A guard reads a token that the request presents. -/
theorem RequireAuth.presents {guard : RequireAuth} {req : HttpRequest} {token : Text}
    (h : guard.guard.token req = some token) : req.Presents token := by
  rw [token_eq] at h
  split at h
  · cases hbody : truthyText req.bodyToken with
    | none =>
      rw [hbody] at h
      exact .inr h
    | some t =>
      rw [hbody] at h
      cases h
      exact .inl (eq_of_truthyText hbody)
  · exact .inr h

/-- The claims with which a guard admits a request are those of its token. -/
theorem RequireAuth.Admits.decode {env : Env} {req : HttpRequest} {t : Nat} {guard : RequireAuth}
    {payload : Claims} (h : guard.Admits env req t payload) :
    (guard.guard.token req).bind JwtTokenService.decode = some payload := by
  obtain ⟨token, htoken, hverify, -⟩ := h
  rw [htoken]
  exact JwtTokenService.decode_of_verifyAt hverify

/-! ### One guard and the whole chain -/

section Runs

variable {env : Env} {dispatcher : List DomainEvent → Program Unit} {req : HttpRequest}

/-- A guard that admits the request at the time it reads calls `next`. -/
theorem RequireAuth.Admits.run_handle {guard : RequireAuth} {w : World} {pauses : Nat → Nat}
    {payload : Claims} (h : guard.Admits env req (w.now + pauses 0) payload) :
    (guard.guard.handle env dispatcher req).run (execPaced env) (w, pauses) =
      (.ok (.next payload), w.pass (pauses 0), fun n ↦ pauses (n + 1)) := by
  obtain ⟨token, htoken, hverify, hpolicy⟩ := h
  have hnow : (JwtTokenService.verifyAccessToken env token).run (execPaced env) (w, pauses) =
      (JwtTokenService.verifyAt env token (w.now + pauses 0),
        w.pass (pauses 0), fun n ↦ pauses (n + 1)) := rfl
  unfold Guard.handle
  rw [run_tryCatch, htoken]
  dsimp only
  rw [run_bind, hnow, hverify]
  dsimp only
  rw [hpolicy]
  rfl

/-- A guard that does not admit the request answers it. -/
theorem RequireAuth.run_handle_refuses (dispatcher : List DomainEvent → Program Unit)
    {guard : RequireAuth} {w : World} {pauses : Nat → Nat}
    (h : ¬ ∃ payload, guard.Admits env req (w.now + pauses 0) payload) :
    ∃ verdict s, (guard.guard.handle env dispatcher req).run (execPaced env) (w, pauses) =
      (.ok verdict, s) ∧ ∀ payload, verdict ≠ .next payload := by
  unfold Guard.handle
  rw [run_tryCatch]
  cases htoken : guard.guard.token req with
  | none => exact ⟨.unauthorized, _, rfl, fun _ ↦ nofun⟩
  | some token =>
    have hnow : (JwtTokenService.verifyAccessToken env token).run (execPaced env) (w, pauses) =
        (JwtTokenService.verifyAt env token (w.now + pauses 0),
          w.pass (pauses 0), fun n ↦ pauses (n + 1)) := rfl
    dsimp only
    rw [run_bind, hnow]
    cases hverify : JwtTokenService.verifyAt env token (w.now + pauses 0) with
    | error e => exact ⟨.unauthorized, _, rfl, fun _ ↦ nofun⟩
    | ok claims =>
      dsimp only
      cases hpolicy : guard.guard.policy claims with
      | error e => exact ⟨.unauthorized, _, rfl, fun _ ↦ nofun⟩
      | ok granted =>
        cases granted with
        | true => exact absurd ⟨claims, token, htoken, hverify, hpolicy⟩ h
        | false =>
          -- the answer is 403, or 401 if the dispatch of the denial throws
          rw [done_ok_bind, if_neg Bool.false_ne_true, run_bind]
          rcases (dispatcher _).run (execPaced env) _ with ⟨_ | _, s⟩
          · exact ⟨.unauthorized, _, rfl, fun _ ↦ nofun⟩
          · exact ⟨.forbidden, _, rfl, fun _ ↦ nofun⟩

/-- The run of a chain reaches the handler behind it with `user` as `req.user`. -/
def Reaches (env : Env) (dispatcher : List DomainEvent → Program Unit) (req : HttpRequest)
    (guards : List RequireAuth) (before : Option Claims) (w : World) (pauses : Nat → Nat)
    (user : Option Claims) : Prop :=
  ∃ s, (guardChain env dispatcher req guards before).run (execPaced env) (w, pauses) =
    (.ok (.handler user), s)

/-- A chain is passed when its first guard admits the request, and the rest is passed with the
claims of that guard. -/
theorem reaches_cons_iff {guard : RequireAuth} {guards : List RequireAuth}
    {before user : Option Claims} {w : World} {pauses : Nat → Nat} :
    Reaches env dispatcher req (guard :: guards) before w pauses user ↔
      ∃ payload, guard.Admits env req (w.now + pauses 0) payload ∧
        Reaches env dispatcher req guards (some payload) (w.pass (pauses 0))
          (fun n ↦ pauses (n + 1)) user := by
  unfold Reaches
  constructor
  · rintro ⟨s, hs⟩
    rw [guardChain, run_bind] at hs
    by_cases hadmits : ∃ payload, guard.Admits env req (w.now + pauses 0) payload
    · obtain ⟨payload, hpayload⟩ := hadmits
      rw [hpayload.run_handle] at hs
      exact ⟨payload, hpayload, s, hs⟩
    · obtain ⟨verdict, s', hrun, hverdict⟩ :=
        RequireAuth.run_handle_refuses dispatcher hadmits
      rw [hrun] at hs
      cases verdict with
      | next payload => exact absurd rfl (hverdict payload)
      | unauthorized => cases hs
      | forbidden => cases hs
  · rintro ⟨payload, hpayload, s, hs⟩
    refine ⟨s, ?_⟩
    rw [guardChain, run_bind, hpayload.run_handle]
    exact hs

/-- A chain is passed when every guard admits the request in its turn; the claims of the last one
are left in `req.user`. -/
theorem reaches_iff {guards : List RequireAuth} {last : RequireAuth} {before user : Option Claims}
    {w : World} {pauses : Nat → Nat} :
    Reaches env dispatcher req (guards ++ [last]) before w pauses user ↔
      ChainAdmits env req w.now pauses (guards ++ [last]) ∧
        user = (last.guard.token req).bind JwtTokenService.decode := by
  induction guards generalizing w pauses before with
  | nil =>
    rw [List.nil_append, reaches_cons_iff]
    constructor
    · rintro ⟨payload, hpayload, s, hs⟩
      cases hs
      exact ⟨⟨⟨payload, hpayload⟩, trivial⟩, hpayload.decode.symm⟩
    · rintro ⟨⟨⟨payload, hpayload⟩, -⟩, rfl⟩
      rw [hpayload.decode]
      exact ⟨payload, hpayload, _, rfl⟩
  | cons guard guards ih =>
    rw [List.cons_append, reaches_cons_iff]
    constructor
    · rintro ⟨payload, hpayload, hrest⟩
      obtain ⟨hadmits, huser⟩ := ih.mp hrest
      exact ⟨⟨⟨payload, hpayload⟩, hadmits⟩, huser⟩
    · rintro ⟨⟨⟨payload, hpayload⟩, hadmits⟩, huser⟩
      exact ⟨payload, hpayload, ih.mpr ⟨hadmits, huser⟩⟩

/-- In a chain that is passed, every guard has admitted the request at some time. -/
theorem ChainAdmits.of_mem {now : Nat} {pauses : Nat → Nat} {guards : List RequireAuth}
    {guard : RequireAuth} (h : ChainAdmits env req now pauses guards) (hguard : guard ∈ guards) :
    ∃ t payload, guard.Admits env req t payload := by
  induction guards generalizing now pauses with
  | nil => cases hguard
  | cons first guards ih =>
    rcases List.mem_cons.mp hguard with rfl | hguard
    · exact ⟨_, h.1⟩
    · exact ih h.2 hguard

/-- A chain judges one identity whenever it is passed, unless the request confuses it. -/
theorem oneIdentity_iff (env : Env) (dispatcher : List DomainEvent → Program Unit)
    (req : HttpRequest) (guards : List RequireAuth) (last : RequireAuth) (before : Option Claims)
    (w : World) (pauses : Nat → Nat) :
    (∀ user, Reaches env dispatcher req (guards ++ [last]) before w pauses user →
        OneIdentity env req (guards ++ [last]) user) ↔
      ¬ Confused env req w.now pauses guards last := by
  constructor
  · rintro hone ⟨hadmits, -, guard, hguard, -, payload, hpayload, hpolicy⟩
    obtain ⟨token, payload', -, -, hpolicies, huser⟩ := hone _ (reaches_iff.mpr ⟨hadmits, rfl⟩)
    have hsame : payload = payload' := Option.some.inj (hpayload.symm.trans huser)
    rw [hsame] at hpolicy
    exact hpolicy (hpolicies guard (List.mem_append_left _ hguard))
  · intro hclear user hreaches
    obtain ⟨hadmits, rfl⟩ := reaches_iff.mp hreaches
    obtain ⟨t, payload, hlast⟩ :=
      hadmits.of_mem (List.mem_append_right _ (List.mem_singleton_self _))
    have huser := hlast.decode
    obtain ⟨token, htoken, hverify, hpolicy⟩ := hlast
    refine ⟨token, payload, RequireAuth.presents htoken, ⟨t, hverify⟩, ?_, huser⟩
    intro guard hguard
    by_cases hsame : guard.guard.token req = last.guard.token req
    · -- the same token, so the guard has judged the same claims
      obtain ⟨t', payload', hadmitted⟩ := hadmits.of_mem hguard
      have hpayload' := hadmitted.decode
      rw [hsame, huser] at hpayload'
      cases hpayload'
      obtain ⟨-, -, -, h⟩ := hadmitted
      exact h
    · obtain ⟨hreads, hbody⟩ := (RequireAuth.token_ne_iff guard last req).mp hsame
      by_contra hpolicy
      have hbefore : guard ∈ guards := by
        rcases List.mem_append.mp hguard with h | h
        · exact h
        · exact absurd (congrArg _ (List.mem_singleton.mp h)) hreads
      exact hclear ⟨hadmits, hbody, guard, hbefore, hreads, payload, huser, hpolicy⟩

end Runs

/-- An access token of the deployment. -/
def Sample.issuedTo (sub : String) (roles permissions : List String) : Text :=
  .jws
    { header := ⟨"RS256", some "key-1"⟩
      claims :=
        { sub := .str sub
          iss := .str "bankos:identity"
          aud := .str "bankos:gateway"
          iat := .num 1000
          exp := .num 1900
          roles := .strings roles
          permissions := .strings permissions }
      signature := .rs256 "private" }

/-- The token of an administrator in the body, and that of a teller in the header. -/
def Sample.twoTokens : HttpRequest where
  bodyToken := some (issuedTo "admin" ["admin"] [])
  authorization := some [.plain "Bearer", issuedTo "teller" ["teller"] ["accounts.close"]]
  path := "/accounts/close"

/-- A route for administrators that may close accounts. -/
def Sample.closeAccount : List RequireAuth := [.role "admin", .permission "accounts.close"]

/-- Neither of the two may use the route, and both tokens together pass it as the teller. -/
theorem closeAccount_confused :
    ∃ user, Reaches Sample.env dispatch Sample.twoTokens Sample.closeAccount none
        Sample.registered (fun _ ↦ 0) user ∧
      ¬ OneIdentity Sample.env Sample.twoTokens Sample.closeAccount user := by
  refine ⟨JwtTokenService.decode (Sample.issuedTo "teller" ["teller"] ["accounts.close"]),
    ⟨_, rfl⟩, ?_⟩
  rintro ⟨token, payload, -, -, hpolicies, huser⟩
  have hrole := hpolicies (.role "admin") (List.mem_cons_self ..)
  cases huser
  exact absurd hrole (by decide)

end Bankos
