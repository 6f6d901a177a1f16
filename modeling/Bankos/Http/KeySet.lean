import Bankos.Base.Revalidation
import Bankos.Http.Admission

/-!
# Clients of the key set

A client fetches the published keys, keeps the text with its entity tag, and asks with the tag the
next time; the service is meanwhile started with other keys, or runs on several machines. What the
client verifies with the keys that it holds is what the service verifies that it has asked last.
-/

namespace Bankos

open Js Jwt Middleware Revalidation

/-! ### Requests for the keys -/

/-- The request asks for the keys: a `GET` of the path at which `app.ts:48` and `auth.routes.ts:120`
mount them, from an origin that is allowed, with a body that parses. -/
structure IdentityRequest.AsksForKeys (app : IdentityApp) (req : IdentityRequest) : Prop where
  origin : originAllowed app.corsAllowedOrigins (req.headers "origin") = true
  method : req.method = "GET"
  body : ∃ body, req.body = .ok body
  path : app.matchesPath "/.well-known/.well-known/jwks.json" req.path = true
  others : ∀ pattern ∈ ["/health/live", "/health/ready", "/metrics"],
    app.matchesPath pattern req.path = false

namespace IdentityApp

variable {app : IdentityApp} {req : IdentityRequest} {x : Exchange}

/-- A route that answers by itself answers like a controller. -/
theorem authRoute_answered {route : AuthRoute} {body : Option Shapes.Document}
    {response : AppResponse} (h : route.arrive app x body = .answered response) :
    ∃ r, response.body = .auth r := by
  unfold AuthRoute.arrive at h
  split at h
  · cases h
    exact ⟨_, rfl⟩
  · dsimp only at h
    split at h
    · cases h
      exact ⟨_, rfl⟩
    · split at h
      · cases h
      · cases h
        exact ⟨_, rfl⟩

/-- The controller of the keys answers with them. -/
theorem getJwks_eq (app : IdentityApp) (x : Exchange) : ∃ conditions : Conditions,
    conditions.ifNoneMatch = x.req.headers "if-none-match" ∧
    conditions.ifModifiedSince = x.req.headers "if-modified-since" ∧
    app.getJwks x = x.respond
      (app.jwks.getJwks conditions.ifNoneMatch
        (app.fresh conditions app.jwks.etag app.jwks.lastModified)).1
      (.jwks (app.jwks.getJwks conditions.ifNoneMatch
        (app.fresh conditions app.jwks.etag app.jwks.lastModified)).2) :=
  ⟨⟨_, _, _⟩, rfl, rfl, rfl⟩

/-- A request that asks for the keys is answered by their controller. -/
theorem arrive_of_asksForKeys (h : req.AsksForKeys app) :
    app.arrive req = .answered (app.getJwks req.routed) := by
  obtain ⟨body, hbody⟩ := h.body
  have hchain : chain app.middlewares { req := req } = .next req.routed := by
    rw [chain_middlewares, h.method]
    exact ⟨h.origin, by decide, by decide, fun hmem ↦ absurd hmem (by decide), ⟨body, hbody⟩, rfl⟩
  have hother : ∀ pattern ∈ ["/health/live", "/health/ready", "/metrics"],
      app.isGet req.routed pattern = false := by
    intro pattern hpattern
    unfold isGet
    rw [show req.routed.req.path = req.path from rfl, h.others pattern hpattern, Bool.and_false]
  have hget : app.isGet req.routed "/.well-known/.well-known/jwks.json" = true := by
    unfold isGet
    rw [show req.routed.req.path = req.path from rfl, h.path,
      show req.routed.req.method = req.method from rfl, h.method]
    rfl
  unfold arrive
  rw [hchain]
  dsimp only
  rw [show req.routed.req.body = .ok body from hbody]
  show app.route req.routed body = _
  unfold IdentityApp.route
  rw [hother _ (by simp), hother _ (by simp), hother _ (by simp), hget]
  rfl

/-- The router answers with keys only where they are mounted, behind the other pages. -/
theorem route_jwks {body : Option Shapes.Document} {response : AppResponse} {answer : JwksAnswer}
    (h : app.route x body = .answered response) (hbody : response.body = .jwks answer) :
    app.isGet x "/.well-known/.well-known/jwks.json" = true ∧
      ∀ pattern ∈ ["/health/live", "/health/ready", "/metrics"],
        app.isGet x pattern = false := by
  unfold IdentityApp.route at h
  by_cases hlive : app.isGet x "/health/live" = true
  · rw [if_pos hlive] at h
    cases h
    cases hbody
  by_cases hready : app.isGet x "/health/ready" = true
  · rw [if_neg hlive, if_pos hready] at h
    cases h
    cases hbody
  by_cases hmetrics : app.isGet x "/metrics" = true
  · rw [if_neg hlive, if_neg hready, if_pos hmetrics] at h
    cases h
    cases hbody
  by_cases hkeys : app.isGet x "/.well-known/.well-known/jwks.json" = true
  · exact ⟨hkeys, by simp [hlive, hready, hmetrics]⟩
  · rw [if_neg hlive, if_neg hready, if_neg hmetrics, if_neg hkeys] at h
    cases hroute : app.authRoute x with
    | some route =>
      rw [hroute] at h
      obtain ⟨r, hr⟩ := authRoute_answered h
      rw [hr] at hbody
      cases hbody
    | none =>
      rw [hroute] at h
      dsimp only at h
      split_ifs at h
      · cases h
        rcases app.swaggerUi_body x with hdocs | hdocs
        · rw [hbody] at hdocs
          cases hdocs
        · rw [hbody] at hdocs
          exact hdocs.elim
      · cases h
        cases hbody

/-- Only such a request is answered by their controller. -/
theorem asksForKeys_of_arrive {response : AppResponse} {answer : JwksAnswer}
    (h : app.arrive req = .answered response) (hbody : response.body = .jwks answer) :
    req.AsksForKeys app := by
  rcases arrive_answered h with hearly | ⟨body, hparsed, hchain, hroute⟩
  · rw [hbody] at hearly
    exact hearly.elim
  · obtain ⟨hget, hothers⟩ := route_jwks hroute hbody
    have hpath : req.method = "GET" ∧
        app.matchesPath "/.well-known/.well-known/jwks.json" req.path = true := by
      unfold isGet at hget
      rw [Bool.and_eq_true, decide_eq_true_eq] at hget
      exact hget
    have hother : ∀ pattern ∈ ["/health/live", "/health/ready", "/metrics"],
        app.matchesPath pattern req.path = false := by
      intro pattern hpattern
      have hnot := hothers pattern hpattern
      unfold isGet at hnot
      rw [show req.routed.req.method = "GET" from hpath.1] at hnot
      exact hnot
    exact
      { origin := (chain_middlewares.mp hchain).1
        method := hpath.1
        body := ⟨body, hparsed⟩
        path := hpath.2
        others := hother }

end IdentityApp

/-! ### The client -/

/-- A start of the service: the keys it was given are those of its token service and those that it
publishes. -/
structure Deployment (lib : KeyLibrary) where
  app : IdentityApp
  keysConfig : List (String × KeyPair)
  startedAt : String
  keyManager :
    KeyManager.construct keysConfig app.env.keyManager.activeKeyId = .ok app.env.keyManager
  jwks : JwksController.construct lib keysConfig startedAt = .ok app.jwks

/-- What the framework is documented to find fresh: no request without conditions, and one that
names a tag only where that tag is served. -/
structure IdentityApp.FreshByTag (lib : KeyLibrary) (app : IdentityApp) : Prop where
  unconditional : ∀ cacheControl tag date, app.fresh ⟨none, none, cacheControl⟩ tag date = false
  tagged : ∀ text since cacheControl text' date,
    app.fresh ⟨some (weakTag (lib.md5 text)), since, cacheControl⟩ (weakTag (lib.md5 text')) date =
      true → lib.md5 text = lib.md5 text'

namespace KeySet

/-- What a client holds: a text with its entity tag. -/
abbrev Held := Option (Origin String String)

/-- The request with the tag of what the client holds. -/
def ask (held : Held) (req : IdentityRequest) : IdentityRequest :=
  match held with
  | some copy => { req with headers := req.headers.set "if-none-match" copy.tag }
  | none => { req with
      headers := (req.headers.delete "if-none-match").delete "if-modified-since" }

/-- The reply that an answer is to such a request. -/
def reply (response : AppResponse) : Reply String String :=
  match response.body with
  | .jwks answer =>
    match answer.body with
    | some text => .sent answer.etag text
    | none => .unchanged
  | _ => .lost

/-- What comes back for the request. -/
def fetch (app : IdentityApp) (req : IdentityRequest) : Reply String String :=
  match app.arrive req with
  | .answered response => reply response
  | .calls _ _ => .lost

/-- What a client holds after it has sent the requests, each to the deployment. -/
def after {lib : KeyLibrary} (visits : List (Deployment lib × IdentityRequest)) : Held :=
  visits.foldl (fun held v ↦ learn held (fetch v.1.app (ask held v.2))) none

/-- The key under the id; a missing or an empty one names none. -/
def find (keys : List JwkKey) : Option String → Option JwkKey
  | none => none
  | some kid => if kid = "" then none else keys.find? fun k ↦ decide (k.kid = kid)

/-- What a client with the keys makes of a token: it looks up the key that the header names. -/
def verify (publicKeyOf : String → String) (importJwk : JwkKey → Option String)
    (keys : List JwkKey) (o : VerifyOptions) (token : Text) (now : Nat) : Option Claims :=
  match token with
  | .plain _ => none
  | .unreadable _ => none
  | .null _ _ => none
  | .jws t => do
    let key ← find keys t.header.kid
    let publicKey ← importJwk key
    (Jwt.verify publicKeyOf token publicKey o now).toOption

end KeySet

/-- What the deployment serves. -/
def Deployment.origin {lib : KeyLibrary} (d : Deployment lib) : Origin String String :=
  ⟨d.app.jwks.etag, d.app.jwks.cachedJwks⟩

/-- The tag is computed from what is served. -/
theorem Deployment.origin_tag {lib : KeyLibrary} (d : Deployment lib) :
    d.origin.tag = weakTag (lib.md5 d.origin.body) := by
  obtain ⟨jwks, -, -, hetag⟩ := JwksController.construct_eq_ok d.jwks
  exact hetag

namespace KeySet

variable {lib : KeyLibrary} {app : IdentityApp} {req : IdentityRequest} {held : Held}

/-- The tag makes no difference to whether a request asks for the keys. -/
theorem asksForKeys_ask : (ask held req).AsksForKeys app ↔ req.AsksForKeys app := by
  have horigin : (ask held req).headers "origin" = req.headers "origin" := by
    cases held with
    | some copy => simp [ask, Headers.set_apply]
    | none => simp [ask, Headers.delete]
  have hrest : (ask held req).method = req.method ∧ (ask held req).path = req.path ∧
      (ask held req).body = req.body := by
    cases held <;> exact ⟨rfl, rfl, rfl⟩
  obtain ⟨hmethod, hpath, hbody⟩ := hrest
  constructor
  · rintro ⟨h1, h2, h3, h4, h5⟩
    rw [horigin] at h1
    rw [hmethod] at h2
    rw [hbody] at h3
    rw [hpath] at h4 h5
    exact ⟨h1, h2, h3, h4, h5⟩
  · rintro ⟨h1, h2, h3, h4, h5⟩
    rw [← horigin] at h1
    rw [← hmethod] at h2
    rw [← hbody] at h3
    rw [← hpath] at h4 h5
    exact ⟨h1, h2, h3, h4, h5⟩

/-- A reply is lost exactly when the request does not ask for the keys. -/
theorem fetch_eq_lost_iff : fetch app req = .lost ↔ ¬ req.AsksForKeys app := by
  constructor
  · intro h hasks
    unfold fetch at h
    rw [IdentityApp.arrive_of_asksForKeys hasks] at h
    obtain ⟨conditions, -, -, hjwks⟩ := app.getJwks_eq req.routed
    rw [hjwks] at h
    unfold reply Exchange.respond at h
    dsimp only at h
    split at h <;> cases h
  · intro hasks
    unfold fetch
    split
    · next response harrive =>
      unfold reply
      split
      · next answer hbody => exact absurd (IdentityApp.asksForKeys_of_arrive harrive hbody) hasks
      · rfl
    · rfl

/-- The conditions of such a request are met by the tag of what the client holds only. -/
theorem held_of_conditions (d : Deployment lib) (hfresh : d.app.FreshByTag lib)
    (hheld : ∀ copy, held = some copy → copy.tag = weakTag (lib.md5 copy.body))
    {conditions : Conditions}
    (hnone : conditions.ifNoneMatch = (ask held req).headers "if-none-match")
    (hsince : conditions.ifModifiedSince = (ask held req).headers "if-modified-since")
    (h : conditions.ifNoneMatch = some d.app.jwks.etag ∨
      d.app.fresh conditions d.app.jwks.etag d.app.jwks.lastModified = true) :
    ∃ copy, held = some copy ∧ copy.tag = d.origin.tag := by
  obtain ⟨ifNoneMatch, ifModifiedSince, cacheControl⟩ := conditions
  dsimp only at hnone hsince h
  cases held with
  | none =>
    obtain ⟨rfl, rfl⟩ : ifNoneMatch = none ∧ ifModifiedSince = none := by
      rw [hnone, hsince]
      simp [ask, Headers.delete]
    rcases h with h | h
    · cases h
    · rw [hfresh.unconditional] at h
      cases h
  | some copy =>
    obtain rfl : ifNoneMatch = some copy.tag := by
      rw [hnone]
      simp [ask, Headers.set_apply]
    refine ⟨copy, rfl, ?_⟩
    rcases h with h | h
    · exact Option.some.inj h
    · rw [hheld copy rfl, show d.app.jwks.etag = _ from d.origin_tag] at h
      rw [hheld copy rfl, hfresh.tagged _ _ _ _ _ h]
      exact d.origin_tag.symm

/-- What comes back is a reply of the deployment to a client that names the tag of what it holds. -/
theorem replies (d : Deployment lib) (hfresh : d.app.FreshByTag lib)
    (hheld : ∀ copy, held = some copy → copy.tag = weakTag (lib.md5 copy.body)) :
    d.origin.Replies held (fetch d.app (ask held req)) := by
  by_cases hasks : (ask held req).AsksForKeys d.app
  · obtain ⟨conditions, hnone, hsince, hjwks⟩ :=
      d.app.getJwks_eq (ask held req).routed
    rw [show (ask held req).routed.req.headers "if-none-match" =
      (ask held req).headers "if-none-match" from IdentityApp.stripped_apply (by decide)] at hnone
    rw [show (ask held req).routed.req.headers "if-modified-since" =
      (ask held req).headers "if-modified-since" from
        IdentityApp.stripped_apply (by decide)] at hsince
    have hsame := held_of_conditions d hfresh hheld hnone hsince
    unfold fetch
    rw [IdentityApp.arrive_of_asksForKeys hasks, hjwks]
    unfold reply Exchange.respond JwksController.getJwks
    dsimp only
    split_ifs with hmatch hsent
    · obtain ⟨copy, hcopy, htag⟩ := hsame (.inl hmatch)
      exact .unchanged hcopy htag
    · obtain ⟨copy, hcopy, htag⟩ := hsame (.inr hsent)
      exact .unchanged hcopy htag
    · exact .sent
  · rw [fetch_eq_lost_iff.mpr hasks]
    exact .lost

/-- Where the hash tells apart what is served, the tags do. -/
theorem tagsTell_of_md5 {visits : List (Deployment lib × IdentityRequest)}
    (hmd5 : ∀ v ∈ visits, ∀ v' ∈ visits,
      lib.md5 v.1.app.jwks.cachedJwks = lib.md5 v'.1.app.jwks.cachedJwks →
        v.1.app.jwks.cachedJwks = v'.1.app.jwks.cachedJwks) :
    TagsTell (visits.map fun v ↦ v.1.origin) := by
  intro o ho o' ho' h
  obtain ⟨v, hv, rfl⟩ := List.mem_map.mp ho
  obtain ⟨v', hv', rfl⟩ := List.mem_map.mp ho'
  rw [v.1.origin_tag, v'.1.origin_tag] at h
  exact hmd5 v hv v' hv' (weakTag_injective h)

/-- The step: what comes back, if what is held is from deployments that were asked before. -/
theorem replies_of_visits {visits : List (Deployment lib × IdentityRequest)}
    (h : Visits (visits.map fun v ↦ v.1.origin) held) (d : Deployment lib)
    (hfresh : d.app.FreshByTag lib) (req : IdentityRequest) :
    d.origin.Replies held (fetch d.app (ask held req)) := by
  apply replies d hfresh
  intro copy hcopy
  obtain ⟨v, -, rfl⟩ := List.mem_map.mp (h.mem copy hcopy)
  exact v.1.origin_tag

/-- The run: the client goes from one deployment to the next. -/
theorem visits_after (visits : List (Deployment lib × IdentityRequest))
    (hfresh : ∀ v ∈ visits, v.1.app.FreshByTag lib) :
    Visits (visits.map fun v ↦ v.1.origin) (after visits) := by
  induction visits using List.reverseRecOn with
  | nil => exact .start
  | append_singleton visits v ih =>
    have hbefore := ih fun u hu ↦ hfresh u (List.mem_append_left _ hu)
    rw [List.map_append, List.map_singleton]
    unfold after
    rw [List.foldl_append]
    apply Visits.visit hbefore
    exact replies_of_visits hbefore v.1
      (hfresh v (List.mem_append_right _ (List.mem_singleton.mpr rfl))) v.2

end KeySet

/-! ### The verdicts -/

/-- The service accepts a token exactly when the header names a key that it has, and the library
accepts the token under that key. -/
theorem JwtTokenService.verifyAt_eq_ok {env : Env} {token : Text} {now : Nat} {claims : Claims} :
    verifyAt env token now = .ok claims ↔
      ∃ t kid key, token = .jws t ∧ t.header.kid = some kid ∧ kid ≠ "" ∧
        env.keyManager.keys kid = some key ∧
        Jwt.verify env.publicKeyOf token key.publicKey
          ⟨["RS256"], env.config.issuer, env.config.audience⟩ now = .ok claims := by
  constructor
  · intro h
    obtain ⟨publicKey, hkey, hverify⟩ := verify_of_verifyAt h
    obtain ⟨t, rfl, -⟩ := Jwt.verify_ok hverify
    obtain ⟨kid, key, hkid, hempty, hfound, rfl⟩ := headerKey_eq_ok.mp hkey
    exact ⟨t, kid, key, rfl, hkid, hempty, hfound, hverify⟩
  · rintro ⟨t, kid, key, rfl, hkid, hempty, hfound, hverify⟩
    have hkey : verificationKey env (.jws t) = .ok key.publicKey :=
      headerKey_eq_ok.mpr ⟨kid, key, hkid, hempty, hfound, rfl⟩
    unfold verifyAt
    rw [hkey]
    dsimp only
    rw [hverify]

namespace KeySet

variable {lib : KeyLibrary} {importJwk : JwkKey → Option String} {keys : List JwkKey}

/-- A client accepts a token exactly when the header names a key that it holds, and the library
accepts the token under that key. -/
theorem verify_eq_some {publicKeyOf : String → String} {o : VerifyOptions} {token : Text}
    {now : Nat} {claims : Claims} :
    verify publicKeyOf importJwk keys o token now = some claims ↔
      ∃ t kid key publicKey, token = .jws t ∧ t.header.kid = some kid ∧ kid ≠ "" ∧
        (keys.find? fun k ↦ decide (k.kid = kid)) = some key ∧ importJwk key = some publicKey ∧
        Jwt.verify publicKeyOf token publicKey o now = .ok claims := by
  have htoOption : ∀ r : Except JwtError Claims, r.toOption = some claims ↔ r = .ok claims := by
    rintro (e | c) <;> simp [Except.toOption]
  constructor
  · intro h
    obtain ⟨t, rfl⟩ : ∃ t, token = .jws t := by
      cases token with
      | jws t => exact ⟨t, rfl⟩
      | _ => cases h
    simp only [verify, Option.bind_eq_bind, Option.bind_eq_some_iff, htoOption] at h
    obtain ⟨key, hkey, publicKey, himport, hverify⟩ := h
    cases hkid : t.header.kid with
    | none =>
      rw [hkid] at hkey
      cases hkey
    | some kid =>
      rw [hkid] at hkey
      unfold find at hkey
      dsimp only at hkey
      split_ifs at hkey with hempty
      exact ⟨t, kid, key, publicKey, rfl, hkid, hempty, hkey, himport, hverify⟩
  · rintro ⟨t, kid, key, publicKey, rfl, hkid, hempty, hkey, himport, hverify⟩
    simp only [verify, Option.bind_eq_bind, Option.bind_eq_some_iff, htoOption]
    refine ⟨key, ?_, publicKey, himport, hverify⟩
    rw [hkid]
    unfold find
    dsimp only
    rw [if_neg hempty]
    exact hkey

/-- A client with the keys of a deployment accepts what the deployment accepts. -/
theorem verify_iff (d : Deployment lib) (hkeys : JwksBuilder.buildJwks lib d.keysConfig = .ok keys)
    (hround : ∀ kid key jwk, d.keysConfig.lookup kid = some key →
      lib.exportJwk key.publicKey = .ok jwk →
      importJwk (jwk.published kid) = some key.publicKey) (token : Text) (now : Nat)
    (claims : Claims) :
    verify d.app.env.publicKeyOf importJwk keys
        ⟨["RS256"], d.app.env.config.issuer, d.app.env.config.audience⟩ token now = some claims ↔
      JwtTokenService.verifyAt d.app.env token now = .ok claims := by
  have hmanager : ∀ kid, d.app.env.keyManager.keys kid = d.keysConfig.lookup kid :=
    fun kid ↦ congrFun (KeyManager.keys_of_construct d.keyManager) kid
  rw [verify_eq_some, JwtTokenService.verifyAt_eq_ok]
  constructor
  · rintro ⟨t, kid, jwk, publicKey, rfl, hkid, hempty, hfind, himport, hverify⟩
    obtain ⟨hsome, hnone⟩ := JwksBuilder.find_buildJwks hkeys kid
    cases hlookup : d.keysConfig.lookup kid with
    | none =>
      rw [hnone hlookup] at hfind
      cases hfind
    | some key =>
      obtain ⟨exported, hexport, hpublished⟩ := hsome key hlookup
      obtain rfl : exported.published kid = jwk := Option.some.inj (hpublished.symm.trans hfind)
      have hkey := hround kid key exported hlookup hexport
      obtain rfl : key.publicKey = publicKey := Option.some.inj (hkey.symm.trans himport)
      exact ⟨t, kid, key, rfl, hkid, hempty, (hmanager kid).trans hlookup, hverify⟩
  · rintro ⟨t, kid, key, rfl, hkid, hempty, hfound, hverify⟩
    have hlookup : d.keysConfig.lookup kid = some key := (hmanager kid).symm.trans hfound
    obtain ⟨exported, hexport, hpublished⟩ := (JwksBuilder.find_buildJwks hkeys kid).1 key hlookup
    exact ⟨t, kid, exported.published kid, key.publicKey, rfl, hkid, hempty, hpublished,
      hround kid key exported hlookup hexport, hverify⟩

end KeySet

/-- A client keeps the published keys and asks again with their entity tag, at one deployment after
the other, in any order. After a request for the keys it holds what the deployment it has asked
serves, which is the text of exactly the keys that the deployment was started with, and accepts the
tokens that this deployment accepts, at any time; every other request leaves it with what it had. -/
theorem jwks_clients_agree (lib : KeyLibrary) (importJwk : JwkKey → Option String)
    (visits : List (Deployment lib × IdentityRequest)) (d : Deployment lib) (req : IdentityRequest)
    (hfresh : ∀ v ∈ visits ++ [(d, req)], v.1.app.FreshByTag lib)
    (hmd5 : ∀ v ∈ visits ++ [(d, req)], ∀ v' ∈ visits ++ [(d, req)],
      lib.md5 v.1.app.jwks.cachedJwks = lib.md5 v'.1.app.jwks.cachedJwks →
        v.1.app.jwks.cachedJwks = v'.1.app.jwks.cachedJwks)
    (hround : ∀ kid key jwk, d.keysConfig.lookup kid = some key →
      lib.exportJwk key.publicKey = .ok jwk →
      importJwk (jwk.published kid) = some key.publicKey) :
    (¬ req.AsksForKeys d.app → KeySet.after (visits ++ [(d, req)]) = KeySet.after visits) ∧
    (req.AsksForKeys d.app → KeySet.after (visits ++ [(d, req)]) = some d.origin ∧
      ∃ keys, JwksBuilder.buildJwks lib d.keysConfig = .ok keys ∧
      JwkKey.setOfText d.origin.body = some keys ∧
      ∀ token now claims,
        KeySet.verify d.app.env.publicKeyOf importJwk keys
            ⟨["RS256"], d.app.env.config.issuer, d.app.env.config.audience⟩ token now =
          some claims ↔ JwtTokenService.verifyAt d.app.env token now = .ok claims) := by
  have hstep : KeySet.after (visits ++ [(d, req)]) =
      learn (KeySet.after visits) (KeySet.fetch d.app (KeySet.ask (KeySet.after visits) req)) := by
    unfold KeySet.after
    rw [List.foldl_append]
    rfl
  have hvisits := KeySet.visits_after visits fun v hv ↦ hfresh v (List.mem_append_left _ hv)
  constructor
  · intro hasks
    rw [hstep, KeySet.fetch_eq_lost_iff.mpr (mt KeySet.asksForKeys_ask.mp hasks)]
    rfl
  · intro hasks
    have hreplies := KeySet.replies_of_visits hvisits d
      (hfresh _ (List.mem_append_right _ (List.mem_singleton.mpr rfl))) req
    have htell : TagsTell ((visits.map fun v ↦ v.1.origin) ++ [d.origin]) := by
      have h := KeySet.tagsTell_of_md5 hmd5
      rwa [List.map_append, List.map_singleton] at h
    have hheld := hvisits.learn_eq htell hreplies
      (mt KeySet.fetch_eq_lost_iff.mp fun h ↦ h (KeySet.asksForKeys_ask.mpr hasks))
    obtain ⟨jwks, hbuild, htext, -⟩ := JwksController.construct_eq_ok d.jwks
    refine ⟨hstep.trans hheld, jwks, hbuild, ?_, KeySet.verify_iff d hbuild hround⟩
    show JwkKey.setOfText d.app.jwks.cachedJwks = some jwks
    rw [htext, JwkKey.setOfText_setText]

namespace Sample

/-- The key of the first start, and the one that joins it. -/
def firstKey : JwkKey := ⟨"key-1", "RSA", "RS256", "sig", some "oahUI", some "AQAB"⟩

/-- The key that signs from the second start on. -/
def secondKey : JwkKey := ⟨"key-2", "RSA", "RS256", "sig", some "xjlCR", some "AQAB"⟩

/-- Two keys, with the digests of the two key sets. -/
def keyLibrary : KeyLibrary where
  exportJwk pem :=
    if pem = "public" then .ok ⟨"RSA", some "oahUI", some "AQAB"⟩
    else if pem = "public-2" then .ok ⟨"RSA", some "xjlCR", some "AQAB"⟩
    else .error (.error "invalid key")
  md5 text :=
    if text = JwkKey.setText [firstKey] then "5372770deaa8d535f4e66907fc534fd4"
    else if text = JwkKey.setText [firstKey, secondKey] then "6e73faeea25f62932d7856f47de9c422"
    else ""

/-- What the keys are read back as. -/
def importJwk (key : JwkKey) : Option String :=
  if key.n = some "oahUI" then some "public"
  else if key.n = some "xjlCR" then some "public-2"
  else none

/-- The keys of the first start. -/
def firstKeys : List (String × KeyPair) := [("key-1", ⟨"public", some "private"⟩)]

/-- The keys of the second start. -/
def secondKeys : List (String × KeyPair) :=
  firstKeys ++ [("key-2", ⟨"public-2", some "private-2"⟩)]

/-- The application with the keys of the first start. -/
def firstApp : IdentityApp := { app with
  env := { env with
    keyManager := { env.keyManager with
      keys := fun kid ↦ firstKeys.lookup kid
      getKey_active := rfl } }
  jwks := ⟨JwkKey.setText [firstKey], weakTag (keyLibrary.md5 (JwkKey.setText [firstKey])),
    "Thu, 01 Jan 1970 00:00:00 GMT"⟩
  fresh := fun conditions tag _ ↦ conditions.ifNoneMatch.any fun t ↦ decide (t = tag) }

/-- The application with those of the second one, which signs with the new key. -/
def secondApp : IdentityApp := { firstApp with
  env := { env with
    keyManager :=
      { keys := fun kid ↦ secondKeys.lookup kid
        activeKeyId := "key-2"
        activeKey := ⟨"public-2", some "private-2"⟩
        activePrivateKey := "private-2"
        getKey_active := rfl
        private_active := rfl }
    publicKeyOf := fun privateKey ↦
      if privateKey = "private" then "public"
      else if privateKey = "private-2" then "public-2" else "" }
  jwks := ⟨JwkKey.setText [firstKey, secondKey],
    weakTag (keyLibrary.md5 (JwkKey.setText [firstKey, secondKey])),
    "Fri, 02 Jan 1970 00:00:00 GMT"⟩ }

/-- The first start. -/
def firstStart : Deployment keyLibrary where
  app := firstApp
  keysConfig := firstKeys
  startedAt := "Thu, 01 Jan 1970 00:00:00 GMT"
  keyManager := rfl
  jwks := rfl

/-- The second one. -/
def secondStart : Deployment keyLibrary where
  app := secondApp
  keysConfig := secondKeys
  startedAt := "Fri, 02 Jan 1970 00:00:00 GMT"
  keyManager := rfl
  jwks := rfl

/-- The request for the keys. -/
def fetchKeys : IdentityRequest := { signIn with
  method := "GET"
  path := "/.well-known/.well-known/jwks.json"
  headers := fun _ ↦ none
  body := .ok none }

end Sample

/-- A client that has fetched the keys before and after the second start. -/
theorem jwks_clients_agree_second :
    Sample.fetchKeys.AsksForKeys Sample.secondApp ∧
      KeySet.after
          [(Sample.firstStart, Sample.fetchKeys), (Sample.secondStart, Sample.fetchKeys)] =
        some Sample.secondStart.origin ∧
      ∃ keys, JwksBuilder.buildJwks Sample.keyLibrary Sample.secondKeys = .ok keys ∧
      JwkKey.setOfText Sample.secondStart.origin.body = some keys ∧
      ∀ token now claims,
        KeySet.verify Sample.secondApp.env.publicKeyOf Sample.importJwk keys
            ⟨["RS256"], "bankos:identity", "bankos:gateway"⟩ token now = some claims ↔
          JwtTokenService.verifyAt Sample.secondApp.env token now = .ok claims := by
  have hasks : Sample.fetchKeys.AsksForKeys Sample.secondApp :=
    { origin := rfl
      method := rfl
      body := ⟨_, rfl⟩
      path := by decide
      others := by decide }
  have hvisits : ∀ v ∈ [(Sample.firstStart, Sample.fetchKeys)] ++
      [(Sample.secondStart, Sample.fetchKeys)],
      v = (Sample.firstStart, Sample.fetchKeys) ∨ v = (Sample.secondStart, Sample.fetchKeys) := by
    intro v hv
    simpa using hv
  refine ⟨hasks, (jwks_clients_agree Sample.keyLibrary Sample.importJwk
    [(Sample.firstStart, Sample.fetchKeys)] Sample.secondStart Sample.fetchKeys ?_ ?_ ?_).2 hasks⟩
  · intro v hv
    rcases hvisits v hv with rfl | rfl <;>
    · refine ⟨fun _ _ _ ↦ rfl, fun text since cacheControl text' date h ↦ ?_⟩
      exact weakTag_injective (of_decide_eq_true h)
  · intro v hv v' hv'
    rcases hvisits v hv with rfl | rfl <;> rcases hvisits v' hv' with rfl | rfl <;> decide +kernel
  · intro kid key jwk hkey hexport
    have hpem : key.publicKey = "public" ∨ key.publicKey = "public-2" := by
      have hlookup : Sample.secondKeys.lookup kid = some key := hkey
      unfold Sample.secondKeys Sample.firstKeys at hlookup
      simp only [List.singleton_append, List.lookup_cons] at hlookup
      split at hlookup
      · cases hlookup
        exact .inl rfl
      · split at hlookup <;> cases hlookup
        exact .inr rfl
    rcases hpem with hpem | hpem
    · rw [hpem] at hexport ⊢
      cases hexport
      rfl
    · rw [hpem] at hexport ⊢
      cases hexport
      rfl

end Bankos
