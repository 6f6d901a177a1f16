import Bankos.Http.Gateway

/-!
# Which requests pass the gateway

The exact conditions under which the gateway hands a request over to a service, and what it hands
over. The methods that it retries are not the ones that the controllers of the identity service
take, so a request through the gateway calls a controller once at most, whatever the network does.
So both services together are an image of the controllers.
-/

namespace Bankos.Gateway

open Js Jwt Effects Shapes Middleware Prog

/-! ### What each middleware passes on -/

/-- The methods that are handed over to a service. -/
def FORWARDED_METHODS : List String := ["GET", "POST", "PUT", "PATCH", "DELETE"]

/-- The header names one of the types that the gateway takes for a body. -/
def NamesContentType (headers : Headers) : Prop :=
  ∃ contentType, headers "content-type" = some contentType ∧
    ∃ media ∈ CONTENT_TYPES, PolicyEngine.occursIn media contentType = true

/-- A request for one of the pages that the gateway serves itself. -/
def GatewayApp.Serves (app : GatewayApp) (req : GatewayRequest) : Prop :=
  req.method = "GET" ∧
    ∃ pattern ∈ ["/health/live", "/health/ready", "/version", "/build", "/metrics"],
      app.matchesPath pattern req.url = true

/-- The identifier under which the gateway handles a request. -/
def GatewayRequest.correlationId (req : GatewayRequest) : String :=
  Bankos.correlationId (req.headers "x-correlation-id") req.freshId

/-- The exchange as the middlewares hand it to the routes. -/
def GatewayRequest.routed (req : GatewayRequest) : GatewayExchange where
  req := { req with headers := sanitizeHeadersMiddleware req.headers }
  correlationId := some req.correlationId

/-- The service of the first mount path that the URL is under, and what is left of the URL. -/
def GatewayApp.mounted (app : GatewayApp) (url : String) : Option (Service × String) :=
  mounts.findSome? fun mount ↦ (app.below mount.1 url).map fun rest ↦ (mount.2, rest)

/-- The request may pass: what it carries, and what is handed over. -/
structure GatewayRequest.Passes (app : GatewayApp) (req : GatewayRequest) (forwarded : Forwarded) :
    Prop where
  unlimited : req.limited = false
  origin : originAllowed app.config.corsAllowedOrigins (req.headers "origin") = true
  method : req.method ∈ FORWARDED_METHODS
  media : req.method ∈ METHODS_WITH_BODY → NamesContentType req.headers
  notServed : ¬ app.Serves req
  body : req.body = .ok forwarded.body
  token : ∃ token claims headers, bearerToken req.authorization = .ok token ∧
    verifyAt app.env token req.now = .ok claims ∧
    inject (sanitizeHeadersMiddleware req.headers)
      (.next (userIdHeader app.env claims) (rolesHeader claims)) = some headers ∧
    forwarded.headers = proxyReq req.routed headers
  mount : app.mounted req.url = some (forwarded.service, forwarded.url)
  same : forwarded.method = req.method ∧ forwarded.authorization = req.authorization

section Chain

variable {app : GatewayApp} {req : GatewayRequest} {x y : GatewayExchange} {forwarded : Forwarded}

/-- The rate limit lets requests pass that it does not reject. -/
theorem rateLimitMiddleware_next : rateLimitMiddleware x = .next y ↔
    x.req.limited = false ∧ x = y := by
  unfold rateLimitMiddleware
  cases x.req.limited <;> simp

/-- The CORS middleware lets requests of an allowed origin pass that are no preflight. -/
theorem corsMiddleware_next : corsMiddleware app x = .next y ↔
    originAllowed app.config.corsAllowedOrigins (x.req.headers "origin") = true ∧
      x.req.method ≠ "OPTIONS" ∧ x = y := by
  unfold corsMiddleware
  by_cases horigin :
      originAllowed app.config.corsAllowedOrigins (x.req.headers "origin") = true
  · rw [if_neg (by simp [horigin])]
    by_cases hmethod : x.req.method = "OPTIONS" <;> simp [horigin, hmethod]
  · rw [if_pos (by simpa using horigin)]
    simp [horigin]

/-- The method validation of the gateway lets the supported methods pass. -/
theorem validateHttpMethodMiddleware_next : validateHttpMethodMiddleware x = .next y ↔
    x.req.method ∈ ALLOWED_METHODS ∧ x = y := by
  unfold validateHttpMethodMiddleware
  by_cases hmethod : x.req.method ∈ ALLOWED_METHODS <;> simp [hmethod]

/-- The parsers of the gateway let a body pass that they can read. -/
theorem bodyParsers_next : bodyParsers x = .next y ↔ (∃ body, x.req.body = .ok body) ∧ x = y := by
  unfold bodyParsers
  cases hbody : x.req.body <;> simp

/-- The content type validation of the gateway lets bodies pass that name one of its types. -/
theorem validateContentTypeMiddleware_next : validateContentTypeMiddleware x = .next y ↔
    (x.req.method ∈ METHODS_WITH_BODY → NamesContentType x.req.headers) ∧ x = y := by
  unfold validateContentTypeMiddleware NamesContentType
  by_cases hmethod : x.req.method ∈ METHODS_WITH_BODY
  · cases htype : x.req.headers "content-type" with
    | none => simp [hmethod]
    | some contentType =>
      by_cases hnames : CONTENT_TYPES.any (PolicyEngine.occursIn · contentType) = true
      · have hmedia := List.any_eq_true.mp hnames
        simp [hmethod, hnames, hmedia]
      · have hmedia : ¬ ∃ media ∈ CONTENT_TYPES, PolicyEngine.occursIn media contentType = true :=
          fun h ↦ hnames (List.any_eq_true.mpr h)
        simp only [Bool.not_eq_true] at hnames
        simp [hmethod, hnames, hmedia]
  · simp [hmethod]

/-- What gets through the middlewares, and how. -/
theorem chain_middlewares : chain app.middlewares { req := req } = .next x ↔
    req.limited = false ∧
      originAllowed app.config.corsAllowedOrigins (req.headers "origin") = true ∧
      req.method ∈ FORWARDED_METHODS ∧ (∃ body, req.body = .ok body) ∧
      (req.method ∈ METHODS_WITH_BODY → NamesContentType req.headers) ∧ req.routed = x := by
  have hmethods : req.method ∈ FORWARDED_METHODS ↔
      req.method ≠ "OPTIONS" ∧ req.method ∈ ALLOWED_METHODS := by
    unfold FORWARDED_METHODS ALLOWED_METHODS
    simp only [List.mem_cons, List.not_mem_nil, or_false]
    constructor
    · rintro (h | h | h | h | h) <;> simp [h]
    · rintro ⟨hne, h⟩
      tauto
  rw [chain_eq_next]
  simp only [GatewayApp.middlewares, passes_cons, passes_nil, rateLimitMiddleware_next,
    corsMiddleware_next, validateHttpMethodMiddleware_next, bodyParsers_next,
    validateContentTypeMiddleware_next, correlationIdMiddleware, sanitizeHeaders, Flow.next.injEq]
  constructor
  · rintro ⟨_, rfl, _, ⟨hlimited, rfl⟩, _, ⟨horigin, hoptions, rfl⟩, _, ⟨hmethod, rfl⟩, _,
      ⟨hbody, rfl⟩, _, ⟨hmedia, rfl⟩, _, rfl, rfl⟩
    exact ⟨hlimited, horigin, hmethods.mpr ⟨hoptions, hmethod⟩, hbody, hmedia, rfl⟩
  · rintro ⟨hlimited, horigin, hmethod, hbody, hmedia, rfl⟩
    obtain ⟨hoptions, hmethod⟩ := hmethods.mp hmethod
    exact ⟨_, rfl, _, ⟨hlimited, rfl⟩, _, ⟨horigin, hoptions, rfl⟩, _, ⟨hmethod, rfl⟩, _,
      ⟨hbody, rfl⟩, _, ⟨hmedia, rfl⟩, _, rfl, rfl⟩

/-- The gateway serves its own pages. -/
theorem healthRoutes_eq_none : app.healthRoutes x = none ↔ ¬ app.Serves x.req := by
  unfold GatewayApp.healthRoutes GatewayApp.Serves
  by_cases hmethod : x.req.method = "GET"
  · simp only [hmethod, decide_true, Bool.true_and, true_and, List.mem_cons, List.not_mem_nil,
      or_false]
    split_ifs <;> simp_all
  · simp [hmethod]

/-- The verdict lets a request go on exactly with a token that verifies. -/
theorem verdictAt_next {authorization : Option (List Text)} {now : Nat}
    {xUserId xUserRoles : Option String} {env : Env} :
    verdictAt env authorization now = .next xUserId xUserRoles ↔
      ∃ token claims, bearerToken authorization = .ok token ∧ verifyAt env token now = .ok claims ∧
        xUserId = userIdHeader env claims ∧ xUserRoles = rolesHeader claims := by
  unfold verdictAt
  cases hbearer : bearerToken authorization with
  | error message => simp
  | ok token =>
    dsimp only
    cases hverify : verifyAt env token now with
    | ok claims =>
      simp [hverify, eq_comm]
    | error e => cases e <;> simp [hverify]

/-- The routes hand a request over exactly if no page answers it, the verdict lets it go on, and the
proxy router finds a service. -/
theorem route_eq_forwards {body : Option Document} :
    app.route x body = .forwards y forwarded ↔ app.healthRoutes x = none ∧ x = y ∧
      ∃ xUserId xUserRoles,
        verdictAt app.env x.req.authorization x.req.now = .next xUserId xUserRoles ∧
        ((inject x.req.headers (.next xUserId xUserRoles)).bind fun headers ↦
          app.proxyRouter x headers body) = some forwarded := by
  unfold GatewayApp.route
  cases app.healthRoutes x with
  | some response => simp
  | none =>
    dsimp only
    cases verdictAt app.env x.req.authorization x.req.now with
    | unauthorized message => simp
    | internalServerError message => simp
    | next xUserId xUserRoles =>
      dsimp only
      cases hsent : (inject x.req.headers (.next xUserId xUserRoles)).bind fun headers ↦
          app.proxyRouter x headers body with
      | none => simp [hsent]
      | some sent => simp [hsent]

/-- The routes hand a request over exactly if it is for none of the pages, has a token that verifies
and is under a mount path. -/
theorem route_forwards {body : Option Document} :
    app.route x body = .forwards y forwarded ↔ ¬ app.Serves x.req ∧ x = y ∧
      ∃ token claims headers, bearerToken x.req.authorization = .ok token ∧
        verifyAt app.env token x.req.now = .ok claims ∧
        inject x.req.headers (.next (userIdHeader app.env claims) (rolesHeader claims)) =
          some headers ∧ app.proxyRouter x headers body = some forwarded := by
  rw [route_eq_forwards, healthRoutes_eq_none]
  constructor
  · rintro ⟨hserves, rfl, xUserId, xUserRoles, hverdict, hsent⟩
    obtain ⟨token, claims, htoken, hverify, rfl, rfl⟩ := verdictAt_next.mp hverdict
    obtain ⟨headers, hinject, hproxy⟩ := Option.bind_eq_some_iff.mp hsent
    exact ⟨hserves, rfl, token, claims, headers, htoken, hverify, hinject, hproxy⟩
  · rintro ⟨hserves, rfl, token, claims, headers, htoken, hverify, hinject, hproxy⟩
    exact ⟨hserves, rfl, _, _, verdictAt_next.mpr ⟨token, claims, htoken, hverify, rfl, rfl⟩,
      Option.bind_eq_some_iff.mpr ⟨headers, hinject, hproxy⟩⟩

/-- The proxy router goes by the URL alone. -/
theorem proxyRouter_eq (app : GatewayApp) (x : GatewayExchange) (headers : Headers)
    (body : Option Document) :
    app.proxyRouter x headers body = (app.mounted x.req.url).map fun found ↦
      ⟨found.1, x.req.method, found.2, proxyReq x headers, x.req.authorization, body⟩ := by
  unfold GatewayApp.proxyRouter GatewayApp.mounted mounts
  simp only [List.findSome?_cons, List.findSome?_nil]
  cases app.below "/api/v1/auth" x.req.url with
  | some url => rfl
  | none =>
    cases app.below "/api/v1/customers" x.req.url with
    | some url => rfl
    | none => cases app.below "/api/v1/risk" x.req.url <;> rfl

/-- What the proxy hands over is the request, with the rest of its URL. -/
theorem proxyRouter_eq_some {headers : Headers} {body : Option Document} :
    app.proxyRouter x headers body = some forwarded ↔
      app.mounted x.req.url = some (forwarded.service, forwarded.url) ∧
        forwarded.method = x.req.method ∧ forwarded.authorization = x.req.authorization ∧
        forwarded.body = body ∧ forwarded.headers = proxyReq x headers := by
  rw [proxyRouter_eq]
  cases hfound : app.mounted x.req.url with
  | none => simp
  | some found =>
    rw [Option.map_some]
    constructor
    · intro h
      cases h
      exact ⟨rfl, rfl, rfl, rfl, rfl⟩
    · rintro ⟨h, hmethod, hauthorization, hbody, hheaders⟩
      cases h
      cases forwarded
      simp_all

/-- The gateway hands a request over exactly if it may pass. -/
theorem arrive_forwards_iff (app : GatewayApp) (req : GatewayRequest) (x : GatewayExchange)
    (forwarded : Forwarded) :
    app.arrive req = .forwards x forwarded ↔ req.Passes app forwarded ∧ x = req.routed := by
  unfold GatewayApp.arrive
  constructor
  · intro h
    cases hchain : chain app.middlewares { req := req } with
    | ended response =>
      rw [hchain] at h
      cases h
    | thrown y error =>
      rw [hchain] at h
      cases h
    | next y =>
      obtain ⟨hlimited, horigin, hmethod, ⟨body, hbody⟩, hmedia, rfl⟩ := chain_middlewares.mp hchain
      rw [hchain] at h
      dsimp only at h
      rw [show req.routed.req.body = .ok body from hbody] at h
      obtain ⟨hserves, rfl, token, claims, headers, htoken, hverify, hinject, hproxy⟩ :=
        route_forwards.mp h
      obtain ⟨hmount, hsame, hauthorization, rfl, hheaders⟩ := proxyRouter_eq_some.mp hproxy
      refine ⟨?_, rfl⟩
      exact
        { unlimited := hlimited
          origin := horigin
          method := hmethod
          media := hmedia
          notServed := hserves
          body := hbody
          token := ⟨token, claims, headers, htoken, hverify, hinject, hheaders⟩
          mount := hmount
          same := ⟨hsame, hauthorization⟩ }
  · rintro ⟨h, rfl⟩
    obtain ⟨token, claims, headers, htoken, hverify, hinject, hheaders⟩ := h.token
    rw [chain_middlewares.mpr ⟨h.unlimited, h.origin, h.method, ⟨_, h.body⟩, h.media, rfl⟩]
    dsimp only
    rw [show req.routed.req.body = .ok forwarded.body from h.body]
    refine route_forwards.mpr
      ⟨h.notServed, rfl, token, claims, headers, htoken, hverify, hinject, ?_⟩
    exact proxyRouter_eq_some.mpr ⟨h.mount, h.same.1, h.same.2, rfl, hheaders⟩

end Chain

end Bankos.Gateway
