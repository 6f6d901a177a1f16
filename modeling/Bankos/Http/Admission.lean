import Bankos.Http.Identity

/-!
# Which requests reach a controller

The exact conditions under which a request to the identity application arrives at a controller, and
what it carries when it does: the strings that its schema has checked, the address and the agent of
the connection, and for a logout the token of the header. Nothing else of the body gets through.
-/

namespace Bankos

open Js Jwt Effects Shapes Middleware

/-! ### What a call carries -/

/-- The fields of the schema of the route, with the check of each. -/
def AuthRoute.checks (email : String → Bool) : AuthRoute → List (String × (String → Bool))
  | register => [("email", email), ("passwordRaw", RbacValidators.min 8)]
  | login => [("email", email), ("passwordRaw", RbacValidators.min 1)]
  | refresh => [("refreshToken", RbacValidators.min 1)]
  | logout => [("refreshToken", RbacValidators.min 1)]
  | forgotPassword => [("email", email)]
  | resetPassword => [("token", RbacValidators.min 1), ("newPasswordRaw", RbacValidators.min 8)]
  | verifyEmail => [("token", RbacValidators.min 1)]
  | sendVerification => [("email", email)]

namespace AuthCall

/-- The route whose controller takes the call. -/
def route : AuthCall → AuthRoute
  | register _ => .register
  | login _ => .login
  | refresh .. => .refresh
  | logout .. => .logout
  | forgotPassword _ => .forgotPassword
  | resetPassword _ => .resetPassword
  | verifyEmail _ => .verifyEmail
  | sendVerification _ => .sendVerification

/-- The call carries strings of the body, and address, agent and token of the connection. -/
def Reads (text : String → Text) (req : IdentityRequest) (body : Document) : AuthCall → Prop
  | register r => body.stringField "email" = some r.email ∧
      body.stringField "passwordRaw" = some r.passwordRaw ∧
      r.ipAddress = req.ipAddress ∧ r.userAgent = req.userAgent
  | login r => body.stringField "email" = some r.email ∧
      body.stringField "passwordRaw" = some r.passwordRaw ∧
      r.ipAddress = req.ipAddress ∧ r.userAgent = req.userAgent
  | refresh refreshToken ipAddress userAgent =>
      (body.stringField "refreshToken").map text = some refreshToken ∧
      ipAddress = req.ipAddress ∧ userAgent = req.userAgent
  | logout r ipAddress userAgent =>
      (body.stringField "refreshToken").map text = some r.refreshToken ∧
      extractAuthToken req.authorization = some r.accessToken ∧
      ipAddress = req.ipAddress ∧ userAgent = req.userAgent
  | forgotPassword r => body.stringField "email" = some r.email ∧
      r.ipAddress = req.ipAddress ∧ r.userAgent = req.userAgent
  | resetPassword r => (body.stringField "token").map text = some r.token ∧
      body.stringField "newPasswordRaw" = some r.newPasswordRaw ∧
      r.ipAddress = req.ipAddress ∧ r.userAgent = req.userAgent
  | verifyEmail r => (body.stringField "token").map text = some r.token ∧
      r.ipAddress = req.ipAddress ∧ r.userAgent = req.userAgent
  | sendVerification email => body.stringField "email" = some email

end AuthCall

/-- The request may reach the controller of the call, with the body that carries it: an object with
the strings of the schema, each with its check, and with nothing else. -/
structure IdentityRequest.Admitted (app : IdentityApp) (req : IdentityRequest) (call : AuthCall) :
    Prop where
  origin : originAllowed app.corsAllowedOrigins (req.headers "origin") = true
  method : req.method = "POST"
  media : ∃ media ∈ ALLOWED_CONTENT_TYPES, mediaType app req.headers = some media
  route : (AuthRoute.all.find? fun route ↦ app.matchesPath route.path req.path) = some call.route
  body : ∃ fields, req.body = .ok (some (.obj fields)) ∧
    (∀ f ∈ fields, f.1 ∈ (call.route.checks app.email).map Prod.fst) ∧
    (∀ f ∈ call.route.checks app.email,
      ∃ s, (Document.obj fields).stringField f.1 = some s ∧ f.2 s = true) ∧
    call.Reads app.text req (.obj fields)

/-- The body is one of those that the middlewares and the error handler write. -/
def AppBody.Early : AppBody → Prop
  | .empty => True
  | .error _ => True
  | .failure _ _ => True
  | _ => False

/-- The answer carries no data of a controller. -/
def AppResponse.Dataless (response : AppResponse) : Prop :=
  ∀ data, response.body ≠ .auth (.data data)

/-- The exchange as the middlewares hand it to the router. -/
def IdentityRequest.routed (req : IdentityRequest) : Exchange where
  req := { req with headers := HEADERS_TO_STRIP.foldl Headers.delete req.headers }
  correlationId := some (correlationId (req.headers "x-correlation-id") req.freshId)

namespace IdentityApp

variable {app : IdentityApp} {req : IdentityRequest} {x y : Exchange}

/-! ### What each middleware passes on -/

/-- The CORS middleware lets requests of an allowed origin pass that are no preflight. -/
theorem corsMiddleware_next : corsMiddleware app x = .next y ↔
    originAllowed app.corsAllowedOrigins (x.req.headers "origin") = true ∧
      x.req.method ≠ "OPTIONS" ∧ x = y := by
  unfold corsMiddleware
  by_cases horigin : originAllowed app.corsAllowedOrigins (x.req.headers "origin") = true
  · rw [if_neg (by simp [horigin])]
    by_cases hmethod : x.req.method = "OPTIONS" <;> simp [horigin, hmethod]
  · rw [if_pos (by simpa using horigin)]
    simp [horigin]

/-- The method validation lets the supported methods pass. -/
theorem methodValidationMiddleware_next : methodValidationMiddleware x = .next y ↔
    x.req.method ∈ ALLOWED_METHODS ∧ x = y := by
  unfold methodValidationMiddleware
  by_cases hmethod : x.req.method ∈ ALLOWED_METHODS <;> simp [hmethod]

/-- The content type validation lets bodies pass that come with an allowed type. -/
theorem contentTypeValidationMiddleware_next : contentTypeValidationMiddleware app x = .next y ↔
    (x.req.method ∈ METHODS_WITH_BODY →
      ∃ media ∈ ALLOWED_CONTENT_TYPES, mediaType app x.req.headers = some media) ∧ x = y := by
  unfold contentTypeValidationMiddleware
  by_cases hmethod : x.req.method ∈ METHODS_WITH_BODY
  · cases hmedia : mediaType app x.req.headers with
    | none => simp [hmethod]
    | some media => by_cases hallowed : media ∈ ALLOWED_CONTENT_TYPES <;> simp [hmethod, hallowed]
  · simp [hmethod]

/-- The parsers let a body pass that they can read. -/
theorem bodyParsers_next : bodyParsers x = .next y ↔ (∃ body, x.req.body = .ok body) ∧ x = y := by
  unfold bodyParsers
  cases hbody : x.req.body <;> simp

/-- A header that is not stripped stays. -/
theorem stripped_apply {names : List String} {headers : Headers} {key : String}
    (h : key ∉ names) : names.foldl Headers.delete headers key = headers key := by
  induction names generalizing headers with
  | nil => rfl
  | cons name names ih =>
    rw [List.mem_cons, not_or] at h
    rw [List.foldl_cons, ih h.2]
    exact if_neg h.1

/-- What gets through the middlewares, and how. -/
theorem chain_middlewares : chain app.middlewares { req := req } = .next x ↔
    originAllowed app.corsAllowedOrigins (req.headers "origin") = true ∧
      req.method ≠ "OPTIONS" ∧ req.method ∈ ALLOWED_METHODS ∧
      (req.method ∈ METHODS_WITH_BODY →
        ∃ media ∈ ALLOWED_CONTENT_TYPES, mediaType app req.headers = some media) ∧
      (∃ body, req.body = .ok body) ∧ req.routed = x := by
  have hmedia : mediaType app (HEADERS_TO_STRIP.foldl Headers.delete req.headers) =
      mediaType app req.headers := by
    unfold mediaType
    rw [stripped_apply (by decide)]
  rw [chain_eq_next]
  simp only [middlewares, passes_cons, passes_nil, corsMiddleware_next,
    methodValidationMiddleware_next, correlationIdMiddleware, headerSanitizationMiddleware,
    contentTypeValidationMiddleware_next, bodyParsers_next, Flow.next.injEq]
  constructor
  · rintro ⟨_, ⟨horigin, hoptions, rfl⟩, _, ⟨hmethod, rfl⟩, _, rfl, _, rfl, _, ⟨hcontent, rfl⟩, _,
      ⟨hbody, rfl⟩, rfl⟩
    dsimp only at hcontent
    rw [hmedia] at hcontent
    exact ⟨horigin, hoptions, hmethod, hcontent, hbody, rfl⟩
  · rintro ⟨horigin, hoptions, hmethod, hcontent, hbody, rfl⟩
    refine ⟨_, ⟨horigin, hoptions, rfl⟩, _, ⟨hmethod, rfl⟩, _, rfl, _, rfl, _, ⟨?_, rfl⟩, _,
      ⟨hbody, rfl⟩, rfl⟩
    dsimp only
    rw [hmedia]
    exact hcontent

end IdentityApp

/-! ### What a route lets through -/

namespace AuthRoute

variable {app : IdentityApp} {x x' : Exchange} {route : AuthRoute} {call : AuthCall}
  {text : String → Text}

/-- Every schema is a strict object of strings. -/
theorem schema_eq (email : String → Bool) (route : AuthRoute) :
    route.schema email = .object (Parser.strings (route.checks email)) .refused := by
  cases route <;> rfl

/-- No schema names a field twice. -/
theorem nodup_checks (email : String → Bool) (route : AuthRoute) :
    ((route.checks email).map Prod.fst).Nodup := by
  cases route <;> simp [checks]

/-- The address and the agent of the connection are in the body, whatever came there. -/
theorem stringField_extractClientMeta (req : IdentityRequest) (fields : List (String × Document)) :
    (extractClientMeta req (.obj fields)).stringField "ipAddress" = some req.ipAddress ∧
      (extractClientMeta req (.obj fields)).stringField "userAgent" = some req.userAgent ∧
      ∀ key, key ≠ "ipAddress" → key ≠ "userAgent" →
        (extractClientMeta req (.obj fields)).stringField key =
          (Document.obj fields).stringField key := by
  unfold extractClientMeta Document.stringField
  refine ⟨?_, ?_, fun key hip hua ↦ ?_⟩
  · rw [Document.field_set_of_ne _ (by decide), Document.field_set_self]
  · have hobj : ∃ fields', (Document.obj fields).set "ipAddress" (.str req.ipAddress) =
        .obj fields' := ⟨_, rfl⟩
    obtain ⟨fields', hfields'⟩ := hobj
    rw [hfields', Document.field_set_self]
  · rw [Document.field_set_of_ne _ hua, Document.field_set_of_ne _ hip]

/-- The controller of the route reads the call of the body. -/
theorem call_eq_some {req : IdentityRequest} {fields : List (String × Document)} {token : Text}
    (htoken : route = .logout → extractAuthToken req.authorization = some token) :
    route.call text (extractClientMeta req (.obj fields)) token = some call ↔
      call.route = route ∧ call.Reads text req (.obj fields) := by
  obtain ⟨hip, hua, hother⟩ := stringField_extractClientMeta req fields
  have hemail := hother "email" (by decide) (by decide)
  have hpassword := hother "passwordRaw" (by decide) (by decide)
  have hrefresh := hother "refreshToken" (by decide) (by decide)
  have htokenField := hother "token" (by decide) (by decide)
  have hnew := hother "newPasswordRaw" (by decide) (by decide)
  unfold AuthRoute.call
  rw [hip, hua, hemail, hpassword, hrefresh, htokenField, hnew]
  clear hip hua hother hemail hpassword hrefresh htokenField hnew
  cases route <;> cases call <;>
    simp [AuthCall.route, AuthCall.Reads, Option.bind_eq_some_iff]
  case register.register r =>
    cases r
    grind
  case login.login r =>
    cases r
    grind
  case refresh.refresh => grind
  case logout.logout r _ _ =>
    cases r
    grind
  case forgotPassword.forgotPassword r =>
    cases r
    grind
  case resetPassword.resetPassword r =>
    cases r
    grind
  case verifyEmail.verifyEmail r =>
    cases r
    grind

/-- A call reads no other fields than those of its schema. -/
theorem reads_congr {req : IdentityRequest} {body body' : Document} (email : String → Bool)
    (h : ∀ key ∈ (call.route.checks email).map Prod.fst,
      body.stringField key = body'.stringField key) :
    call.Reads text req body ↔ call.Reads text req body' := by
  cases call <;> simp only [AuthCall.route, checks, List.map_cons, List.map_nil, List.mem_cons,
    List.not_mem_nil, or_false, forall_eq_or_imp, forall_eq] at h <;>
    simp only [AuthCall.Reads, h]

/-- The middleware lets through what the schema returns, and answers the rest. -/
theorem validateRequest_eq (schema : Parser) (body : Option Document) :
    (∃ parsed, schema body = some parsed ∧ validateRequest schema body = .next parsed) ∨
      schema body = none ∧ ∃ response, validateRequest schema body = .answered response := by
  unfold validateRequest
  cases schema body with
  | some parsed => exact .inl ⟨parsed, rfl, rfl⟩
  | none => exact .inr ⟨rfl, _, rfl⟩

/-- The token of the header, where the route asks for one. -/
def token (route : AuthRoute) (authorization : Option (List Text)) : Option Text :=
  if route = .logout then extractAuthToken authorization else some (.plain "")

/-- A validated body with a token leads to the controller. -/
theorem arrive_of_parsed {body parsed : Option Document}
    (h : route.schema app.email body = some parsed) :
    route.arrive app x body = .calls x' call ↔
      x = x' ∧ ∃ accessToken, route.token x.req.authorization = some accessToken ∧
        route.call app.text (extractClientMeta x.req (parsed.getD .null)) accessToken =
          some call := by
  unfold AuthRoute.arrive validateRequest token
  rw [h]
  dsimp only
  cases htoken : (if route = .logout then extractAuthToken x.req.authorization
      else some (.plain "") : Option Text) with
  | none => simp
  | some accessToken =>
    cases hcall : route.call app.text (extractClientMeta x.req (parsed.getD .null)) accessToken with
    | none => simp [hcall]
    | some call' => simp [hcall]

/-- A route leads to its controller if the body meets its schema and the call can be read. -/
theorem arrive_calls {body : Option Document} :
    route.arrive app x body = .calls x' call ↔ x = x' ∧ call.route = route ∧
      ∃ fields, body = some (.obj fields) ∧
        (∀ f ∈ fields, f.1 ∈ (route.checks app.email).map Prod.fst) ∧
        (∀ f ∈ route.checks app.email,
          ∃ s, (Document.obj fields).stringField f.1 = some s ∧ f.2 s = true) ∧
        call.Reads app.text x.req (.obj fields) := by
  have hnodup := nodup_checks app.email route
  constructor
  · intro h
    obtain ⟨parsed, hparsed⟩ : ∃ parsed, route.schema app.email body = some parsed := by
      rcases validateRequest_eq (route.schema app.email) body with
        ⟨parsed, hparsed, -⟩ | ⟨-, response, hresponse⟩
      · exact ⟨parsed, hparsed⟩
      · unfold AuthRoute.arrive at h
        rw [hresponse] at h
        cases h
    obtain ⟨rfl, accessToken, htoken, hcall⟩ := (arrive_of_parsed hparsed).mp h
    rw [schema_eq] at hparsed
    obtain ⟨fields, rfl, honly, hstrings⟩ := (Parser.object_strings hnodup).mp ⟨parsed, hparsed⟩
    obtain ⟨result, rfl, hsame⟩ := Parser.stringField_of_strings hparsed hnodup
    have hlogout : route = .logout → extractAuthToken x.req.authorization = some accessToken := by
      rintro rfl
      exact htoken
    obtain ⟨rfl, hreads⟩ := (call_eq_some hlogout).mp hcall
    exact ⟨rfl, rfl, fields, rfl, honly, hstrings, (reads_congr app.email hsame).mp hreads⟩
  · rintro ⟨rfl, rfl, fields, rfl, honly, hstrings, hreads⟩
    obtain ⟨parsed, hparsed⟩ := (Parser.object_strings hnodup).mpr ⟨fields, rfl, honly, hstrings⟩
    obtain ⟨result, rfl, hsame⟩ := Parser.stringField_of_strings hparsed hnodup
    rw [← schema_eq] at hparsed
    obtain ⟨accessToken, htoken, hlogout⟩ : ∃ accessToken,
        call.route.token x.req.authorization = some accessToken ∧
          (call.route = .logout → extractAuthToken x.req.authorization = some accessToken) := by
      cases call with
      | logout r ipAddress userAgent => exact ⟨r.accessToken, hreads.2.1, fun _ ↦ hreads.2.1⟩
      | _ => exact ⟨.plain "", rfl, fun h ↦ nomatch h⟩
    refine (arrive_of_parsed hparsed).mpr ⟨rfl, accessToken, htoken, ?_⟩
    exact (call_eq_some hlogout).mpr ⟨rfl, (reads_congr app.email hsame).mpr hreads⟩

end AuthRoute

/-! ### The way of a request -/

namespace IdentityApp

variable {app : IdentityApp} {req : IdentityRequest} {x x' : Exchange} {call : AuthCall}

/-- The router takes a request for the first authentication route whose path matches, if the
method is `POST`, and for a controller only then. -/
theorem route_calls {body : Option Document} :
    app.route x body = .calls x' call ↔
      ∃ route, app.authRoute x = some route ∧ route.arrive app x body = .calls x' call := by
  have hget : ∀ route, app.authRoute x = some route → ∀ pattern, app.isGet x pattern = false := by
    intro route hroute pattern
    unfold authRoute at hroute
    split at hroute
    · next hmethod =>
      unfold isGet
      rw [hmethod]
      rfl
    · cases hroute
  cases hroute : app.authRoute x with
  | none =>
    have hanswered : ∃ response, app.route x body = .answered response := by
      unfold IdentityApp.route
      rw [hroute]
      dsimp only
      split_ifs <;> exact ⟨_, rfl⟩
    obtain ⟨response, hresponse⟩ := hanswered
    simp [hresponse]
  | some route =>
    unfold IdentityApp.route
    simp only [hget route hroute, hroute]
    simp

/-- A request reaches the controller of a call exactly when it is admitted for it. -/
theorem arrive_calls_iff (app : IdentityApp) (req : IdentityRequest) (call : AuthCall) :
    (∃ x, app.arrive req = .calls x call) ↔ req.Admitted app call := by
  have hauth : ∀ route, app.authRoute req.routed = some route ↔ req.method = "POST" ∧
      (AuthRoute.all.find? fun route ↦ app.matchesPath route.path req.path) = some route := by
    intro route
    unfold authRoute
    by_cases hmethod : req.method = "POST" <;> simp [IdentityRequest.routed, hmethod]
  have hreads : ∀ fields, call.Reads app.text req.routed.req (.obj fields) ↔
      call.Reads app.text req (.obj fields) := by
    intro fields
    have hagent : req.routed.req.userAgent = req.userAgent := by
      have hkept : req.routed.req.headers "user-agent" = req.headers "user-agent" :=
        stripped_apply (by decide)
      unfold IdentityRequest.userAgent
      rw [hkept]
    cases call <;> simp only [AuthCall.Reads, hagent] <;> rfl
  constructor
  · rintro ⟨x, h⟩
    unfold arrive at h
    cases hchain : chain app.middlewares { req := req } with
    | ended response =>
      rw [hchain] at h
      cases h
    | thrown y error =>
      rw [hchain] at h
      cases h
    | next y =>
      obtain ⟨horigin, -, -, hmedia, ⟨body, hbody⟩, rfl⟩ := chain_middlewares.mp hchain
      rw [hchain] at h
      dsimp only at h
      rw [show req.routed.req.body = .ok body from hbody] at h
      obtain ⟨route, hroute, harrive⟩ := route_calls.mp h
      obtain ⟨hmethod, hfind⟩ := (hauth route).mp hroute
      obtain ⟨-, rfl, fields, rfl, honly, hstrings, hcall⟩ := AuthRoute.arrive_calls.mp harrive
      exact
        { origin := horigin
          method := hmethod
          media := hmedia (by rw [hmethod]; decide)
          route := hfind
          body := ⟨fields, hbody, honly, hstrings, (hreads fields).mp hcall⟩ }
  · intro h
    obtain ⟨fields, hbody, honly, hstrings, hcall⟩ := h.body
    have hchain : chain app.middlewares { req := req } = .next req.routed := by
      rw [chain_middlewares, h.method]
      exact ⟨h.origin, by decide, by decide, fun _ ↦ h.media, ⟨_, hbody⟩, rfl⟩
    refine ⟨req.routed, ?_⟩
    unfold arrive
    rw [hchain]
    dsimp only
    rw [show req.routed.req.body = .ok (some (.obj fields)) from hbody]
    refine route_calls.mpr ⟨call.route, (hauth _).mpr ⟨h.method, h.route⟩, ?_⟩
    refine AuthRoute.arrive_calls.mpr ⟨rfl, rfl, fields, rfl, honly, hstrings, ?_⟩
    exact (hreads fields).mpr hcall

/-! ### Requests that are answered on the way -/

/-- The error handler answers with a message. -/
theorem errorHandler_early (x : Exchange) (err : HttpError) : (errorHandler x err).body.Early := by
  unfold errorHandler
  split_ifs <;> exact trivial

/-- A middleware that ends a request answers with a message or with nothing. -/
theorem middlewares_early {m : IdentityMiddleware} (hm : m ∈ app.middlewares)
    {response : AppResponse} (h : m x = .ended response) : response.body.Early := by
  unfold middlewares at hm
  simp only [List.mem_cons, List.not_mem_nil, or_false] at hm
  obtain rfl | rfl | rfl | rfl | rfl | rfl := hm
  · unfold corsMiddleware at h
    split_ifs at h
    cases h
    exact trivial
  · unfold methodValidationMiddleware at h
    split_ifs at h
    cases h
    exact trivial
  · cases h
  · cases h
  · unfold contentTypeValidationMiddleware at h
    split_ifs at h
    cases h
    exact trivial
  · unfold bodyParsers at h
    split at h <;> cases h

/-- A request that does not reach a controller has been answered early, or by the router. -/
theorem arrive_answered {response : AppResponse} (h : app.arrive req = .answered response) :
    response.body.Early ∨ ∃ body, req.body = .ok body ∧
      chain app.middlewares { req := req } = .next req.routed ∧
      app.route req.routed body = .answered response := by
  have hmeets : (chain app.middlewares { req := req }).Meets (fun _ ↦ True)
      (fun response ↦ response.body.Early) fun _ _ ↦ True := by
    refine chain_meets (fun m hm x _ ↦ ?_) trivial
    cases hflow : m x with
    | ended response => exact middlewares_early hm hflow
    | _ => exact trivial
  unfold arrive at h
  split at h
  · next hchain =>
    injection h with h
    subst h
    rw [hchain] at hmeets
    exact .inl hmeets
  · cases h
    exact .inl (errorHandler_early _ _)
  · next y hchain =>
    obtain ⟨-, -, -, -, ⟨body, hbody⟩, rfl⟩ := chain_middlewares.mp hchain
    rw [show req.routed.req.body = .ok body from hbody] at h
    exact .inr ⟨body, hbody, hchain, h⟩

/-- The documentation is a page, or the answer of the error handler. -/
theorem swaggerUi_body (x : Exchange) :
    (app.swaggerUi x).body = .docs ∨ (app.swaggerUi x).body.Early := by
  unfold swaggerUi
  split
  · exact .inl rfl
  · exact .inr (errorHandler_early _ _)

/-- The documentation has no data. -/
theorem swaggerUi_dataless (x : Exchange) : (app.swaggerUi x).Dataless := by
  intro data hdata
  rcases app.swaggerUi_body x with hbody | hbody
  · rw [hdata] at hbody
    cases hbody
  · rw [hdata] at hbody
    exact hbody

/-- A route answers without data before its controller is called. -/
theorem route_dataless {body : Option Document} {response : AppResponse}
    (h : app.route x body = .answered response) : response.Dataless := by
  intro data hdata
  unfold IdentityApp.route at h
  cases hroute : app.authRoute x with
  | none =>
    rw [hroute] at h
    dsimp only at h
    split_ifs at h
    all_goals
      cases h
      first
        | exact swaggerUi_dataless x data hdata
        | cases hdata
  | some route =>
    rw [hroute] at h
    dsimp only at h
    split_ifs at h
    any_goals
      cases h
      cases hdata
    unfold AuthRoute.arrive at h
    split at h
    · cases h
      cases hdata
    · dsimp only at h
      split at h
      · cases h
        cases hdata
      · split at h
        · cases h
        · cases h
          cases hdata

/-- A request that does not reach a controller is answered without data. -/
theorem arrive_dataless {response : AppResponse} (h : app.arrive req = .answered response) :
    response.Dataless := by
  rcases arrive_answered h with hearly | ⟨body, -, -, hroute⟩
  · intro data hdata
    rw [hdata] at hearly
    exact hearly
  · exact route_dataless hroute

end IdentityApp

/-- The application with routes that are their own paths. -/
def Sample.app : IdentityApp where
  env := env
  jwks := ⟨"", weakTag "", ""⟩
  fresh _ _ _ := false
  docs _ path _ := .ok (if path = "/docs" then 301 else 200)
  corsAllowedOrigins := ["https://bank.example"]
  matchesPath pattern path := decide (pattern = path)
  email s := s.toList.contains '@'
  text := .plain

/-- The request for the login of `alice`. -/
def Sample.signIn : IdentityRequest where
  method := "POST"
  path := "/api/v1/auth/login"
  headers := fun name ↦
    if name = "content-type" then some "application/json"
    else if name = "user-agent" then some "browser"
    else none
  authorization := none
  ip := some "10.0.0.1"
  body := .ok (some (.obj
    [("email", .str "alice@bank.example"), ("passwordRaw", .str "Correct-horse-1")]))
  freshId := "00000000-0000-4000-8000-000000000000"

example : ∃ x, Sample.app.arrive Sample.signIn = .calls x (.login Sample.login) := ⟨_, rfl⟩

end Bankos
