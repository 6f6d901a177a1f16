import Bankos.Http.Admission

/-!
# The identity application under load

All requests to the application in flight over one world, against the controllers alone, called with
the requests that were admitted. The application is the image of the controllers: it makes their
calls and no others, and only puts their answers in other words.
-/

namespace Bankos

open Js Jwt Effects Shapes Middleware Prog

/-- The requests to the application in flight, named by `ι`. -/
abbrev HttpServer (ι : Type) := Pool Api JsError ι AppResponse World

/-- The calls of controllers in flight; a request that is refused calls none. -/
abbrev ControllerServer (ι : Type) := Pool Api JsError ι (Option (HttpResponse AuthData)) World

/-- The controller of an admitted request, alone. -/
def AuthCall.serve (env : Env) : Option AuthCall → Program (Option (HttpResponse AuthData))
  | none => pure none
  | some c => do
    let response ← c.program env
    pure (some response)

/-- The controllers over the world `w` before any call has been made. -/
def ControllerServer.start {ι : Type} (env : Env) (calls : ι → Option AuthCall) (w : World) :
    ControllerServer ι :=
  Pool.start w fun i ↦ AuthCall.serve env (calls i)

namespace IdentityApp

/-- The application over the world `w` before any request has arrived. -/
def start {ι : Type} (app : IdentityApp) (reqs : ι → IdentityRequest) (w : World) : HttpServer ι :=
  Pool.start w fun i ↦ app.handle (reqs i)

/-- The call that a request arrives with at a controller, if it does. -/
def call (app : IdentityApp) (req : IdentityRequest) : Option AuthCall :=
  match app.arrive req with
  | .answered _ => none
  | .calls _ c => some c

/-- The answer to a request when its controller, if it reached one, has ended. -/
def answer (app : IdentityApp) (req : IdentityRequest)
    (r : Except JsError (Option (HttpResponse AuthData))) : Except JsError AppResponse :=
  match app.arrive req, r with
  | _, .error e => .error e
  | .answered response, _ => .ok response
  | .calls x _, .ok (some response) => .ok (x.respond response.status (.auth response.body))
  | .calls x _, .ok none => .ok (x.respond 404 (.cannot x.req.method x.req.path))

variable {app : IdentityApp} {req : IdentityRequest} {c : AuthCall}

/-- A request arrives with the calls that it is admitted for. -/
theorem call_eq_some : app.call req = some c ↔ req.Admitted app c := by
  rw [← arrive_calls_iff]
  unfold IdentityApp.call
  cases app.arrive req with
  | answered response => simp
  | calls x c' => simp

/-- The program of a request is that of its controller, with the answer in other words. -/
theorem handle_eq (app : IdentityApp) (req : IdentityRequest) :
    app.handle req = (AuthCall.serve app.env (app.call req)).mapResult (app.answer req) := by
  unfold handle IdentityApp.call
  cases harrive : app.arrive req with
  | answered response =>
    show pure response = done (app.answer req (.ok none))
    unfold answer
    rw [harrive]
    rfl
  | calls x c =>
    dsimp only
    unfold AuthCall.serve
    dsimp only
    generalize c.program app.env = service
    induction service with
    | done r =>
      cases r with
      | error e =>
        show done (.error e) = done (app.answer req (.error e))
        unfold answer
        rw [harrive]
      | ok response =>
        show done (.ok _) = done (app.answer req (.ok (some response)))
        unfold answer
        rw [harrive]
    | call op next ih =>
      rw [call_bind, call_bind, mapResult_call]
      exact congrArg (Prog.call op) (funext ih)

/-- The application is the image of its controllers. -/
theorem start_eq {ι : Type} (app : IdentityApp) (reqs : ι → IdentityRequest) (w : World) :
    app.start reqs w =
      (ControllerServer.start app.env (fun i ↦ app.call (reqs i)) w).map
        fun i ↦ app.answer (reqs i) := by
  unfold start ControllerServer.start
  rw [Pool.map_start]
  exact congrArg (Pool.start w) (funext fun i ↦ app.handle_eq (reqs i))

end IdentityApp

variable {ι : Type} [DecidableEq ι]

/-- The runs of the application are exactly the images of the runs of its controllers, in the same
world and with the same log, and a request takes part with a call exactly when it is admitted for
it. -/
theorem http_refines_controllers (app : IdentityApp) (reqs : ι → IdentityRequest) (w : World)
    (ok : HttpServer ι → Turn JsError ι Nat → Prop) :
    (∀ q, Pool.Reaches (exec app.env) World.pass ok (app.start reqs w) q ↔
      ∃ p, q = p.map (fun i ↦ app.answer (reqs i)) ∧
        Pool.Reaches (exec app.env) World.pass
          (fun p t ↦ ok (p.map fun i ↦ app.answer (reqs i)) t)
          (ControllerServer.start app.env (fun i ↦ app.call (reqs i)) w) p) ∧
    ∀ i c, app.call (reqs i) = some c ↔ (reqs i).Admitted app c := by
  constructor
  · intro q
    rw [app.start_eq]
    exact Pool.reaches_map
  · intro i c
    exact IdentityApp.call_eq_some

end Bankos
