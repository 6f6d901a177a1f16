import Bankos.Auth.Controller
import Bankos.Base.Shapes

/-!
# Requests to the role administration

`identity/src/middlewares/validateRequest.ts` with the schemas of
`identity/src/modules/auth/validators/RbacValidators.ts`, on the way of `rbac.routes.ts` to the
controllers. The schemas describe an envelope with a `body` and `params`, and the middleware gives
them the body itself. `uuid` stands for the check of the library.
-/

namespace Bankos

open Shapes

/-- What `validateRequest` does: it calls `next` with the parsed body, or it answers. -/
inductive Validated where
  | next (body : Option Document)
  | answered (response : HttpResponse Unit)

/-- `validateRequest.ts:5–18`. -/
def validateRequest (schema : Parser) (body : Option Document) : Validated :=
  match schema body with
  | some parsed => .next parsed
  | none => .answered ⟨400, .error "VALIDATION_ERROR" "Invalid request payload"⟩

/-- `length` of a string: its UTF-16 code units. -/
def jsLength (s : String) : Nat := (s.toList.map fun c ↦ if c.toNat < 0x10000 then 1 else 2).sum

namespace RbacValidators

/-- `.min(length)`. -/
def min (length : Nat) (s : String) : Bool := decide (length ≤ jsLength s)

/-- `.max(length)`. -/
def max (length : Nat) (s : String) : Bool := decide (jsLength s ≤ length)

/-- The fields of the body of `createRole`, `RbacValidators.ts:6–11`. -/
def createRoleBody (uuid : String → Bool) : List (String × Parser) :=
  [("name", .string [min 1, max 255]),
    ("description", .optional (.string [max 1024])),
    ("systemRole", .optional .boolean),
    ("parentId", .optional (.string [uuid]))]

/-- `RbacValidators.ts:5–12`. -/
def createRole (uuid : String → Bool) : Parser :=
  .object [("body", .object (createRoleBody uuid) .refused)] .stripped

/-- The fields of the body of `assignPermission`, `RbacValidators.ts:30–32`. -/
def assignPermissionBody (uuid : String → Bool) : List (String × Parser) :=
  [("permissionId", .string [uuid])]

/-- `RbacValidators.ts:26–33`. -/
def assignPermission (uuid : String → Bool) : Parser :=
  .object
    [("params", .object [("id", .string [uuid])] .stripped),
      ("body", .object (assignPermissionBody uuid) .refused)] .stripped

/-- The fields of the body of `createPermission`, `RbacValidators.ts:36–41`. -/
def createPermissionBody : List (String × Parser) :=
  [("name", .string [min 1, max 255]),
    ("resource", .string [min 1, max 255]),
    ("action", .string [min 1, max 255]),
    ("description", .string [max 1024])]

/-- `RbacValidators.ts:35–42`. -/
def createPermission : Parser := .object [("body", .object createPermissionBody .refused)] .stripped

end RbacValidators

/-- The routes of `rbac.routes.ts:42–53` whose controllers read the body. -/
inductive RbacRoute where
  | createRole
  | assignPermission
  | createPermission
  deriving DecidableEq, Repr

namespace RbacRoute

/-- The schema of the route. -/
def schema (uuid : String → Bool) : RbacRoute → Parser
  | createRole => RbacValidators.createRole uuid
  | assignPermission => RbacValidators.assignPermission uuid
  | createPermission => RbacValidators.createPermission

/-- The fields that the schema of the route names for the body. -/
def rules (uuid : String → Bool) : RbacRoute → List (String × Parser)
  | createRole => RbacValidators.createRoleBody uuid
  | assignPermission => RbacValidators.assignPermissionBody uuid
  | createPermission => RbacValidators.createPermissionBody

/-- What the controller reads of `req.body` under a key: `RoleController.ts:15–18` and
`PermissionController.ts:11–14` hand the body over, from which the service reads its fields, and
`RoleController.ts:58–61` reads the `permissionId`. -/
def reads (body : Option Document) (key : String) : Option Document :=
  body.bind fun body ↦ body.field key

/-- What is read of the body satisfies the field rules of the schema. -/
def WellFormed (uuid : String → Bool) (route : RbacRoute) (body : Option Document) : Prop :=
  ∀ rule ∈ route.rules uuid, rule.2.accepts (reads body rule.1) = true

/-- Every schema describes an envelope with `body`, and perhaps with `params`. -/
theorem schema_eq (uuid : String → Bool) (route : RbacRoute) :
    ∃ shape, route.schema uuid = .object shape .stripped ∧
      ∀ key ∈ shape.map Prod.fst, key = "body" ∨ key = "params" := by
  cases route with
  | createRole => exact ⟨_, rfl, by simp⟩
  | assignPermission => exact ⟨_, rfl, by simp⟩
  | createPermission => exact ⟨_, rfl, by simp⟩

/-- Every route requires a string, under a key that is none of the envelope. -/
theorem rules_require (uuid : String → Bool) (route : RbacRoute) :
    ∃ key checks, (key, Parser.string checks) ∈ route.rules uuid ∧
      ¬ (key = "body" ∨ key = "params") := by
  cases route with
  | createRole => exact ⟨_, _, List.mem_cons_self, by decide⟩
  | assignPermission => exact ⟨_, _, List.mem_cons_self, by decide⟩
  | createPermission => exact ⟨_, _, List.mem_cons_self, by decide⟩

/-- The middleware lets through what the schema returns. -/
theorem parsed_of_validated {schema : Parser} {body parsed : Option Document}
    (h : validateRequest schema body = .next parsed) : schema body = some parsed := by
  unfold validateRequest at h
  split at h
  · next result hresult =>
    cases h
    exact hresult
  · cases h

/-- The middleware returns an object with the fields of the envelope only. -/
theorem reads_of_validated {uuid : String → Bool} {route : RbacRoute}
    {body parsed : Option Document}
    (h : validateRequest (route.schema uuid) body = .next parsed) {key : String}
    (hkey : ¬ (key = "body" ∨ key = "params")) : reads parsed key = none := by
  obtain ⟨shape, hschema, hshape⟩ := route.schema_eq uuid
  rw [hschema] at h
  obtain ⟨result, rfl, hfield⟩ := Parser.field_of_object (parsed_of_validated h)
  exact hfield key fun hmem ↦ hkey (hshape key hmem)

/-- A required string is not there. -/
theorem not_wellFormed {uuid : String → Bool} {route : RbacRoute} {body : Option Document}
    {key : String} {checks : List (String → Bool)}
    (hrule : (key, Parser.string checks) ∈ route.rules uuid) (hreads : reads body key = none) :
    ¬ route.WellFormed uuid body := by
  intro h
  have haccepts := h _ hrule
  rw [hreads] at haccepts
  cases haccepts

end RbacRoute

/-- Whatever body the middleware lets through, what the controller reads of it does not satisfy the
field rules of the schema. -/
theorem validated_never_wellFormed (uuid : String → Bool) (route : RbacRoute)
    (body parsed : Option Document) (h : validateRequest (route.schema uuid) body = .next parsed) :
    ¬ route.WellFormed uuid parsed := by
  obtain ⟨key, checks, hrule, hkey⟩ := route.rules_require uuid
  exact RbacRoute.not_wellFormed hrule (RbacRoute.reads_of_validated h hkey)

/-! ### An envelope -/

namespace Sample

/-- The envelope that the schema of `createRole` describes. -/
def envelope : Document := .obj [("body", .obj [("name", .str "auditor")])]

end Sample

/-- The case of that envelope. -/
theorem validated_never_wellFormed_envelope :
    ¬ RbacRoute.createRole.WellFormed (fun _ ↦ true) (some Sample.envelope) :=
  validated_never_wellFormed (fun _ ↦ true) .createRole (some Sample.envelope)
    (some Sample.envelope) rfl

/-- The envelope gets through, and the role that is to be created has no name. -/
theorem validated_body_without_name :
    ¬ ∀ (uuid : String → Bool) (route : RbacRoute) (body parsed : Option Document),
      validateRequest (route.schema uuid) body = .next parsed → route.WellFormed uuid parsed := by
  intro h
  have hwell := h (fun _ ↦ true) .createRole (some Sample.envelope) (some Sample.envelope) rfl
  exact RbacRoute.not_wellFormed List.mem_cons_self rfl hwell

end Bankos
