import Bankos.Auth.Register
import Bankos.Auth.Server

/-!
# Role administration

The services and the controller of `identity/src/modules/auth` that edit roles and permissions,
and everything that the identity service does, in flight over one world.
A service is given its dispatcher. The one of `rbac.routes.ts:21` has no handlers;
`AssignRoleService` and `RemoveRoleService`, which no route constructs, get the same one.
-/

namespace Bankos

open Js Jwt Effects

/-- The dispatcher of `rbac.routes.ts:21`. -/
def rbacDispatch (events : List DomainEvent) : Program Unit :=
  DomainEventDispatcher.dispatch [] events

/-- `CreateRoleService.ts:7–12`. -/
structure CreateRoleDTO where
  name : String
  description : Option String
  systemRole : Option Bool
  parentId : Option String
  deriving DecidableEq, Repr

/-- `field || null` of a string that may be absent. -/
def orNull : Option String → Option String
  | none => none
  | some s => if s = "" then none else some s

namespace CreateRoleService

/-- `CreateRoleService.ts:26–31`. -/
def checkParent (dto : CreateRoleDTO) : Program Unit :=
  match orNull dto.parentId with
  | none => pure ()
  | some parentId => do
    let parent ← PrismaRoleRepository.findById parentId
    match parent with
    | none => throw (.error ("Parent role " ++ parentId ++ " not found"))
    | some _ => pure ()

/-- `CreateRoleService.ts:33–48`. -/
def createRole (dto : CreateRoleDTO)
    (eventDispatcher : IDomainEventDispatcher := rbacDispatch) : Program String := do
  let id ← SecureRandomGenerator.generateUUID
  let role : Role :=
    ⟨id, dto.name, orNull dto.description, dto.systemRole.getD false, orNull dto.parentId⟩
  PrismaRoleRepository.create role
  eventDispatcher [{ detail := .roleCreated role.id role.name }]
  pure id

/-- `CreateRoleService.ts:20–49`. -/
def execute (dto : CreateRoleDTO)
    (eventDispatcher : IDomainEventDispatcher := rbacDispatch) : Program String := do
  let existingRole ← PrismaRoleRepository.findByName dto.name
  match existingRole with
  | some _ => throw (.error ("Role " ++ dto.name ++ " already exists"))
  | none => do
    checkParent dto
    createRole dto eventDispatcher

end CreateRoleService

/-- `CreatePermissionService.ts:7–12`. -/
structure CreatePermissionDTO where
  name : String
  resource : String
  action : String
  description : String
  deriving DecidableEq, Repr

namespace CreatePermissionService

/-- `CreatePermissionService.ts:26–41`. The event is given the name and the description where its
class has the resource and the action. -/
def createPermission (dto : CreatePermissionDTO)
    (eventDispatcher : IDomainEventDispatcher := rbacDispatch) : Program String := do
  let id ← SecureRandomGenerator.generateUUID
  let permission : Permission := ⟨id, dto.name, dto.resource, dto.action, dto.description⟩
  PrismaPermissionRepository.create permission
  eventDispatcher
    [{ detail := .permissionCreated permission.id permission.name permission.description }]
  pure id

/-- `CreatePermissionService.ts:20–42`. -/
def execute (dto : CreatePermissionDTO)
    (eventDispatcher : IDomainEventDispatcher := rbacDispatch) : Program String := do
  let existing ← PrismaPermissionRepository.findByName dto.name
  match existing with
  | some _ => throw (.error ("Permission " ++ dto.name ++ " already exists"))
  | none => createPermission dto eventDispatcher

end CreatePermissionService

/-- `RoleController.ts:53–56`. -/
def RoleController.delete (id : String) : Program Unit := PrismaRoleRepository.delete id

/-- `AssignRoleService.ts:13–27`. -/
def AssignRoleService.execute (userId roleName : String)
    (eventDispatcher : IDomainEventDispatcher := rbacDispatch) : Program Unit := do
  let user ← PrismaUserRepository.findById (.str userId)
  match user with
  | none => throw (.error ("User " ++ userId ++ " not found"))
  | some _ => do
    let role ← PrismaRoleRepository.findByName roleName
    match role with
    | none => throw (.error ("Role " ++ roleName ++ " not found"))
    | some _ => do
      PrismaUserRepository.assignRole userId roleName
      eventDispatcher [{ detail := .roleAssignedToUser userId roleName }]

/-- `RemoveRoleService.ts:13–21`. -/
def RemoveRoleService.execute (userId roleName : String)
    (eventDispatcher : IDomainEventDispatcher := rbacDispatch) : Program Unit := do
  let role ← PrismaRoleRepository.findByName roleName
  match role with
  | none => pure ()
  | some _ => do
    PrismaUserRepository.removeRole userId roleName
    eventDispatcher [{ detail := .roleRemovedFromUser userId roleName }]

/-- `AssignPermissionService.ts:13–21`. -/
def AssignPermissionService.execute (roleId permissionId : String)
    (eventDispatcher : IDomainEventDispatcher := rbacDispatch) : Program Unit := do
  let role ← PrismaRoleRepository.findById roleId
  match role with
  | none => throw (.error ("Role " ++ roleId ++ " not found"))
  | some _ => do
    PrismaRoleRepository.assignPermission roleId permissionId
    eventDispatcher [{ detail := .permissionAssigned roleId permissionId }]

/-- `RemovePermissionService.ts:11–14`. -/
def RemovePermissionService.execute (roleId permissionId : String)
    (eventDispatcher : IDomainEventDispatcher := rbacDispatch) : Program Unit := do
  PrismaRoleRepository.removePermission roleId permissionId
  eventDispatcher [{ detail := .permissionRemoved roleId permissionId }]

/-! ### Everything in flight -/

/-- An edit of roles, permissions or their assignments. -/
inductive RbacEdit where
  | createRole (dto : CreateRoleDTO)
  | deleteRole (id : String)
  | assignRole (userId roleName : String)
  | removeRole (userId roleName : String)
  | assignPermission (roleId permissionId : String)
  | removePermission (roleId permissionId : String)
  deriving DecidableEq, Repr

/-- What the identity service is asked to do. -/
inductive Activity where
  | request (r : Request)
  | register (r : RegisterUserRequest)
  | edit (e : RbacEdit)
  deriving DecidableEq, Repr

/-- What it returns. -/
inductive Outcome where
  | response (r : Response)
  | registered (r : RegisterUserResponse)
  | roleCreated (id : String)
  | done
  deriving DecidableEq, Repr

/-- The program of an edit. -/
def RbacEdit.run : RbacEdit → Program Outcome
  | .createRole dto => do
    let id ← CreateRoleService.execute dto
    pure (.roleCreated id)
  | .deleteRole id => do
    RoleController.delete id
    pure .done
  | .assignRole userId roleName => do
    AssignRoleService.execute userId roleName
    pure .done
  | .removeRole userId roleName => do
    RemoveRoleService.execute userId roleName
    pure .done
  | .assignPermission roleId permissionId => do
    AssignPermissionService.execute roleId permissionId
    pure .done
  | .removePermission roleId permissionId => do
    RemovePermissionService.execute roleId permissionId
    pure .done

/-- The program of an activity. -/
def Activity.run (env : Env) (users : IUserRepository) : Activity → Program Outcome
  | .request r => do
    let response ← serve env users r
    pure (.response response)
  | .register r => do
    let response ← RegisterUserService.execute env r
    pure (.registered response)
  | .edit e => e.run

/-- The activities in flight, named by `ι`. -/
abbrev Identity (ι : Type) := Pool Api JsError ι Outcome World

/-- The service over the world `w` before anything has started. -/
def Identity.start {ι : Type} (env : Env) (users : IUserRepository) (acts : ι → Activity)
    (w : World) : Identity ι :=
  Pool.start w fun i ↦ (acts i).run env users

/-- The service `q` comes out of `p` by turns that each satisfy `ok`. -/
abbrev Identity.Reaches {ι : Type} [DecidableEq ι] (env : Env)
    (ok : Identity ι → ServerTurn ι → Prop) (p q : Identity ι) : Prop :=
  Pool.Reaches (exec env) World.pass ok p q

end Bankos
