import Bankos.Rbac.Services
import Bankos.Rbac.Tables

/-!
# Which calls registration and role administration make

The counterpart of `Auth/Calls.lean` for the activities that are no requests.
-/

namespace Bankos

open Js Jwt Effects Prog

/-- A lookup by name reads roles. -/
theorem PrismaRoleRepository.findByName_uses (name : String) :
    (findByName name).Uses (Op.within [.roleRead]) :=
  uses_bind (uses_perform (Op.within_of_area rfl (by simp))) fun _ ↦ trivial

/-- A lookup by id reads roles. -/
theorem PrismaRoleRepository.findById_uses (id : String) :
    (findById id).Uses (Op.within [.roleRead]) :=
  uses_bind (uses_perform (Op.within_of_area rfl (by simp))) fun _ ↦ trivial

/-- Taking a permission from a role removes a row of the join table. -/
theorem PrismaRoleRepository.removePermission_uses (roleId permissionId : String) :
    (removePermission roleId permissionId).Uses (Op.within [.permissionRemove]) :=
  uses_tryCatch (uses_perform (Op.within_of_area rfl (by simp))) fun _ ↦ trivial

/-- Assigning a role looks it up by its name and writes the join table. -/
theorem PrismaUserRepository.assignRole_uses (userId roleName : String) :
    (assignRole userId roleName).Uses (Op.within [.roleRead, .roleAssign]) := by
  apply uses_bind (uses_perform (Op.within_of_area rfl (by simp)))
  intro role
  cases role with
  | none => exact trivial
  | some role => exact uses_perform (Op.within_of_area rfl (by simp))

/-- Removing a role looks it up by its name and deletes from the join table. -/
theorem PrismaUserRepository.removeRole_uses (userId roleName : String) :
    (removeRole userId roleName).Uses (Op.within [.roleRead, .roleRemove]) := by
  apply uses_bind (uses_perform (Op.within_of_area rfl (by simp)))
  intro role
  cases role with
  | none => exact trivial
  | some role =>
    exact uses_tryCatch (uses_perform (Op.within_of_area rfl (by simp))) fun _ ↦ trivial

/-- Without handlers, dispatching makes no call. -/
theorem rbacDispatch_uses (events : List DomainEvent) (allowed : Op → Prop) :
    (rbacDispatch events).Uses allowed :=
  uses_bind (uses_each fun _ _ ↦ trivial) fun _ ↦ trivial

/-- The calls of a registration: what it counts, hashes and creates is taken from its request. -/
def RegisterUserService.calls (env : Env) (r : RegisterUserRequest) : Op → Prop
  | .user (.count email) => email = EmailValidator.normalize env r.email
  | .user (.create data) => data.email = EmailValidator.normalize env r.email
  | .role (.findUniqueByName _) => True
  | .role (.upsertUserRole _) => True
  | .verificationToken (.upsert _) => True
  | .auditCreate _ => True
  | .hasher (.hash password) => password = Argon2PasswordHasher.applyPepper env r.passwordRaw
  | .system _ => True
  | _ => False

/-- The audit events of a registration are among its calls. -/
theorem RegisterUserService.dispatch_calls (env : Env) (r : RegisterUserRequest)
    (events : List DomainEvent) : (dispatch events).Uses (calls env r) := by
  apply (dispatch_records events).mono
  intro op hop
  cases op with
  | system o => exact trivial
  | auditCreate row => exact trivial
  | _ => exact hop.elim

/-- A registration makes its calls only if the email and the password of its request are
accepted. -/
theorem RegisterUserService.execute_calls (env : Env) (r : RegisterUserRequest) :
    (execute env r).Uses fun op ↦
      EmailValidator.isValid (EmailValidator.normalize env r.email) = true ∧
        PasswordPolicy.validate r.passwordRaw = true ∧ calls env r op := by
  unfold execute
  dsimp only
  split
  · exact trivial
  · next hemail =>
    split
    · exact trivial
    · next hpolicy =>
      have hvalid : EmailValidator.isValid (EmailValidator.normalize env r.email) = true := by
        simpa using hemail
      have hcompliant : PasswordPolicy.validate r.passwordRaw = true := by simpa using hpolicy
      apply uses_bind (uses_bind (uses_perform ⟨hvalid, hcompliant, rfl⟩) fun _ ↦ uses_done _ _)
      intro emailExists
      split
      · exact trivial
      · apply uses_bind (uses_bind (uses_perform ⟨hvalid, hcompliant, trivial⟩) fun _ ↦
          uses_done _ _)
        intro defaultRole
        cases defaultRole with
        | none => exact trivial
        | some defaultRole =>
          unfold createUser issueToken
          apply uses_bind (uses_perform ⟨hvalid, hcompliant, rfl⟩)
          intro passwordHash
          apply uses_bind (uses_perform ⟨hvalid, hcompliant, trivial⟩)
          intro id
          apply uses_bind (uses_perform ⟨hvalid, hcompliant, rfl⟩)
          intro _
          apply uses_bind
          · apply uses_bind (uses_perform ⟨hvalid, hcompliant, trivial⟩)
            intro role
            cases role with
            | none => exact trivial
            | some role => exact uses_perform ⟨hvalid, hcompliant, trivial⟩
          · intro _
            apply uses_bind (uses_perform ⟨hvalid, hcompliant, trivial⟩)
            intro tokenRaw
            apply uses_bind (uses_perform ⟨hvalid, hcompliant, trivial⟩)
            intro now
            apply uses_bind (uses_perform ⟨hvalid, hcompliant, trivial⟩)
            intro _
            refine uses_bind ?_ fun _ ↦ trivial
            exact (dispatch_calls env r _).mono fun op hop ↦ ⟨hvalid, hcompliant, hop⟩

/-- A registration reads users and roles and writes a user, a user role and a token. -/
theorem RegisterUserService.execute_uses (env : Env) (r : RegisterUserRequest) :
    (execute env r).Uses
      (Op.within [.userRead, .userWrite, .roleRead, .roleAssign, .verificationToken, .audit]) := by
  apply (execute_calls env r).mono
  rintro op ⟨-, -, hop⟩ a ha
  cases op with
  | user o => cases o <;> first | exact hop.elim | (cases ha; simp)
  | role o => cases o <;> first | exact hop.elim | (cases ha; simp)
  | verificationToken o => cases o <;> first | exact hop.elim | (cases ha; simp)
  | auditCreate row => cases ha; simp
  | hasher o => cases o <;> first | exact hop.elim | cases ha
  | system o => cases ha
  | _ => exact hop.elim

/-- The areas that an edit touches. -/
def RbacEdit.areas : RbacEdit → List Area
  | .createRole _ => [.roleRead, .roleCreate]
  | .deleteRole _ => [.roleDelete]
  | .assignRole _ _ => [.userRead, .roleRead, .roleAssign]
  | .removeRole _ _ => [.roleRead, .roleRemove]
  | .assignPermission _ _ => [.roleRead, .permissionAssign]
  | .removePermission _ _ => [.permissionRemove]

/-- Creating a role reads the role of that name and the parent, and writes one role. -/
theorem CreateRoleService.execute_uses (dto : CreateRoleDTO) :
    (execute dto).Uses (Op.within [.roleRead, .roleCreate]) := by
  apply uses_bind (uses_wider (PrismaRoleRepository.findByName_uses _) (by simp))
  intro existingRole
  cases existingRole with
  | some _ => exact trivial
  | none =>
    apply uses_bind
    · unfold checkParent
      split
      · exact trivial
      · apply uses_bind (uses_wider (PrismaRoleRepository.findById_uses _) (by simp))
        intro parent
        cases parent <;> exact trivial
    · intro _
      unfold createRole
      apply uses_bind (uses_within SecureRandomGenerator.generateUUID_uses _)
      intro id
      apply uses_bind (uses_perform (Op.within_of_area rfl (by simp)))
      intro _
      exact uses_bind (rbacDispatch_uses _ _) fun _ ↦ trivial

/-- Creating a permission reads the one of that name and writes one. -/
theorem CreatePermissionService.execute_uses (dto : CreatePermissionDTO) :
    (execute dto).Uses (Op.within [.permissionRead, .permissionCreate]) := by
  apply uses_bind (uses_bind (uses_perform (Op.within_of_area rfl (by simp))) fun _ ↦
    uses_done _ _)
  intro existing
  cases existing with
  | some _ => exact trivial
  | none =>
    unfold createPermission
    apply uses_bind (uses_within SecureRandomGenerator.generateUUID_uses _)
    intro id
    apply uses_bind (uses_perform (Op.within_of_area rfl (by simp)))
    intro _
    exact uses_bind (rbacDispatch_uses _ _) fun _ ↦ trivial

/-- Assigning a role to a user reads both and writes the join table. -/
theorem AssignRoleService.execute_uses (userId roleName : String) :
    (execute userId roleName).Uses (Op.within [.userRead, .roleRead, .roleAssign]) := by
  apply uses_bind (uses_wider (PrismaUserRepository.proper.findById_uses _) (by simp))
  intro user
  cases user with
  | none => exact trivial
  | some user =>
    apply uses_bind (uses_wider (PrismaRoleRepository.findByName_uses _) (by simp))
    intro role
    cases role with
    | none => exact trivial
    | some role =>
      apply uses_bind (uses_wider (PrismaUserRepository.assignRole_uses ..) (by simp))
      intro _
      exact rbacDispatch_uses _ _

/-- Removing a role from a user reads the role and deletes from the join table. -/
theorem RemoveRoleService.execute_uses (userId roleName : String) :
    (execute userId roleName).Uses (Op.within [.roleRead, .roleRemove]) := by
  apply uses_bind (uses_wider (PrismaRoleRepository.findByName_uses _) (by simp))
  intro role
  cases role with
  | none => exact trivial
  | some role =>
    apply uses_bind (PrismaUserRepository.removeRole_uses ..)
    intro _
    exact rbacDispatch_uses _ _

/-- Assigning a permission reads the role and writes the join table. -/
theorem AssignPermissionService.execute_uses (roleId permissionId : String) :
    (execute roleId permissionId).Uses (Op.within [.roleRead, .permissionAssign]) := by
  apply uses_bind (uses_wider (PrismaRoleRepository.findById_uses _) (by simp))
  intro role
  cases role with
  | none => exact trivial
  | some role =>
    apply uses_bind (uses_perform (Op.within_of_area rfl (by simp)))
    intro _
    exact rbacDispatch_uses _ _

/-- Removing a permission only deletes from the join table. -/
theorem RemovePermissionService.execute_uses (roleId permissionId : String) :
    (execute roleId permissionId).Uses (Op.within [.permissionRemove]) :=
  uses_bind (PrismaRoleRepository.removePermission_uses ..) fun _ ↦ rbacDispatch_uses _ _

/-- Every edit stays within its areas. -/
theorem RbacEdit.run_uses (e : RbacEdit) : e.run.Uses (Op.within e.areas) := by
  cases e with
  | createRole dto => exact uses_bind (CreateRoleService.execute_uses dto) fun _ ↦ trivial
  | deleteRole id =>
    exact uses_bind (uses_perform (Op.within_of_area rfl (by simp [areas]))) fun _ ↦ trivial
  | assignRole userId roleName =>
    exact uses_bind (AssignRoleService.execute_uses ..) fun _ ↦ trivial
  | removeRole userId roleName =>
    exact uses_bind (RemoveRoleService.execute_uses ..) fun _ ↦ trivial
  | assignPermission roleId permissionId =>
    exact uses_bind (AssignPermissionService.execute_uses ..) fun _ ↦ trivial
  | removePermission roleId permissionId =>
    exact uses_bind (RemovePermissionService.execute_uses ..) fun _ ↦ trivial

/-- The areas that an activity touches. -/
def Activity.areas : Activity → List Area
  | .request r => r.areas
  | .register _ => [.userRead, .userWrite, .roleRead, .roleAssign, .verificationToken, .audit]
  | .edit e => e.areas

/-- Every activity stays within its areas. -/
theorem Activity.run_uses {users : IUserRepository} (hu : users.Proper) (env : Env)
    (a : Activity) : (a.run env users).Uses (Op.within a.areas) := by
  cases a with
  | request r => exact uses_bind (serve_uses hu env r) fun _ ↦ trivial
  | register r => exact uses_bind (RegisterUserService.execute_uses env r) fun _ ↦ trivial
  | edit e => exact e.run_uses

end Bankos
