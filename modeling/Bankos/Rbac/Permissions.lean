import Bankos.Auth.Alone
import Bankos.Rbac.Closure
import Bankos.Rbac.Tables

/-!
# What users may do

The effective roles and permissions of a user as functions of the role tables, that the services
compute them when nothing is in between, and what they come to: a permission that some role holds
which the user has, or which one of the user's roles inherits from.
-/

namespace Bankos

open Js Jwt Effects Storage Prog Relation DatabaseMapper

/-- A set that is filled from a list holds each of its items once. -/
theorem nodup_eraseDups {α : Type} [DecidableEq α] (l : List α) : l.eraseDups.Nodup := by
  induction hn : l.length using Nat.strongRecOn generalizing l with
  | _ n ih =>
    cases l with
    | nil => exact List.nodup_nil
    | cons a l =>
      rw [List.eraseDups_cons, List.nodup_cons]
      constructor
      · rw [List.mem_eraseDups, List.mem_filter]
        rintro ⟨-, hne⟩
        simp at hne
      · have hlength : (l.filter fun b ↦ !b == a).length ≤ l.length := List.length_filter_le _ _
        rw [List.length_cons] at hn
        exact ih _ (by omega) _ rfl

namespace RbacTables

/-- The answer of `findRoles`. -/
def directRoles (t : RbacTables) (userId : String) : List String :=
  ((t.userRoles.rows.filter fun ur ↦ decide (ur.userId = userId)).filterMap fun ur ↦
    t.roles.find fun r ↦ decide (r.id = ur.roleId)).map (·.name)

/-- The answer of `findAll`. -/
def allRoles (t : RbacTables) : List Role := t.roles.rows.map toDomainRole

/-- The answer of `findPermissions`. -/
def permissionsOf (t : RbacTables) (roleId : String) : List String :=
  ((t.rolePermissions.rows.filter fun rp ↦ decide (rp.roleId = roleId)).filterMap fun rp ↦
    t.permissions.find fun p ↦ decide (p.id = rp.permissionId)).map (·.name)

/-- The roles a user has and inherits from. -/
def effectiveRoles (t : RbacTables) (userId : String) : List String :=
  PermissionResolver.resolveEffectiveRoles (t.directRoles userId) t.allRoles

/-- The permissions of the roles that the names resolve to. -/
def permissionsOfRoles (t : RbacTables) (roleNames : List String) : List String :=
  (((PermissionResolver.resolveEffectiveRoles roleNames t.allRoles).map fun roleName ↦
    match PermissionResolver.roleMap t.allRoles roleName with
    | some role => t.permissionsOf role.id
    | none => []).flatten).eraseDups

/-- The permissions of the roles a user has and inherits from. -/
def effectivePermissions (t : RbacTables) (userId : String) : List String :=
  t.permissionsOfRoles (t.directRoles userId)

end RbacTables

/-- `resolvePermissions` of `findRoles`, as `LoginService.ts:60–62` calls them. -/
def resolveUserPermissions (userId : String) : Program (List String) := do
  let directRoles ← PrismaUserRepository.findRoles userId
  AuthorizationEngine.resolvePermissions directRoles

section Alone

variable (env : Env) (w : World)

/-- The roles of a user are read from the tables. -/
theorem run_findRoles (userId : String) :
    (PrismaUserRepository.findRoles userId).run (exec env) w =
      (.ok (w.rbac.directRoles userId), w) := rfl

/-- All roles are read from the table. -/
theorem run_findAll :
    PrismaRoleRepository.findAll.run (exec env) w = (.ok w.rbac.allRoles, w) := rfl

/-- The permissions of a role are read from the tables. -/
theorem run_findPermissions (roleId : String) :
    (PrismaRoleRepository.findPermissions roleId).run (exec env) w =
      (.ok (w.rbac.permissionsOf roleId), w) := rfl

/-- Resolving permissions alone. -/
theorem run_resolvePermissions (roleNames : List String) :
    (AuthorizationEngine.resolvePermissions roleNames).run (exec env) w =
      (.ok (w.rbac.permissionsOfRoles roleNames), w) := by
  unfold AuthorizationEngine.resolvePermissions PermissionResolver.resolveEffectivePermissions
  rw [run_bind, run_findAll]
  dsimp only
  rw [PermissionResolver.permissionRoles_eq, run_bind, run_each (g := fun roleName ↦
    match PermissionResolver.roleMap w.rbac.allRoles roleName with
    | some role => w.rbac.permissionsOf role.id
    | none => [])]
  · rfl
  · intro roleName _
    cases PermissionResolver.roleMap w.rbac.allRoles roleName with
    | none => rfl
    | some role => exact run_findPermissions env w role.id

/-- Resolving the permissions of a user alone. -/
theorem run_resolveUserPermissions (userId : String) :
    (resolveUserPermissions userId).run (exec env) w =
      (.ok (w.rbac.effectivePermissions userId), w) := by
  unfold resolveUserPermissions
  rw [run_bind, run_findRoles]
  exact run_resolvePermissions env w _

end Alone

/-! ### Inheritance among the stored roles -/

/-- The role `s` is the stored parent of the stored role `r`, and the resolver does not take its
id for an absent one. -/
def RoleRow.InheritsIn (t : RoleTable) (r s : RoleRow) : Prop :=
  r ∈ t ∧ s ∈ t ∧ r.parentId = some s.id ∧ s.id ≠ ""

/-- The user holds the permission by a role it has or by one that this role inherits from. -/
def RbacTables.Holds (t : RbacTables) (userId permission : String) : Prop :=
  ∃ ur ∈ t.userRoles, ur.userId = userId ∧ ∃ r ∈ t.roles, r.id = ur.roleId ∧
    ∃ s ∈ t.roles, ReflTransGen (RoleRow.InheritsIn t.roles) r s ∧
      ∃ rp ∈ t.rolePermissions, rp.roleId = s.id ∧
        ∃ p ∈ t.permissions, p.id = rp.permissionId ∧ p.name = permission

/-- A role shows all the columns of its row. -/
theorem toDomainRole_injective : Function.Injective toDomainRole := by
  rintro ⟨⟩ ⟨⟩ h
  cases h
  rfl

namespace RbacTables

variable {t : RbacTables}

/-- The names of the roles are unique. -/
theorem nodup_names (t : RbacTables) : (t.allRoles.map (·.name)).Nodup := by
  unfold allRoles
  rw [List.map_map, List.Nodup, List.pairwise_map]
  apply t.roles.distinct.imp
  intro r s h he
  simp only [RoleRow.clash, decide_eq_false_iff_not, not_or] at h
  exact h.2 he

/-- The ids of the roles are unique. -/
theorem nodup_ids (t : RbacTables) : (t.allRoles.map (·.id)).Nodup := by
  unfold allRoles
  rw [List.map_map, List.Nodup, List.pairwise_map]
  apply t.roles.distinct.imp
  intro r s h he
  simp only [RoleRow.clash, decide_eq_false_iff_not, not_or] at h
  exact h.1 he

/-- The roles of a user are the stored roles that it is assigned. -/
theorem mem_directRoles {userId name : String} :
    name ∈ t.directRoles userId ↔
      ∃ ur ∈ t.userRoles, ur.userId = userId ∧ ∃ r ∈ t.roles, r.id = ur.roleId ∧ r.name = name := by
  simp only [directRoles, List.mem_map, List.mem_filterMap, List.mem_filter, decide_eq_true_eq,
    RoleTable.find_id]
  constructor
  · rintro ⟨r, ⟨ur, ⟨hur, huser⟩, hr, hid⟩, hname⟩
    exact ⟨ur, hur, huser, r, hr, hid, hname⟩
  · rintro ⟨ur, hur, huser, r, hr, hid, hname⟩
    exact ⟨r, ⟨ur, ⟨hur, huser⟩, hr, hid⟩, hname⟩

/-- The permissions of a role are the stored permissions that it is assigned. -/
theorem mem_permissionsOf {roleId permission : String} :
    permission ∈ t.permissionsOf roleId ↔
      ∃ rp ∈ t.rolePermissions, rp.roleId = roleId ∧
        ∃ p ∈ t.permissions, p.id = rp.permissionId ∧ p.name = permission := by
  simp only [permissionsOf, List.mem_map, List.mem_filterMap, List.mem_filter, decide_eq_true_eq,
    PermissionTable.find_id]
  constructor
  · rintro ⟨p, ⟨rp, ⟨hrp, hrole⟩, hp, hid⟩, hname⟩
    exact ⟨rp, hrp, hrole, p, hp, hid, hname⟩
  · rintro ⟨rp, hrp, hrole, p, hp, hid, hname⟩
    exact ⟨p, ⟨rp, ⟨hrp, hrole⟩, hp, hid⟩, hname⟩

/-- The roles of the resolver are the stored ones. -/
theorem mem_allRoles {role : Role} : role ∈ t.allRoles ↔ ∃ r ∈ t.roles, toDomainRole r = role :=
  List.mem_map

/-- The resolver inherits along the stored parents. -/
theorem inheritsIn_iff {r s : RoleRow} :
    Role.InheritsIn t.allRoles (toDomainRole r) (toDomainRole s) ↔
      RoleRow.InheritsIn t.roles r s := by
  have hmem : ∀ r : RoleRow, toDomainRole r ∈ t.allRoles ↔ r ∈ t.roles := by
    intro r
    rw [mem_allRoles]
    constructor
    · rintro ⟨s, hs, he⟩
      rwa [← toDomainRole_injective he]
    · intro hr
      exact ⟨r, hr, rfl⟩
  unfold Role.InheritsIn Role.ParentIn RoleRow.InheritsIn
  rw [hmem, hmem, and_assoc, and_assoc]
  exact Iff.rfl

/-- What the resolver reaches from a stored role are the stored roles that it inherits from. -/
theorem reaches_iff {r : RoleRow} {role : Role} :
    ReflTransGen (Role.InheritsIn t.allRoles) (toDomainRole r) role ↔
      ∃ s, ReflTransGen (RoleRow.InheritsIn t.roles) r s ∧ toDomainRole s = role := by
  constructor
  · intro h
    induction h with
    | refl => exact ⟨r, .refl, rfl⟩
    | tail _ hlink ih =>
      obtain ⟨s, hs, rfl⟩ := ih
      obtain ⟨u, -, rfl⟩ := mem_allRoles.mp hlink.1.2.1
      exact ⟨u, hs.tail (inheritsIn_iff.mp hlink), rfl⟩
  · rintro ⟨s, hs, rfl⟩
    apply hs.lift
    intro a b hab
    exact inheritsIn_iff.mpr hab

/-- The effective roles of a user are the roles it has and those that they inherit from. -/
theorem mem_resolved {roleNames : List String} {name : String} :
    name ∈ PermissionResolver.resolveEffectiveRoles roleNames t.allRoles ↔
      ∃ r ∈ t.roles, r.name ∈ roleNames ∧
        ∃ s, ReflTransGen (RoleRow.InheritsIn t.roles) r s ∧ s.name = name := by
  rw [PermissionResolver.mem_resolveEffectiveRoles t.nodup_names t.nodup_ids]
  constructor
  · rintro ⟨role, hrole, hlisted, s, hs, hname⟩
    obtain ⟨r, hr, rfl⟩ := mem_allRoles.mp hrole
    obtain ⟨u, hu, rfl⟩ := reaches_iff.mp hs
    exact ⟨r, hr, hlisted, u, hu, hname⟩
  · rintro ⟨r, hr, hlisted, s, hs, hname⟩
    exact ⟨toDomainRole r, mem_allRoles.mpr ⟨r, hr, rfl⟩, hlisted, toDomainRole s,
      reaches_iff.mpr ⟨s, hs, rfl⟩, hname⟩

/-- A role that a stored role inherits from is stored. -/
theorem mem_of_inherits {t : RoleTable} {r s : RoleRow} (hr : r ∈ t)
    (h : ReflTransGen (RoleRow.InheritsIn t) r s) : s ∈ t := by
  cases h with
  | refl => exact hr
  | tail _ hlink => exact hlink.2.1

/-- The permissions of role names are those of the stored roles that they resolve to. -/
theorem mem_permissionsOfRoles {roleNames : List String} {permission : String} :
    permission ∈ t.permissionsOfRoles roleNames ↔
      ∃ r ∈ t.roles, r.name ∈ PermissionResolver.resolveEffectiveRoles roleNames t.allRoles ∧
        permission ∈ t.permissionsOf r.id := by
  unfold permissionsOfRoles
  rw [List.mem_eraseDups, List.mem_flatten]
  simp only [List.mem_map]
  have hrole : ∀ r ∈ t.roles, PermissionResolver.roleMap t.allRoles r.name =
      some (toDomainRole r) := fun r hr ↦
    (PermissionResolver.roleMap_eq_some t.nodup_names).mpr ⟨mem_allRoles.mpr ⟨r, hr, rfl⟩, rfl⟩
  constructor
  · rintro ⟨_, ⟨name, hname, rfl⟩, hp⟩
    obtain ⟨r, hr, -, s, hs, rfl⟩ := mem_resolved.mp hname
    have hsmem := mem_of_inherits hr hs
    rw [hrole s hsmem] at hp
    exact ⟨s, hsmem, hname, hp⟩
  · rintro ⟨r, hr, hname, hp⟩
    refine ⟨t.permissionsOf r.id, ⟨r.name, hname, ?_⟩, hp⟩
    rw [hrole r hr]
    rfl

/-- No permission comes twice. -/
theorem nodup_permissionsOfRoles (t : RbacTables) (roleNames : List String) :
    (t.permissionsOfRoles roleNames).Nodup := nodup_eraseDups _

/-- The effective permissions of a user are the ones it holds. -/
theorem mem_effectivePermissions {userId permission : String} :
    permission ∈ t.effectivePermissions userId ↔ t.Holds userId permission := by
  unfold effectivePermissions
  rw [mem_permissionsOfRoles]
  constructor
  · rintro ⟨s, hs, hname, hp⟩
    obtain ⟨r, hr, hlisted, s', hreach, hsname⟩ := mem_resolved.mp hname
    obtain ⟨ur, hur, huser, r', hr', hid, hr'name⟩ := mem_directRoles.mp hlisted
    have hrr : r' = r := RoleTable.eq_of_name hr' hr hr'name
    subst hrr
    have hss : s' = s := RoleTable.eq_of_name (mem_of_inherits hr hreach) hs hsname
    subst hss
    exact ⟨ur, hur, huser, r', hr', hid, s', hs, hreach, mem_permissionsOf.mp hp⟩
  · rintro ⟨ur, hur, huser, r, hr, hid, s, hs, hreach, hp⟩
    refine ⟨s, hs, ?_, mem_permissionsOf.mpr hp⟩
    apply mem_resolved.mpr
    exact ⟨r, hr, mem_directRoles.mpr ⟨ur, hur, huser, r, hr, hid, rfl⟩, s, hreach, rfl⟩

end RbacTables
/-- The deployment in which `alice` is a supervisor, whose role is above that of the tellers. -/
def Sample.staffed : World :=
  { registered with
    roles := ⟨[⟨"r1", "teller", none, false, none⟩, ⟨"r2", "supervisor", none, false, some "r1"⟩],
      by decide⟩
    permissions := ⟨[⟨"p1", "accounts.read", "accounts", "read", ""⟩,
      ⟨"p2", "accounts.close", "accounts", "close", ""⟩], by decide⟩
    userRoles := .single ⟨"alice", "r2"⟩
    rolePermissions := ⟨[⟨"r1", "p1"⟩, ⟨"r2", "p2"⟩], by decide⟩ }

example :
    Sample.staffed.rbac.effectivePermissions "alice" = ["accounts.close", "accounts.read"] := by
  decide +kernel

/-- The two methods of the resolver agree: resolving the permissions of any role names on any tables
returns, each once, the names of the permissions that are assigned to the roles which resolving the
roles returns for these names and the answer of `findAll`. -/
theorem permissions_agree_with_roles (env : Env) (w : World) (roleNames : List String) :
    ∃ roles permissions, PrismaRoleRepository.findAll.run (exec env) w = (.ok roles, w) ∧
      (PermissionResolver.resolveEffectivePermissions roleNames).run (exec env) w =
        (.ok permissions, w) ∧
      permissions.Nodup ∧
      ∀ permission, permission ∈ permissions ↔
        ∃ r ∈ w.roles, r.name ∈ PermissionResolver.resolveEffectiveRoles roleNames roles ∧
          ∃ rp ∈ w.rolePermissions, rp.roleId = r.id ∧
            ∃ p ∈ w.permissions, p.id = rp.permissionId ∧ p.name = permission := by
  refine ⟨w.rbac.allRoles, w.rbac.permissionsOfRoles roleNames, run_findAll env w,
    run_resolvePermissions env w roleNames, w.rbac.nodup_permissionsOfRoles roleNames, ?_⟩
  intro permission
  rw [RbacTables.mem_permissionsOfRoles]
  simp only [RbacTables.mem_permissionsOf]
  exact Iff.rfl

end Bankos
