import Bankos.Auth.Repositories

/-!
# Roles and permissions

`identity/src/modules/auth/engine`. A set of names is a list without repetitions in the order
of insertion.
-/

namespace Bankos

open Js Effects

namespace PermissionResolver

/-- `new Map(roles.map(r => [r.name, r]))`: the last role of a name wins. -/
def roleMap (roles : List Role) (name : String) : Option Role :=
  roles.reverse.find? fun r ↦ decide (r.name = name)

/-- `PermissionResolver.ts:62–73`. Every level adds the name of a role that was not there yet, so
`fuel` never runs out when it exceeds the number of roles. -/
def collectRoles (roles : List Role) : Nat → List String → String → List String
  | 0, effectiveRoles, _ => effectiveRoles
  | fuel + 1, effectiveRoles, currentRoleName =>
    if effectiveRoles.contains currentRoleName then effectiveRoles
    else
      match roleMap roles currentRoleName with
      | none => effectiveRoles
      | some role =>
        let effectiveRoles := effectiveRoles ++ [currentRoleName]
        match role.parentId with
        | none => effectiveRoles
        | some parentId =>
          if parentId = "" then effectiveRoles
          else
            match roles.find? fun r ↦ decide (r.id = parentId) with
            | none => effectiveRoles
            | some parentRole => collectRoles roles fuel effectiveRoles parentRole.name

/-- `PermissionResolver.ts:58–79`. -/
def resolveEffectiveRoles (roleNames : List String) (roles : List Role) : List String :=
  roleNames.foldl (collectRoles roles (roles.length + 1)) []

/-- `PermissionResolver.ts:16–30`: the helper of the permissions repeats the recursion, with a
visited set of its own. -/
def collectPermissionRoles (roles : List Role) : Nat → List String → String → List String
  | 0, effectiveRoles, _ => effectiveRoles
  | fuel + 1, effectiveRoles, currentRoleName =>
    if effectiveRoles.contains currentRoleName then effectiveRoles
    else
      match roleMap roles currentRoleName with
      | none => effectiveRoles
      | some role =>
        let effectiveRoles := effectiveRoles ++ [currentRoleName]
        match role.parentId with
        | none => effectiveRoles
        | some parentId =>
          if parentId = "" then effectiveRoles
          else
            match roles.find? fun r ↦ decide (r.id = parentId) with
            | none => effectiveRoles
            | some parentRole => collectPermissionRoles roles fuel effectiveRoles parentRole.name

/-- The set of `PermissionResolver.ts:13–39`. -/
def permissionRoles (roleNames : List String) (roles : List Role) : List String :=
  roleNames.foldl (collectPermissionRoles roles (roles.length + 1)) []

/-- The two recursions visit the same roles in the same order. -/
theorem collectPermissionRoles_eq (roles : List Role) (fuel : Nat) (effectiveRoles : List String)
    (currentRoleName : String) :
    collectPermissionRoles roles fuel effectiveRoles currentRoleName =
      collectRoles roles fuel effectiveRoles currentRoleName := by
  induction fuel generalizing effectiveRoles currentRoleName with
  | zero => rfl
  | succ fuel ih => simp only [collectPermissionRoles, collectRoles, ih]

/-- Both methods of the resolver work on the same set of roles. -/
theorem permissionRoles_eq (roleNames : List String) (roles : List Role) :
    permissionRoles roleNames roles = resolveEffectiveRoles roleNames roles := by
  unfold permissionRoles resolveEffectiveRoles
  congr
  funext effectiveRoles roleName
  exact collectPermissionRoles_eq roles _ effectiveRoles roleName

/-- `PermissionResolver.ts:7–56`. -/
def resolveEffectivePermissions (roleNames : List String) : Program (List String) := do
  let roles ← PrismaRoleRepository.findAll
  let effectiveRoles := permissionRoles roleNames roles
  let perms ← Prog.each effectiveRoles fun roleName ↦
    match roleMap roles roleName with
    | some role => PrismaRoleRepository.findPermissions role.id
    | none => pure []
  pure perms.flatten.eraseDups

end PermissionResolver

namespace AuthorizationEngine

/-- `AuthorizationEngine.ts:14–17`. -/
def resolveRoles (roleNames : List String) : Program (List String) := do
  let roles ← PrismaRoleRepository.findAll
  pure (PermissionResolver.resolveEffectiveRoles roleNames roles)

/-- `AuthorizationEngine.ts:22–24`. -/
def resolvePermissions (roleNames : List String) : Program (List String) :=
  PermissionResolver.resolveEffectivePermissions roleNames

end AuthorizationEngine

namespace RBACEvaluator

/-- `RBACEvaluator.ts:11–25`. -/
def matchPermission (granted required : String) : Bool :=
  if granted = required then true
  else if granted = "*" then true
  else if ".*".toList.isSuffixOf granted.toList then
    -- `granted` without its star: the prefix with the dot
    granted.toList.dropLast.isPrefixOf required.toList
  else false

/-- `RBACEvaluator.ts:7–9`. An item that is not a string has no `endsWith`, so the search
throws when it gets there. -/
def hasPermission (grantedPermissions : List Item) (requiredPermission : String) :
    Except JsError Bool :=
  match grantedPermissions with
  | [] => .ok false
  | .str granted :: rest =>
    if matchPermission granted requiredPermission then .ok true
    else hasPermission rest requiredPermission
  | .other _ :: _ => .error (.error "granted.endsWith is not a function")

end RBACEvaluator

namespace PolicyEngine

/-- `payload.roles || []` and `payload.permissions || []`. -/
def orEmpty (v : Value) : Value := if v.truthy then v else .array []

/-- The string `needle` occurs in `hay`. -/
def occursIn (needle hay : String) : Bool :=
  hay.toList.tails.any fun t ↦ needle.toList.isPrefixOf t

/-- `PolicyEngine.ts:5–7`. A string has an `includes` as well. -/
def requireRole (grantedRoles : Value) (requiredRole : String) : Except JsError Bool :=
  match grantedRoles with
  | .array xs => .ok (xs.contains (.str requiredRole))
  | .str s => .ok (occursIn requiredRole s)
  | _ => .error (.error "grantedRoles.includes is not a function")

/-- The argument of `RBACEvaluator.hasPermission`, which only an array can be. -/
def grantedItems (grantedPermissions : Value) : Except JsError (List Item) :=
  match grantedPermissions with
  | .array xs => .ok xs
  | _ => .error (.error "grantedPermissions.some is not a function")

/-- `PolicyEngine.ts:9–11`. -/
def requirePermission (grantedPermissions : Value) (requiredPermission : String) :
    Except JsError Bool := do
  let xs ← grantedItems grantedPermissions
  RBACEvaluator.hasPermission xs requiredPermission

/-- `PolicyEngine.ts:13–15`. -/
def requireAny (grantedPermissions : Value) (requiredPermissions : List String) :
    Except JsError Bool :=
  match requiredPermissions with
  | [] => .ok false
  | req :: rest => do
    if ← requirePermission grantedPermissions req then .ok true
    else requireAny grantedPermissions rest

/-- `PolicyEngine.ts:17–19`. -/
def requireAll (grantedPermissions : Value) (requiredPermissions : List String) :
    Except JsError Bool :=
  match requiredPermissions with
  | [] => .ok true
  | req :: rest => do
    if ← requirePermission grantedPermissions req then requireAll grantedPermissions rest
    else .ok false

end PolicyEngine
end Bankos
