import Bankos.Rbac.Calls
import Bankos.Rbac.Matching
import Bankos.Rbac.Permissions

/-!
# Edits and what users may do

Role tables are compared by what they grant: every row of the lower one is in the higher one, up to
the parents that a deletion has cut. Every call of an edit that takes something away leads to a
lower state, every call of one that adds something to a higher one.
-/

namespace Bankos

open Js Jwt Effects Storage Prog Relation

/-- The tables `t` grant no more than `t'`. -/
structure RbacTables.Below (t t' : RbacTables) : Prop where
  roles : ∀ r ∈ t.roles, ∃ r' ∈ t'.roles, r'.id = r.id ∧
    ∀ p, r.parentId = some p → r'.parentId = some p
  permissions : ∀ p ∈ t.permissions, p ∈ t'.permissions
  userRoles : ∀ ur ∈ t.userRoles, ur ∈ t'.userRoles
  rolePermissions : ∀ rp ∈ t.rolePermissions, rp ∈ t'.rolePermissions

namespace RbacTables

variable {t t' t'' : RbacTables}

/-- Every state of the tables is below itself. -/
theorem Below.refl (t : RbacTables) : t.Below t where
  roles r hr := ⟨r, hr, rfl, fun _ h ↦ h⟩
  permissions _ h := h
  userRoles _ h := h
  rolePermissions _ h := h

/-- A state below one that is below a third is below the third. -/
theorem Below.trans (h : t.Below t') (h' : t'.Below t'') : t.Below t'' where
  roles r hr := by
    obtain ⟨r', hr', hid, hparent⟩ := h.roles r hr
    obtain ⟨r'', hr'', hid', hparent'⟩ := h'.roles r' hr'
    exact ⟨r'', hr'', hid'.trans hid, fun p hp ↦ hparent' p (hparent p hp)⟩
  permissions p hp := h'.permissions p (h.permissions p hp)
  userRoles ur hur := h'.userRoles ur (h.userRoles ur hur)
  rolePermissions rp hrp := h'.rolePermissions rp (h.rolePermissions rp hrp)

/-- A role of the lower tables inherits, in the higher ones, from what it inherited from. -/
theorem Below.inherits (h : t.Below t') {r s r' : RoleRow} (hr' : r' ∈ t'.roles)
    (hid : r'.id = r.id) (hreach : ReflTransGen (RoleRow.InheritsIn t.roles) r s) :
    ∃ s' ∈ t'.roles, s'.id = s.id ∧ ReflTransGen (RoleRow.InheritsIn t'.roles) r' s' := by
  induction hreach with
  | refl => exact ⟨r', hr', hid, .refl⟩
  | @tail a b _ hlink ih =>
    obtain ⟨a', ha', hida, hreach'⟩ := ih
    obtain ⟨ha, hb, hparent, hset⟩ := hlink
    obtain ⟨a'', ha'', hida', hparents⟩ := h.roles a ha
    have haa : a'' = a' := RoleTable.eq_of_id ha'' ha' (hida'.trans hida.symm)
    subst haa
    obtain ⟨b', hb', hidb, -⟩ := h.roles b hb
    refine ⟨b', hb', hidb, hreach'.tail ⟨ha', hb', ?_, ?_⟩⟩
    · rw [hidb]
      exact hparents _ hparent
    · rw [hidb]
      exact hset

/-- Higher tables grant whatever the lower ones grant. -/
theorem Below.holds (h : t.Below t') {userId permission : String}
    (hholds : t.Holds userId permission) : t'.Holds userId permission := by
  obtain ⟨ur, hur, huser, r, hr, hrid, s, hs, hreach, rp, hrp, hrole, p, hp, hpid, hname⟩ := hholds
  obtain ⟨r', hr', hid, -⟩ := h.roles r hr
  obtain ⟨s', hs', hids, hreach'⟩ := h.inherits hr' hid hreach
  exact ⟨ur, h.userRoles ur hur, huser, r', hr', hid.trans hrid, s', hs', hreach', rp,
    h.rolePermissions rp hrp, hrole.trans hids.symm, p, h.permissions p hp, hpid, hname⟩

/-- A deletion takes away. -/
theorem below_deleteRole (t : RbacTables) (id : String) : (t.deleteRole id).Below t where
  roles r' hr' := by
    obtain ⟨r, hr, -, rfl⟩ := RoleTable.mem_delete.mp hr'
    exact ⟨r, hr, (RoleRow.orphan_keys id r).1.symm, fun p hp ↦ (RoleRow.parentId_orphan hp).1⟩
  permissions _ hp := hp
  userRoles _ hur := (Table.mem_keep.mp hur).1
  rolePermissions _ hrp := (Table.mem_keep.mp hrp).1

end RbacTables

/-- The areas in which a call can let users do more. -/
def Area.grants : Area → Bool
  | .roleCreate => true
  | .roleAssign => true
  | .permissionAssign => true
  | .permissionCreate => true
  | _ => false

/-- The areas in which a call can let users do less. -/
def Area.revokes : Area → Bool
  | .roleDelete => true
  | .roleRemove => true
  | .permissionRemove => true
  | _ => false

/-- Calls outside the granting areas lead to lower tables. -/
theorem exec_below (env : Env) (w : World) {op : Op} (h : ∀ a ∈ op.area, a.grants = false) :
    (exec env w op).2.rbac.Below w.rbac := by
  cases op with
  | role o =>
    cases o with
    | findUniqueByName name => exact .refl _
    | findUniqueById id => exact .refl _
    | create data => cases h _ rfl
    | delete id =>
      simp only [exec, RoleOp.exec]
      split
      · exact .refl _
      · split
        · exact RbacTables.below_deleteRole _ _
        · exact .refl _
    | upsertUserRole row => cases h _ rfl
    | deleteUserRole row =>
      simp only [exec, RoleOp.exec]
      split
      · exact .refl _
      · exact { RbacTables.Below.refl w.rbac with userRoles := fun _ ↦ mem_of_deleteJoin }
    | upsertRolePermission row => cases h _ rfl
    | deleteRolePermission row =>
      simp only [exec, RoleOp.exec]
      split
      · exact .refl _
      · exact { RbacTables.Below.refl w.rbac with rolePermissions := fun _ ↦ mem_of_deleteJoin }
  | permission o =>
    cases o with
    | findUniqueByName name => exact .refl _
    | create data => cases h _ rfl
  | jwtSign c =>
    simp only [exec]
    split
    · exact .refl _
    · exact .refl _
  | _ => exact .refl _

/-- Calls outside the revoking areas lead to higher tables. -/
theorem below_exec (env : Env) (w : World) {op : Op} (h : ∀ a ∈ op.area, a.revokes = false) :
    w.rbac.Below (exec env w op).2.rbac := by
  cases op with
  | role o =>
    cases o with
    | findUniqueByName name => exact .refl _
    | findUniqueById id => exact .refl _
    | create data =>
      rcases data.execCreate_cases env w.roles with ⟨e, he⟩ | ⟨id, parentId, t', -, -, hi, -, he⟩
      · simp only [exec, RoleOp.exec, World.rbac, he]
        exact .refl _
      · simp only [exec, RoleOp.exec, World.rbac, he]
        exact { RbacTables.Below.refl w.rbac with
          roles := fun r hr ↦ ⟨r, (Table.mem_insert hi).mpr (.inl hr), rfl, fun _ hp ↦ hp⟩ }
    | delete id => cases h _ rfl
    | upsertUserRole row =>
      simp only [exec, RoleOp.exec]
      split
      · exact .refl _
      · exact { RbacTables.Below.refl w.rbac with userRoles := fun _ ↦ mem_upsertJoin }
    | deleteUserRole row => cases h _ rfl
    | upsertRolePermission row =>
      simp only [exec, RoleOp.exec]
      split
      · exact .refl _
      · exact { RbacTables.Below.refl w.rbac with rolePermissions := fun _ ↦ mem_upsertJoin }
    | deleteRolePermission row => cases h _ rfl
  | permission o =>
    cases o with
    | findUniqueByName name => exact .refl _
    | create data =>
      simp only [exec, PermissionOp.exec]
      split
      · exact .refl _
      · split
        · next hinsert =>
          exact { RbacTables.Below.refl w.rbac with
            permissions := fun p hp ↦ (Table.mem_insert hinsert).mpr (.inl hp) }
        · exact .refl _
  | jwtSign c =>
    simp only [exec]
    split
    · exact .refl _
    · exact .refl _
  | _ => exact .refl _

/-! ### Creating a role -/

/-- The foreign keys of the role tables. -/
structure World.ForeignKeys (w : World) : Prop where
  parent : ∀ r ∈ w.roles, ∀ p, r.parentId = some p → ∃ s ∈ w.roles, s.id = p
  userRoleUser : ∀ ur ∈ w.userRoles, ∃ u ∈ w.users, u.id = ur.userId
  userRoleRole : ∀ ur ∈ w.userRoles, ∃ r ∈ w.roles, r.id = ur.roleId
  rolePermissionRole : ∀ rp ∈ w.rolePermissions, ∃ r ∈ w.roles, r.id = rp.roleId
  rolePermissionPermission : ∀ rp ∈ w.rolePermissions, ∃ p ∈ w.permissions, p.id = rp.permissionId

/-- Only roles were added, and none of their assignments. -/
structure RbacTables.RolesAdded (t t' : RbacTables) : Prop where
  roles : ∀ r ∈ t.roles, r ∈ t'.roles
  permissions : t'.permissions = t.permissions
  userRoles : t'.userRoles = t.userRoles
  rolePermissions : t'.rolePermissions = t.rolePermissions

/-- A call that reads or creates roles adds at most a role. -/
theorem RbacTables.RolesAdded.exec {env : Env} {t : RbacTables} {w : World} {op : Op}
    (h : t.RolesAdded w.rbac) (hop : op.within [.roleRead, .roleCreate]) :
    t.RolesAdded (Bankos.exec env w op).2.rbac := by
  by_cases hcreate : op.area = some .roleCreate
  · obtain ⟨data, rfl⟩ := Op.eq_create_of_area hcreate
    rcases data.execCreate_cases env w.roles with ⟨e, he⟩ | ⟨id, parentId, t', -, -, hi, -, he⟩
    · simp only [Bankos.exec, RoleOp.exec, World.rbac, he]
      exact h
    · simp only [Bankos.exec, RoleOp.exec, World.rbac, he]
      exact { h with roles := fun r hr ↦ (Table.mem_insert hi).mpr (.inl (h.roles r hr)) }
  · rw [exec_rbac env w]
    · exact h
    · intro a ha
      have hmem := hop a ha
      simp only [List.mem_cons, List.not_mem_nil, or_false] at hmem
      rcases hmem with rfl | rfl
      · rfl
      · exact absurd ha hcreate

/-- A role that nobody has and nobody inherits from grants nothing. -/
theorem RbacTables.RolesAdded.holds {w : World} {t' : RbacTables} (h : w.rbac.RolesAdded t')
    (hfk : w.ForeignKeys) {userId permission : String} (hholds : t'.Holds userId permission) :
    w.rbac.Holds userId permission := by
  obtain ⟨ur, hur, huser, r, hr, hrid, s, hs, hreach, rp, hrp, hrole, p, hp, hpid, hname⟩ := hholds
  rw [h.userRoles] at hur
  rw [h.rolePermissions] at hrp
  rw [h.permissions] at hp
  -- a role whose id an old row names is an old role
  have hold : ∀ r ∈ t'.roles, (∃ r₀ ∈ w.roles, r₀.id = r.id) → r ∈ w.roles := by
    rintro r hr ⟨r₀, hr₀, hid⟩
    rwa [RoleTable.eq_of_id hr (h.roles r₀ hr₀) hid.symm]
  have hr₀ : r ∈ w.roles := by
    apply hold r hr
    rw [hrid]
    exact hfk.userRoleRole ur hur
  have hmem : s ∈ w.roles ∧ ReflTransGen (RoleRow.InheritsIn w.roles) r s := by
    clear hrole hs
    induction hreach with
    | refl => exact ⟨hr₀, .refl⟩
    | @tail a b _ hlink ih =>
      obtain ⟨ha, hreach⟩ := ih
      obtain ⟨-, hb, hparent, hset⟩ := hlink
      have hb₀ : b ∈ w.roles := hold b hb (hfk.parent a ha _ hparent)
      exact ⟨hb₀, hreach.tail ⟨ha, hb₀, hparent, hset⟩⟩
  exact ⟨ur, hur, huser, r, hr₀, hrid, s, hmem.1, hmem.2, rp, hrp, hrole, p, hp, hpid, hname⟩

/-- Adding roles takes nothing away. -/
theorem RbacTables.RolesAdded.below {t t' : RbacTables} (h : t.RolesAdded t') : t.Below t' where
  roles r hr := ⟨r, h.roles r hr, rfl, fun _ hp ↦ hp⟩
  permissions _ hp := h.permissions ▸ hp
  userRoles _ hur := h.userRoles ▸ hur
  rolePermissions _ hrp := h.rolePermissions ▸ hrp

/-! ### Edits -/

/-- The policy engine grants the user the required permission on its effective permissions. -/
def World.Grants (env : Env) (w : World) (userId required : String) : Prop :=
  ∃ perms w', (resolveUserPermissions userId).run (exec env) w = (.ok perms, w') ∧
    PolicyEngine.requirePermission (.strings perms) required = .ok true

/-- The world after the edit has run alone, whether it returned or threw. -/
def RbacEdit.after (env : Env) (e : RbacEdit) (w : World) : World := (e.run.run (exec env) w).2

/-- A permission is granted when one that the user holds matches it. -/
theorem World.grants_iff {env : Env} {w : World} {userId required : String} :
    w.Grants env userId required ↔
      ∃ granted, w.rbac.Holds userId granted ∧
        RBACEvaluator.matchPermission granted required = true := by
  unfold World.Grants
  simp only [run_resolveUserPermissions, PolicyEngine.requirePermission_strings, Prod.mk.injEq,
    Except.ok.injEq, List.any_eq_true]
  constructor
  · rintro ⟨_, _, ⟨rfl, -⟩, granted, hmem, hmatch⟩
    exact ⟨granted, RbacTables.mem_effectivePermissions.mp hmem, hmatch⟩
  · rintro ⟨granted, hholds, hmatch⟩
    exact ⟨_, _, ⟨rfl, rfl⟩, granted, RbacTables.mem_effectivePermissions.mpr hholds, hmatch⟩

/-- Lower tables grant no more. -/
theorem World.Grants.mono {env : Env} {w w' : World} {userId required : String}
    (h : w.Grants env userId required) (hbelow : w.rbac.Below w'.rbac) :
    w'.Grants env userId required := by
  obtain ⟨granted, hholds, hmatch⟩ := World.grants_iff.mp h
  exact World.grants_iff.mpr ⟨granted, hbelow.holds hholds, hmatch⟩

/-- An edit without granting calls leads to lower tables. -/
theorem RbacEdit.after_below (env : Env) (w : World) {e : RbacEdit}
    (h : e.areas.all fun a ↦ !a.grants) : (e.after env w).rbac.Below w.rbac := by
  apply e.run_uses.run_keeps (J := fun w' : World ↦ w'.rbac.Below w.rbac) _ w (.refl _)
  intro w' op hop hw'
  apply RbacTables.Below.trans _ hw'
  apply exec_below
  intro a ha
  simpa using List.all_eq_true.mp h a (hop a ha)

/-- An edit without revoking calls leads to higher tables. -/
theorem RbacEdit.below_after (env : Env) (w : World) {e : RbacEdit}
    (h : e.areas.all fun a ↦ !a.revokes) : w.rbac.Below (e.after env w).rbac := by
  apply e.run_uses.run_keeps (J := fun w' : World ↦ w.rbac.Below w'.rbac) _ w (.refl _)
  intro w' op hop hw'
  apply hw'.trans
  apply below_exec
  intro a ha
  simpa using List.all_eq_true.mp h a (hop a ha)

/-- The creation of a role only adds roles. -/
theorem rolesAdded_after (env : Env) (w : World) (dto : CreateRoleDTO) :
    w.rbac.RolesAdded ((RbacEdit.createRole dto).after env w).rbac := by
  apply (RbacEdit.run_uses (.createRole dto)).run_keeps
    (J := fun w' : World ↦ w.rbac.RolesAdded w'.rbac)
  · intro w' op hop hw'
    exact hw'.exec hop
  · exact ⟨fun _ hr ↦ hr, rfl, rfl, rfl⟩

/-- Deleting a role, removing a permission and removing a role let nobody do more; assigning a
permission and assigning a role let nobody do less; creating a role changes nobody's effective
permissions. -/
theorem rbac_edits_monotone (env : Env) (w : World) (hfk : w.ForeignKeys)
    (userId required : String) :
    (∀ id, ((RbacEdit.deleteRole id).after env w).Grants env userId required →
        w.Grants env userId required) ∧
      (∀ roleId permissionId,
        ((RbacEdit.removePermission roleId permissionId).after env w).Grants env userId required →
          w.Grants env userId required) ∧
      (∀ userId' roleName,
        ((RbacEdit.removeRole userId' roleName).after env w).Grants env userId required →
          w.Grants env userId required) ∧
      (∀ roleId permissionId, w.Grants env userId required →
        ((RbacEdit.assignPermission roleId permissionId).after env w).Grants env userId required) ∧
      (∀ userId' roleName, w.Grants env userId required →
        ((RbacEdit.assignRole userId' roleName).after env w).Grants env userId required) ∧
      ∀ dto, ∃ perms perms',
        (resolveUserPermissions userId).run (exec env) w = (.ok perms, w) ∧
        (resolveUserPermissions userId).run (exec env) ((RbacEdit.createRole dto).after env w) =
          (.ok perms', (RbacEdit.createRole dto).after env w) ∧
        ∀ p, p ∈ perms' ↔ p ∈ perms := by
  refine ⟨?_, ?_, ?_, ?_, ?_, ?_⟩
  · intro id h
    exact h.mono (RbacEdit.after_below env w rfl)
  · intro roleId permissionId h
    exact h.mono (RbacEdit.after_below env w rfl)
  · intro userId' roleName h
    exact h.mono (RbacEdit.after_below env w rfl)
  · intro roleId permissionId h
    exact h.mono (RbacEdit.below_after env w rfl)
  · intro userId' roleName h
    exact h.mono (RbacEdit.below_after env w rfl)
  · intro dto
    refine ⟨_, _, run_resolveUserPermissions env w userId, run_resolveUserPermissions env _ userId,
      ?_⟩
    have hadded := rolesAdded_after env w dto
    intro p
    rw [RbacTables.mem_effectivePermissions, RbacTables.mem_effectivePermissions]
    constructor
    · intro h
      exact hadded.holds hfk h
    · intro h
      exact hadded.below.holds h

/-- The foreign keys of the staffed deployment. -/
theorem Sample.foreignKeys_staffed : staffed.ForeignKeys := by
  constructor <;> simp [staffed, Table.mem_iff, Table.single, registered, alice]

/-- Deleting a role lets `alice` do no more. -/
theorem rbac_edits_monotone_staffed :
    ¬ (Sample.staffed.Grants Sample.env "alice" "accounts.open" ∨
      ((RbacEdit.deleteRole "r1").after Sample.env Sample.staffed).Grants Sample.env "alice"
        "accounts.open") := by
  have hbefore : ¬ Sample.staffed.Grants Sample.env "alice" "accounts.open" := by
    rintro ⟨perms, w', hrun, hgrants⟩
    have hperms : perms = ["accounts.close", "accounts.read"] := by
      have heff : Sample.staffed.rbac.effectivePermissions "alice" =
          ["accounts.close", "accounts.read"] := by decide +kernel
      rw [run_resolveUserPermissions, heff] at hrun
      cases hrun
      rfl
    rw [hperms] at hgrants
    exact absurd hgrants (by decide +kernel)
  rintro (h | h)
  · exact hbefore h
  · exact hbefore ((rbac_edits_monotone Sample.env Sample.staffed Sample.foreignKeys_staffed
      "alice" "accounts.open").1 "r1" h)

end Bankos
