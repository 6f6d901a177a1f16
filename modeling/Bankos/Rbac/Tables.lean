import Bankos.Auth.Calls

/-!
# The role tables

What the calls on roles, permissions and their assignments do to the tables.
-/

namespace Bankos

open Js Jwt Effects Storage Prog

/-! ### Keys -/

namespace RoleTable

variable {t : RoleTable} {r s : RoleRow}

/-- Two roles of one id in a table are the same role. -/
theorem eq_of_id (hr : r ∈ t) (hs : s ∈ t) (h : r.id = s.id) : r = s :=
  Table.eq_of_clash hr hs (by simp [RoleRow.clash, h]) (by simp [RoleRow.clash, h])

/-- Two roles of one name in a table are the same role. -/
theorem eq_of_name (hr : r ∈ t) (hs : s ∈ t) (h : r.name = s.name) : r = s :=
  Table.eq_of_clash hr hs (by simp [RoleRow.clash, h]) (by simp [RoleRow.clash, h])

/-- A role is found by its id. -/
theorem find_id {id : String} :
    (t.find fun r ↦ decide (r.id = id)) = some r ↔ r ∈ t ∧ r.id = id := by
  constructor
  · intro h
    obtain ⟨hr, hp⟩ := Table.find_some h
    exact ⟨hr, by simpa using hp⟩
  · rintro ⟨hr, rfl⟩
    apply Table.find_of_mem hr (by simp)
    intro s hs
    have hs : s.id = r.id := by simpa using hs
    simp [RoleRow.clash, hs]

end RoleTable

/-- A stored permission is found by its id. -/
theorem PermissionTable.find_id {t : PermissionTable} {p : PermissionRow} {id : String} :
    (t.find fun p ↦ decide (p.id = id)) = some p ↔ p ∈ t ∧ p.id = id := by
  constructor
  · intro h
    obtain ⟨hp, hid⟩ := Table.find_some h
    exact ⟨hp, by simpa using hid⟩
  · rintro ⟨hp, rfl⟩
    apply Table.find_of_mem hp (by simp)
    intro q hq
    have hq : q.id = p.id := by simpa using hq
    simp [PermissionRow.clash, hq]

/-! ### Deletions and joins -/

/-- A parent that a role has after a deletion is not the deleted role. -/
theorem RoleRow.parentId_orphan {r : RoleRow} {id p : String}
    (h : (r.orphan id).parentId = some p) : r.parentId = some p ∧ p ≠ id := by
  unfold orphan at h
  split at h
  · cases h
  · next hne =>
    refine ⟨h, ?_⟩
    rintro rfl
    exact hne h

/-- The roles after a deletion. -/
theorem RoleTable.mem_delete {t : RoleTable} {id : String} {s : RoleRow} :
    s ∈ (t.keep fun r ↦ decide (r.id ≠ id)).map (RoleRow.orphan id) (RoleRow.clash_orphan id) ↔
      ∃ r ∈ t, r.id ≠ id ∧ r.orphan id = s := by
  rw [Table.mem_map]
  simp only [Table.mem_keep, decide_eq_true_eq, and_assoc]

section Joins

variable {Row : Type} [DecidableEq Row] {clash : Row → Row → Bool} {t : Table Row clash}

/-- An upsert removes no row. -/
theorem mem_upsertJoin {r row : Row} {keysStored : Bool} (h : r ∈ t) :
    r ∈ (upsertJoin t row keysStored).2 := by
  unfold upsertJoin
  split
  · exact h
  · split
    · cases hi : t.insert row with
      | none => exact h
      | some t' => exact (Table.mem_insert hi).mpr (.inl h)
    · exact h

/-- A deletion adds no row. -/
theorem mem_of_deleteJoin {r row : Row} (h : r ∈ (deleteJoin t row).2) : r ∈ t := by
  unfold deleteJoin at h
  split at h
  · exact (Table.mem_keep.mp h).1
  · exact h

end Joins

/-! ### Calls -/

/-- A UUID column takes the canonical form of its argument. -/
theorem uuidArgument_str {env : Env} {s id : String} (h : uuidArgument env (.str s) = .ok id) :
    env.parseUuid s = some id := by
  unfold uuidArgument at h
  dsimp only at h
  split at h
  · next id' hid =>
    cases h
    exact hid
  · cases h

/-- A nullable UUID column takes the canonical form of its argument. -/
theorem nullableUuid_some {env : Env} {p : Option String} {id : String}
    (h : nullableUuid env p = .ok (some id)) : ∃ s, p = some s ∧ env.parseUuid s = some id := by
  cases p with
  | none => cases h
  | some s =>
    unfold nullableUuid at h
    dsimp only at h
    cases hu : uuidArgument env (.str s) with
    | error e =>
      rw [hu] at h
      cases h
    | ok id' =>
      rw [hu] at h
      cases h
      exact ⟨s, rfl, uuidArgument_str hu⟩

/-- What `findUnique` by id answers is the stored role of this id. -/
theorem mem_of_findRoleById {env : Env} {w : World} {id : String} {r : RoleRow}
    (he : (exec env w (.role (.findUniqueById id))).1 = .ok (some r)) :
    r ∈ w.roles ∧ env.parseUuid id = some r.id := by
  simp only [exec, RoleOp.exec] at he
  cases hu : uuidArgument env (.str id) with
  | error e =>
    rw [hu] at he
    cases he
  | ok id' =>
    rw [hu] at he
    simp only [Except.map, Except.ok.injEq] at he
    obtain ⟨hr, hp⟩ := Table.find_some he
    have hid : r.id = id' := by simpa using hp
    rw [hid]
    exact ⟨hr, uuidArgument_str hu⟩

/-- A creation is refused, or inserts the role below a stored parent. -/
theorem RoleRow.execCreate_cases (env : Env) (t : RoleTable) (data : RoleRow) :
    (∃ e, data.execCreate env t = (.error e, t)) ∨
      ∃ id parentId t', uuidArgument env (.str data.id) = .ok id ∧
        nullableUuid env data.parentId = .ok parentId ∧
        t.insert { data with id := id, parentId := parentId } = some t' ∧
        RoleTable.parentStored t' parentId = true ∧ data.execCreate env t = (.ok (), t') := by
  unfold execCreate
  cases hid : uuidArgument env (.str data.id) with
  | error e => exact .inl ⟨e, rfl⟩
  | ok id =>
    cases hparent : nullableUuid env data.parentId with
    | error e => exact .inl ⟨e, rfl⟩
    | ok parentId =>
      dsimp only
      cases hi : t.insert { data with id := id, parentId := parentId } with
      | none => exact .inl ⟨_, rfl⟩
      | some t' =>
        dsimp only
        by_cases hstored : RoleTable.parentStored t' parentId = true
        · rw [if_pos hstored]
          exact .inr ⟨id, parentId, t', rfl, rfl, hi, hstored, rfl⟩
        · rw [if_neg hstored]
          exact .inl ⟨_, rfl⟩

/-- A call in the area of role creation creates a role. -/
theorem Op.eq_create_of_area {op : Op} (h : op.area = some .roleCreate) :
    ∃ data, op = .role (.create data) := by
  cases op with
  | role o =>
    cases o with
    | create data => exact ⟨data, rfl⟩
    | _ => cases h
  | user o => cases o <;> cases h
  | hasher o => cases o <;> cases h
  | resetToken o => cases o <;> cases h
  | permission o => cases o <;> cases h
  | _ => cases h

/-- A call in the area of role deletion deletes a role. -/
theorem Op.eq_delete_of_area {op : Op} (h : op.area = some .roleDelete) :
    ∃ id, op = .role (.delete id) := by
  cases op with
  | role o =>
    cases o with
    | delete id => exact ⟨id, rfl⟩
    | _ => cases h
  | user o => cases o <;> cases h
  | hasher o => cases o <;> cases h
  | resetToken o => cases o <;> cases h
  | permission o => cases o <;> cases h
  | _ => cases h

/-- Only creating and deleting roles changes the roles. -/
theorem exec_roles (env : Env) (w : World) {op : Op} (hcreate : op.area ≠ some .roleCreate)
    (hdelete : op.area ≠ some .roleDelete) : (exec env w op).2.roles = w.roles := by
  cases op with
  | role o =>
    cases o with
    | findUniqueByName name => rfl
    | findUniqueById id => rfl
    | create data => exact absurd rfl hcreate
    | delete id => exact absurd rfl hdelete
    | upsertUserRole row =>
      simp only [exec, RoleOp.exec]
      split <;> rfl
    | deleteUserRole row =>
      simp only [exec, RoleOp.exec]
      split <;> rfl
    | upsertRolePermission row =>
      simp only [exec, RoleOp.exec]
      split <;> rfl
    | deleteRolePermission row =>
      simp only [exec, RoleOp.exec]
      split <;> rfl
  | jwtSign c =>
    simp only [exec]
    split <;> rfl
  | _ => rfl

/-- The areas in which a call can change the role tables. -/
def Area.writesRbac : Area → Bool
  | .roleCreate => true
  | .roleDelete => true
  | .roleAssign => true
  | .roleRemove => true
  | .permissionAssign => true
  | .permissionRemove => true
  | .permissionCreate => true
  | _ => false

/-- Other calls leave the role tables alone. -/
theorem exec_rbac (env : Env) (w : World) {op : Op} (h : ∀ a ∈ op.area, a.writesRbac = false) :
    (exec env w op).2.rbac = w.rbac := by
  cases op with
  | role o =>
    cases o with
    | findUniqueByName name => rfl
    | findUniqueById id => rfl
    | create data => cases h _ rfl
    | delete id => cases h _ rfl
    | upsertUserRole row => cases h _ rfl
    | deleteUserRole row => cases h _ rfl
    | upsertRolePermission row => cases h _ rfl
    | deleteRolePermission row => cases h _ rfl
  | permission o =>
    cases o with
    | findUniqueByName name => rfl
    | create data => cases h _ rfl
  | jwtSign c =>
    simp only [exec]
    split
    · rfl
    · rfl
  | _ => rfl

end Bankos
