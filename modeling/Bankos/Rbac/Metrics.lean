import Bankos.Auth.Alone
import Bankos.Rbac.Calls

/-!
# The counters of role administration

`MetricsEventHandler` switches on the name of an event, and the events that it waits for have the
empty name. So the counters stay where they are, whatever succeeds.
-/

namespace Bankos

open Js Jwt Effects Storage Prog DatabaseMapper

/-- A dispatcher on which `MetricsEventHandler` is registered. -/
def metricsDispatch : IDomainEventDispatcher :=
  DomainEventDispatcher.dispatch [MetricsEventHandler.handle]

/-- A call of one of the four services, or a request to a guard. -/
inductive RbacCall where
  | createRole (dto : CreateRoleDTO)
  | createPermission (dto : CreatePermissionDTO)
  | assignRole (userId roleName : String)
  | assignPermission (roleId permissionId : String)
  | guarded (guard : RequireAuth) (req : HttpRequest)
  deriving DecidableEq, Repr

/-- What it returns. -/
inductive RbacReply where
  | created (id : String)
  | done
  | verdict (v : Verdict)
  deriving DecidableEq, Repr

namespace RbacCall

/-- The program of a call, with the handler registered. -/
def program (env : Env) : RbacCall → Program RbacReply
  | createRole dto => do
    let id ← CreateRoleService.execute dto metricsDispatch
    pure (.created id)
  | createPermission dto => do
    let id ← CreatePermissionService.execute dto metricsDispatch
    pure (.created id)
  | assignRole userId roleName => do
    AssignRoleService.execute userId roleName metricsDispatch
    pure .done
  | assignPermission roleId permissionId => do
    AssignPermissionService.execute roleId permissionId metricsDispatch
    pure .done
  | guarded guard req => do
    let v ← guard.guard.handle env metricsDispatch req
    pure (.verdict v)

/-- The counter that is to count the call. -/
def counter : RbacCall → Counter
  | createRole _ => .rolesCreatedTotal
  | createPermission _ => .permissionsCreatedTotal
  | assignRole _ _ => .roleAssignmentsTotal
  | assignPermission _ _ => .roleAssignmentsTotal
  | guarded _ _ => .permissionDeniedTotal

end RbacCall

/-- The call is to be counted: a service has succeeded, or a guard has dispatched a denial. -/
def counted : Except JsError RbacReply → Bool
  | .ok (.created _) => true
  | .ok .done => true
  | .ok (.verdict .forbidden) => true
  | _ => false

/-- How many calls of a sequence the counter `k` is to count. -/
def timesCounted (env : Env) (w : World) (calls : List (Nat × RbacCall)) (k : Counter) : Nat :=
  (visits (exec env) World.pass (RbacCall.program env) w calls).countP fun v ↦
    decide (v.2.counter = k) && counted ((v.2.program env).run (exec env) v.1).1

/-- After the sequence every counter has gone up by what it is to count. -/
def CountersAgree (env : Env) (w : World) (calls : List (Nat × RbacCall)) : Prop :=
  ∀ k, (runAll (exec env) World.pass (RbacCall.program env) w calls).counters k =
    w.counters k + timesCounted env w calls k

/-! ### When a call is to be counted -/

section Accepts

variable (env : Env) (w : World)

/-- The name is free, the parent is stored, and the id that is drawn is new. -/
def CreateRoleService.Accepts (dto : CreateRoleDTO) : Prop :=
  (∀ r ∈ w.roles, r.name ≠ dto.name) ∧
    (∀ parentId, orNull dto.parentId = some parentId →
      ∃ id, env.parseUuid parentId = some id ∧ ∃ r ∈ w.roles, r.id = id) ∧
    ∀ r ∈ w.roles, r.id ≠ env.uuid w.draws

/-- The name and the pair of resource and action are free, and the id that is drawn is new. -/
def CreatePermissionService.Accepts (dto : CreatePermissionDTO) : Prop :=
  ∀ r ∈ w.permissions, r.name ≠ dto.name ∧ ¬ (r.resource = dto.resource ∧ r.action = dto.action) ∧
    r.id ≠ env.uuid w.draws

/-- The user is stored, and so is a role of the name, unless the user has it already. -/
def AssignRoleService.Accepts (userId roleName : String) : Prop :=
  ∃ id, env.parseUuid userId = some id ∧ (∃ u ∈ w.users, u.id = id) ∧
    ∃ r ∈ w.roles, r.name = roleName ∧ ∃ roleId, env.parseUuid r.id = some roleId ∧
      (⟨id, roleId⟩ ∈ w.userRoles ∨ ∃ s ∈ w.roles, s.id = roleId)

/-- The role is stored, and so is the permission, unless the role has it already. -/
def AssignPermissionService.Accepts (roleId permissionId : String) : Prop :=
  ∃ id, env.parseUuid roleId = some id ∧ (∃ r ∈ w.roles, r.id = id) ∧
    ∃ permission, env.parseUuid permissionId = some permission ∧
      (⟨id, permission⟩ ∈ w.rolePermissions ∨ ∃ p ∈ w.permissions, p.id = permission)

/-- The token of the request verifies, and its claims do not satisfy the policy. -/
def Guard.Denies (guard : Guard) (req : HttpRequest) : Prop :=
  ∃ token, guard.token req = some token ∧
    ∃ claims, JwtTokenService.verifyAt env token w.now = .ok claims ∧
      guard.policy claims = .ok false

/-- The call is going to succeed, or to be denied. -/
def RbacCall.Succeeds : RbacCall → Prop
  | createRole dto => CreateRoleService.Accepts env w dto
  | createPermission dto => CreatePermissionService.Accepts env w dto
  | assignRole userId roleName => AssignRoleService.Accepts env w userId roleName
  | assignPermission roleId permissionId =>
    AssignPermissionService.Accepts env w roleId permissionId
  | guarded guard req => guard.guard.Denies env w req

end Accepts

/-! ### The services alone -/

section Alone

variable {env : Env} {w : World}

/-- The handler does nothing about an event with the empty name. -/
theorem metricsDispatch_silent {event : DomainEvent} (h : event.eventName = "") :
    metricsDispatch [event] = .done (.ok ()) := by
  have hhandle : MetricsEventHandler.handle event = .done (.ok ()) := by
    unfold MetricsEventHandler.handle
    rw [h]
    rfl
  unfold metricsDispatch DomainEventDispatcher.dispatch
  simp [Prog.each, hhandle]

/-- The handler does nothing about a denial. -/
theorem metricsDispatch_denied (guard : RequireAuth) (req : HttpRequest) (claims : Claims) :
    metricsDispatch [{ detail := guard.guard.denied req claims }] = .done (.ok ()) := by
  apply metricsDispatch_silent
  cases guard <;> rfl

/-- A program that ends with the dispatch of such an event succeeds as it does without. -/
theorem isOk_dispatch {p : Program Unit} {event : DomainEvent} (h : event.eventName = "") :
    ((p >>= fun _ ↦ metricsDispatch [event]).run (exec env) w).1.isOk =
      (p.run (exec env) w).1.isOk := by
  rw [run_bind, metricsDispatch_silent h]
  rcases p.run (exec env) w with ⟨_ | _, w'⟩ <;> rfl

/-- A lookup of a role by its name. -/
theorem run_findRoleByName (name : String) :
    (PrismaRoleRepository.findByName name).run (exec env) w =
      (.ok ((w.roles.find fun r ↦ decide (r.name = name)).map toDomainRole), w) := rfl

/-- A lookup of a permission by its name. -/
theorem run_findPermissionByName (name : String) :
    (PrismaPermissionRepository.findByName name).run (exec env) w =
      (.ok ((w.permissions.find fun r ↦ decide (r.name = name)).map toDomainPermission), w) := rfl

/-- A role is looked up by its id, if that is a UUID. -/
theorem run_findRoleById (id : String) :
    (PrismaRoleRepository.findById id).run (exec env) w =
      match uuidArgument env (.str id) with
      | .ok id => (.ok ((w.roles.find fun r ↦ decide (r.id = id)).map toDomainRole), w)
      | .error e => (.error e, w) := by
  unfold PrismaRoleRepository.findById
  rw [run_bind, run_request]
  simp only [exec, RoleOp.exec, World.rbac]
  cases uuidArgument env (.str id) <;> rfl

/-- A row is found by a condition that some row of the table meets. -/
theorem find_isSome {Row : Type} {clash : Row → Row → Bool} {t : Table Row clash}
    {p : Row → Bool} : (t.find p).isSome = true ↔ ∃ r ∈ t, p r = true := by
  rw [Option.isSome_iff_ne_none, ne_eq, Table.find_none]
  simp

/-- A row of a join table is there after an upsert, if it was there or its keys are stored. -/
theorem upsertJoin_isOk {Row : Type} [DecidableEq Row] {clash : Row → Row → Bool}
    (hclash : ∀ r s, clash r s = true → r = s) (t : Table Row clash) (row : Row) (keys : Bool) :
    (upsertJoin t row keys).1.isOk = true ↔ row ∈ t ∨ keys = true := by
  unfold upsertJoin
  by_cases hrow : row ∈ t.rows
  · rw [if_pos hrow]
    exact iff_of_true rfl (.inl hrow)
  · rw [if_neg hrow]
    cases keys with
    | false => exact iff_of_false (by simp) (by simpa [Table.mem_iff])
    | true =>
      rw [if_pos rfl]
      cases hi : t.insert row with
      | some t' => exact iff_of_true rfl (.inr rfl)
      | none =>
        obtain ⟨r, hr, hsame⟩ := Table.insert_eq_none.mp hi
        rw [hclash r row hsame] at hr
        exact absurd hr hrow

/-- Both columns of a join table are UUIDs, or the row is refused. -/
theorem uuidPair_eq (a b : String) :
    uuidPair env a b =
      match env.parseUuid a, env.parseUuid b with
      | some a, some b => .ok (a, b)
      | _, _ => .error (.prismaError "P2023") := by
  unfold uuidPair
  simp only [uuidArgument]
  cases env.parseUuid a <;> cases env.parseUuid b <;> rfl

namespace CreateRoleService

/-- The parent that is asked for is stored. -/
def ParentStored (env : Env) (w : World) (parentId : Option String) : Prop :=
  ∀ p, parentId = some p → ∃ id, env.parseUuid p = some id ∧ ∃ r ∈ w.roles, r.id = id

/-- The check of the parent passes without an effect if the parent is stored, and throws
otherwise. -/
theorem run_checkParent (env : Env) (w : World) (dto : CreateRoleDTO) :
    (ParentStored env w (orNull dto.parentId) ∧
      (checkParent dto).run (exec env) w = (.ok (), w)) ∨
    ¬ ParentStored env w (orNull dto.parentId) ∧
      ∃ e, (checkParent dto).run (exec env) w = (.error e, w) := by
  unfold checkParent ParentStored
  cases hparent : orNull dto.parentId with
  | none =>
    left
    refine ⟨fun _ h ↦ ?_, rfl⟩
    cases h
  | some parentId =>
    dsimp only
    rw [run_bind, run_findRoleById]
    simp only [uuidArgument]
    cases hid : env.parseUuid parentId with
    | none =>
      right
      refine ⟨fun h ↦ ?_, _, rfl⟩
      obtain ⟨id, hsome, -⟩ := h parentId rfl
      rw [hid] at hsome
      cases hsome
    | some id =>
      dsimp only
      cases hfind : w.roles.find fun r ↦ decide (r.id = id) with
      | none =>
        right
        refine ⟨fun h ↦ ?_, _, rfl⟩
        obtain ⟨id', hsome, r, hr, hrid⟩ := h parentId rfl
        rw [hid] at hsome
        cases hsome
        simpa [hrid] using Table.find_none.mp hfind r hr
      | some r =>
        left
        refine ⟨?_, rfl⟩
        rintro _ ⟨⟩
        obtain ⟨hr, hrid⟩ := Table.find_some hfind
        exact ⟨id, hid, r, hr, of_decide_eq_true hrid⟩

/-- A role with a free name and a stored parent is created under a new id. -/
theorem execCreate_isOk {data : RoleRow} {n : Nat} (hid : data.id = env.uuid n)
    (hname : ∀ r ∈ w.roles, r.name ≠ data.name)
    (hparent : ParentStored env w data.parentId) :
    (data.execCreate env w.roles).1.isOk = true ↔ ∀ r ∈ w.roles, r.id ≠ env.uuid n := by
  have hfree : ∀ parentId, ((w.roles.insert
      { data with id := env.uuid n, parentId := parentId }).isSome = true ↔
        ∀ r ∈ w.roles, r.id ≠ env.uuid n) := by
    intro parentId
    rw [Table.insert_isSome]
    constructor
    · intro h r hr hsame
      simpa [RoleRow.clash, hsame] using h r hr
    · intro h r hr
      simp [RoleRow.clash, h r hr, hname r hr]
  obtain ⟨parentId, hnullable, hstored⟩ : ∃ parentId,
      nullableUuid env data.parentId = .ok parentId ∧
        ∀ t', w.roles.insert { data with id := env.uuid n, parentId := parentId } = some t' →
          RoleTable.parentStored t' parentId = true := by
    cases hnull : data.parentId with
    | none => exact ⟨none, rfl, fun _ _ ↦ rfl⟩
    | some parentId =>
      obtain ⟨id, hparse, r, hr, hrid⟩ := hparent parentId hnull
      refine ⟨some id, by simp [nullableUuid, uuidArgument, hparse, Except.map], ?_⟩
      intro t' ht'
      apply find_isSome.mpr
      exact ⟨r, (Table.mem_insert ht').mpr (.inl hr), decide_eq_true hrid⟩
  have huuid : uuidArgument env (.str data.id) = .ok (env.uuid n) := by
    simp only [uuidArgument, hid, env.parseUuid_uuid]
  unfold RoleRow.execCreate
  rw [huuid, hnullable]
  dsimp only
  rw [← hfree parentId]
  cases hi : w.roles.insert { data with id := env.uuid n, parentId := parentId } with
  | none => exact iff_of_false (by simp) (by simp)
  | some t' =>
    dsimp only
    rw [if_pos (hstored t' hi)]
    exact iff_of_true rfl rfl

/-- A role is created exactly when the world accepts it. -/
theorem isOk_iff (dto : CreateRoleDTO) :
    ((execute dto metricsDispatch).run (exec env) w).1.isOk = true ↔ Accepts env w dto := by
  unfold execute Accepts
  rw [run_bind, run_findRoleByName]
  cases hfind : w.roles.find fun r ↦ decide (r.name = dto.name) with
  | some r =>
    obtain ⟨hr, hname⟩ := Table.find_some hfind
    apply iff_of_false
    · simp
    · exact fun h ↦ h.1 r hr (of_decide_eq_true hname)
  | none =>
    have hname : ∀ r ∈ w.roles, r.name ≠ dto.name := by
      intro r hr
      simpa using Table.find_none.mp hfind r hr
    dsimp only [Option.map_none]
    rw [run_bind]
    rcases run_checkParent env w dto with ⟨hparent, hrun⟩ | ⟨hparent, e, hrun⟩
    · rw [hrun]
      let data : RoleRow := ⟨env.uuid w.draws, dto.name, orNull dto.description,
        dto.systemRole.getD false, orNull dto.parentId⟩
      have hcreate : (data.execCreate env w.roles).1.isOk = true ↔
          ∀ r ∈ w.roles, r.id ≠ env.uuid w.draws := execCreate_isOk rfl hname hparent
      unfold ParentStored at hparent
      rw [and_iff_right hname, and_iff_right hparent, ← hcreate]
      dsimp only
      unfold createRole
      rw [run_bind, run_generateUUID]
      dsimp only
      rw [run_bind]
      unfold PrismaRoleRepository.create
      rw [run_request]
      simp only [exec, RoleOp.exec, World.rbac]
      cases (RoleRow.execCreate env w.roles _).1 <;> rfl
    · rw [hrun]
      apply iff_of_false
      · simp
      · exact fun h ↦ hparent h.2.1

end CreateRoleService

/-- A permission is created exactly when the world accepts it. -/
theorem CreatePermissionService.isOk_iff (dto : CreatePermissionDTO) :
    ((execute dto metricsDispatch).run (exec env) w).1.isOk = true ↔ Accepts env w dto := by
  unfold execute Accepts
  rw [run_bind, run_findPermissionByName]
  cases hfind : w.permissions.find fun r ↦ decide (r.name = dto.name) with
  | some r =>
    obtain ⟨hr, hname⟩ := Table.find_some hfind
    apply iff_of_false
    · simp
    · exact fun h ↦ (h r hr).1 (of_decide_eq_true hname)
  | none =>
    have hname : ∀ r ∈ w.permissions, r.name ≠ dto.name := by
      intro r hr
      simpa using Table.find_none.mp hfind r hr
    have hfree : (w.permissions.insert
        ⟨env.uuid w.draws, dto.name, dto.resource, dto.action, dto.description⟩).isSome = true ↔
          ∀ r ∈ w.permissions, r.name ≠ dto.name ∧
            ¬ (r.resource = dto.resource ∧ r.action = dto.action) ∧ r.id ≠ env.uuid w.draws := by
      rw [Table.insert_isSome]
      apply forall₂_congr
      intro r _
      simp only [PermissionRow.clash, decide_eq_false_iff_not]
      tauto
    rw [← hfree]
    dsimp only [Option.map_none]
    unfold createPermission
    rw [run_bind, run_generateUUID]
    dsimp only
    rw [run_bind]
    unfold PrismaPermissionRepository.create
    rw [run_request]
    simp only [exec, PermissionOp.exec, uuidArgument, env.parseUuid_uuid]
    cases w.permissions.insert
      ⟨env.uuid w.draws, dto.name, dto.resource, dto.action, dto.description⟩ <;> rfl

/-- A role is assigned to a stored user if the role is stored, unless the user has it already. -/
theorem upsertUserRole_isOk {userId roleName id : String} (hid : env.parseUuid userId = some id)
    (huser : ∃ u ∈ w.users, u.id = id) {r : RoleRow}
    (hrole : (w.roles.find fun r ↦ decide (r.name = roleName)) = some r) :
    ((PrismaUserRepository.assignRole userId roleName).run (exec env) w).1.isOk = true ↔
      ∃ roleId, env.parseUuid r.id = some roleId ∧
        (⟨id, roleId⟩ ∈ w.userRoles ∨ ∃ s ∈ w.roles, s.id = roleId) := by
  have hrun : (PrismaUserRepository.assignRole userId roleName).run (exec env) w =
      exec env w (.role (.upsertUserRole ⟨userId, r.id⟩)) := by
    unfold PrismaUserRepository.assignRole
    rw [run_bind, run_request]
    simp only [exec, RoleOp.exec, World.rbac, hrole]
    rfl
  have hstored : (w.users.find fun u ↦ decide (u.id = id)).isSome = true := by
    obtain ⟨u, hu, hsame⟩ := huser
    exact find_isSome.mpr ⟨u, hu, decide_eq_true hsame⟩
  rw [hrun]
  simp only [exec, RoleOp.exec, World.rbac, uuidPair_eq, hid]
  cases env.parseUuid r.id with
  | none =>
    apply iff_of_false
    · simp
    · rintro ⟨_, h, -⟩
      cases h
  | some roleId =>
    have hjoin := upsertJoin_isOk (fun r s h ↦ by simpa [UserRoleRow.clash] using h) w.userRoles
      ⟨id, roleId⟩ (w.roles.find fun r ↦ decide (r.id = roleId)).isSome
    rw [find_isSome] at hjoin
    simp only [decide_eq_true_eq] at hjoin
    simp only [hstored, Bool.true_and, Option.some.injEq, exists_eq_left']
    exact hjoin

/-- A role is assigned exactly when the world accepts it. -/
theorem AssignRoleService.isOk_iff (userId roleName : String) :
    ((execute userId roleName metricsDispatch).run (exec env) w).1.isOk = true ↔
      Accepts env w userId roleName := by
  unfold execute Accepts
  rw [run_bind, run_findUserById]
  simp only [uuidArgument]
  cases hid : env.parseUuid userId with
  | none =>
    apply iff_of_false
    · simp
    · rintro ⟨_, h, -⟩
      cases h
  | some id =>
    dsimp only
    cases huser : w.users.find fun u ↦ decide (u.id = id) with
    | none =>
      apply iff_of_false
      · simp
      · rintro ⟨_, ⟨⟩, ⟨u, hu, hsame⟩, -⟩
        simpa [hsame] using Table.find_none.mp huser u hu
    | some u =>
      dsimp only [Option.map_some]
      rw [run_bind, run_findRoleByName]
      cases hrole : w.roles.find fun r ↦ decide (r.name = roleName) with
      | none =>
        apply iff_of_false
        · simp
        · rintro ⟨_, -, -, r, hr, hname, -⟩
          simpa [hname] using Table.find_none.mp hrole r hr
      | some r =>
        obtain ⟨hr, hname⟩ := Table.find_some hrole
        obtain ⟨hu, hsame⟩ := Table.find_some huser
        have hstored : ∃ u ∈ w.users, u.id = id := ⟨u, hu, of_decide_eq_true hsame⟩
        have hassign := upsertUserRole_isOk hid hstored hrole
        dsimp only [Option.map_some]
        rw [isOk_dispatch rfl, hassign]
        constructor
        · intro h
          exact ⟨id, rfl, hstored, r, hr, of_decide_eq_true hname, h⟩
        · rintro ⟨_, ⟨⟩, -, r', hr', hname', h⟩
          have hrole' : r' = r := RoleTable.eq_of_name hr' hr
            (hname'.trans (of_decide_eq_true hname).symm)
          rwa [hrole'] at h

/-- A permission is assigned exactly when the world accepts it. -/
theorem AssignPermissionService.isOk_iff (roleId permissionId : String) :
    ((execute roleId permissionId metricsDispatch).run (exec env) w).1.isOk = true ↔
      Accepts env w roleId permissionId := by
  unfold execute Accepts
  rw [run_bind, run_findRoleById]
  simp only [uuidArgument]
  cases hid : env.parseUuid roleId with
  | none =>
    apply iff_of_false
    · simp
    · rintro ⟨_, h, -⟩
      cases h
  | some id =>
    dsimp only
    cases hrole : w.roles.find fun r ↦ decide (r.id = id) with
    | none =>
      apply iff_of_false
      · simp
      · rintro ⟨_, ⟨⟩, ⟨r, hr, hsame⟩, -⟩
        simpa [hsame] using Table.find_none.mp hrole r hr
    | some r =>
      obtain ⟨hr, hsame⟩ := Table.find_some hrole
      have hstored : ∃ r ∈ w.roles, r.id = id := ⟨r, hr, of_decide_eq_true hsame⟩
      dsimp only [Option.map_some]
      rw [isOk_dispatch rfl]
      unfold PrismaRoleRepository.assignPermission
      rw [run_request]
      simp only [exec, RoleOp.exec, World.rbac, uuidPair_eq, hid, Option.some.injEq,
        exists_eq_left', and_iff_right hstored]
      cases env.parseUuid permissionId with
      | none =>
        apply iff_of_false
        · simp
        · rintro ⟨_, h, -⟩
          cases h
      | some permission =>
        have hjoin := upsertJoin_isOk (fun r s h ↦ by simpa [RolePermissionRow.clash] using h)
          w.rolePermissions ⟨id, permission⟩
          (w.permissions.find fun p ↦ decide (p.id = permission)).isSome
        rw [find_isSome] at hjoin
        simp only [decide_eq_true_eq] at hjoin
        simp only [hrole, Option.isSome_some, Bool.true_and, Option.some.injEq, exists_eq_left']
        exact hjoin

/-- A guard answers 403 exactly when it denies. -/
theorem Guard.forbidden_iff (guard : RequireAuth) (req : HttpRequest) :
    ((guard.guard.handle env metricsDispatch req).run (exec env) w).1 = .ok .forbidden ↔
      guard.guard.Denies env w req := by
  unfold handle Denies
  rw [run_tryCatch]
  cases htoken : guard.guard.token req with
  | none =>
    apply iff_of_false
    · simp
    · rintro ⟨_, h, -⟩
      cases h
  | some token =>
    dsimp only
    rw [run_bind]
    have hverify : (JwtTokenService.verifyAccessToken env token).run (exec env) w =
        (JwtTokenService.verifyAt env token w.now, w) := rfl
    rw [hverify]
    cases hclaims : JwtTokenService.verifyAt env token w.now with
    | error e =>
      apply iff_of_false
      · simp
      · rintro ⟨_, ⟨⟩, _, h, -⟩
        rw [hclaims] at h
        cases h
    | ok claims =>
      dsimp only
      cases hpolicy : guard.guard.policy claims with
      | error e =>
        apply iff_of_false
        · simp
        · rintro ⟨_, ⟨⟩, _, h, hdenied⟩
          rw [hclaims] at h
          cases h
          rw [hpolicy] at hdenied
          cases hdenied
      | ok granted =>
        cases granted with
        | true =>
          apply iff_of_false
          · simp
          · rintro ⟨_, ⟨⟩, _, h, hdenied⟩
            rw [hclaims] at h
            cases h
            rw [hpolicy] at hdenied
            cases hdenied
        | false =>
          apply iff_of_true
          · simp [metricsDispatch_denied]
          · exact ⟨token, rfl, claims, hclaims, hpolicy⟩

/-- A call of a service is to be counted when the service succeeds. -/
theorem counted_service {α : Type} {p : Program α} {f : α → RbacReply}
    (hf : ∀ a, counted (.ok (f a)) = true) :
    counted ((p >>= fun a ↦ (pure (f a) : Program RbacReply)).run (exec env) w).1 =
      (p.run (exec env) w).1.isOk := by
  rw [run_bind]
  rcases p.run (exec env) w with ⟨_ | a, w'⟩
  · rfl
  · exact hf a

/-- A call is to be counted exactly when it succeeds, or is denied. -/
theorem RbacCall.counted_iff (c : RbacCall) :
    counted ((c.program env).run (exec env) w).1 = true ↔ c.Succeeds env w := by
  cases c with
  | createRole dto =>
    unfold program
    rw [counted_service fun _ ↦ rfl]
    exact CreateRoleService.isOk_iff dto
  | createPermission dto =>
    unfold program
    rw [counted_service fun _ ↦ rfl]
    exact CreatePermissionService.isOk_iff dto
  | assignRole userId roleName =>
    unfold program
    rw [counted_service fun _ ↦ rfl]
    exact AssignRoleService.isOk_iff userId roleName
  | assignPermission roleId permissionId =>
    unfold program
    rw [counted_service fun _ ↦ rfl]
    exact AssignPermissionService.isOk_iff roleId permissionId
  | guarded guard req =>
    dsimp only [Succeeds, program]
    rw [← Guard.forbidden_iff, run_bind]
    rcases (guard.guard.handle env metricsDispatch req).run (exec env) w with ⟨_ | v, w'⟩
    · exact iff_of_false (by simp [counted]) (by simp)
    · cases v with
      | forbidden => exact iff_of_true rfl rfl
      | unauthorized => exact iff_of_false (by simp [counted]) (by simp)
      | next user => exact iff_of_false (by simp [counted]) (by simp)

/-- Only a call in the area of the metrics changes the counters. -/
theorem exec_counters (env : Env) (w : World) {op : Op} (h : op.area ≠ some .metrics) :
    (exec env w op).2.counters = w.counters := by
  cases op with
  | counter c => exact absurd rfl h
  | jwtSign c =>
    simp only [exec]
    split <;> rfl
  | _ => rfl

/-- No call that is to be counted makes a call of the metrics. -/
theorem RbacCall.program_uses (c : RbacCall) :
    (c.program env).Uses fun op : Op ↦ op.area ≠ some .metrics := by
  have hwithin : ∀ {α : Type} {p : Program α} {areas : List Area}, Area.metrics ∉ areas →
      p.Uses (Op.within areas) → p.Uses fun op : Op ↦ op.area ≠ some .metrics := by
    intro α p areas hareas hp
    apply hp.mono
    intro op hop harea
    exact hareas (hop _ harea)
  cases c with
  | createRole dto =>
    exact uses_bind (hwithin (by simp) (CreateRoleService.execute_uses dto)) fun _ ↦ trivial
  | createPermission dto =>
    exact uses_bind (hwithin (by simp) (CreatePermissionService.execute_uses dto)) fun _ ↦ trivial
  | assignRole userId roleName =>
    exact uses_bind (hwithin (by simp) (AssignRoleService.execute_uses ..)) fun _ ↦ trivial
  | assignPermission roleId permissionId =>
    exact uses_bind (hwithin (by simp) (AssignPermissionService.execute_uses ..)) fun _ ↦ trivial
  | guarded guard req =>
    refine uses_bind (uses_tryCatch ?_ fun _ ↦ trivial) fun _ ↦ trivial
    split
    · exact trivial
    · apply uses_bind (uses_bind (uses_perform (by simp [Op.area])) fun _ ↦ uses_done _ _)
      intro claims
      apply uses_bind (uses_done _ _)
      intro granted
      split
      · exact trivial
      · rw [metricsDispatch_denied]
        exact trivial

end Alone

/-! ### Sequences -/

/-- The counters never move. -/
theorem runAll_counters (env : Env) (w : World) (calls : List (Nat × RbacCall)) :
    (runAll (exec env) World.pass (RbacCall.program env) w calls).counters = w.counters := by
  apply runAll_keeps (J := fun v : World ↦ v.counters = w.counters)
  · exact fun _ _ h ↦ h
  · intro v c hv
    apply (RbacCall.program_uses c).run_keeps (J := fun v : World ↦ v.counters = w.counters) _ v hv
    intro v' op hop hv'
    rw [exec_counters env v' hop, hv']
  · rfl

/-- The counters agree with what succeeds and what is denied exactly when no call succeeds and no
request is denied. -/
theorem countersAgree_iff (env : Env) (w : World) (calls : List (Nat × RbacCall)) :
    CountersAgree env w calls ↔
      ∀ v c, (v, c) ∈ visits (exec env) World.pass (RbacCall.program env) w calls →
        ¬ c.Succeeds env v := by
  unfold CountersAgree
  rw [runAll_counters]
  constructor
  · intro hagree v c hvisit hsucceeds
    have hnone : timesCounted env w calls c.counter = 0 := by
      have h := hagree c.counter
      omega
    apply List.countP_eq_zero.mp hnone (v, c) hvisit
    simp [(RbacCall.counted_iff c).mpr hsucceeds]
  · intro hfails k
    have hnone : timesCounted env w calls k = 0 := by
      apply List.countP_eq_zero.mpr
      rintro ⟨v, c⟩ hvisit hcounted
      rw [Bool.and_eq_true] at hcounted
      exact hfails v c hvisit ((RbacCall.counted_iff c).mp hcounted.2)
    rw [hnone]
    rfl

/-- A role that is created is not counted. -/
theorem role_created_not_counted :
    ¬ CountersAgree Sample.env {} [(0, .createRole ⟨"teller", none, none, none⟩)] := by
  intro h
  have hone : timesCounted Sample.env {} [(0, .createRole ⟨"teller", none, none, none⟩)]
      .rolesCreatedTotal = 1 := by decide +kernel
  have hcounter := h .rolesCreatedTotal
  rw [runAll_counters, hone] at hcounter
  cases hcounter

end Bankos
