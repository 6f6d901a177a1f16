import Bankos.Rbac.Calls

/-!
# Removals that are reported

`RemovePermissionService` and `RemoveRoleService` over a database any of whose calls may fail. The
repositories mean to ignore that there is nothing to delete, and ignore every error of the
deletion.
-/

namespace Bankos

open Js Jwt Effects Storage Prog

/-! ### What a service hands to its dispatcher -/

section Dispatches

variable {W : Type} {handler : Handler Api JsError W}
  {service : IDomainEventDispatcher → Program Unit} {s s' s'' : W}
  {events events' : List DomainEvent}

/-- From `s` the service comes to its dispatcher, with these events, in `s'`: whatever the
dispatcher is, the run goes on as its own. -/
def Dispatches (handler : Handler Api JsError W) (service : IDomainEventDispatcher → Program Unit)
    (s : W) (events : List DomainEvent) (s' : W) : Prop :=
  ∀ dispatcher, (service dispatcher).run handler s = (dispatcher events).run handler s'

/-- There is one moment and one list of events. -/
theorem Dispatches.unique (h : Dispatches handler service s events s')
    (h' : Dispatches handler service s events' s'') : events = events' ∧ s' = s'' := by
  -- a dispatcher whose error tells the events
  have hrun := (h fun es ↦ throw (.error (if es = events then "" else "other"))).symm.trans (h' _)
  simp only [throw_eq, run_done, if_true, Prod.mk.injEq, Except.error.injEq, JsError.error.injEq]
    at hrun
  obtain ⟨htext, hs⟩ := hrun
  refine ⟨?_, hs⟩
  by_contra hne
  rw [if_neg (Ne.symm hne)] at htext
  exact absurd htext (by decide)

/-- A service that ends in the same way with every dispatcher has not come to it. -/
theorem not_dispatches_of_const {r : Except JsError Unit × W}
    (h : ∀ dispatcher, (service dispatcher).run handler s = r) :
    ¬ Dispatches handler service s events s' := by
  intro hd
  have hok := (h fun _ ↦ pure ()).symm.trans (hd _)
  have herror := (h fun _ ↦ throw (.error "")).symm.trans (hd _)
  rw [hok] at herror
  simp at herror

end Dispatches

/-- The promise of a removal: when it returns the grant is gone, and it is gone when an event that
says so is dispatched. -/
structure Honest (env : Env) (service : IDomainEventDispatcher → Program Unit)
    (grant : World → Prop) (event : EventClass) (w : World)
    (faults : Nat → Option (Fault JsError)) : Prop where
  returned : ((service rbacDispatch).run (faulting (exec env)) (w, faults)).1 = .ok () →
    ¬ grant ((service rbacDispatch).run (faulting (exec env)) (w, faults)).2.1
  dispatched : ∀ events s', Dispatches (faulting (exec env)) service (w, faults) events s' →
    (∃ e ∈ events, e.detail = event) → ¬ grant s'.1

section Honest

variable {env : Env} {service : IDomainEventDispatcher → Program Unit} {grant : World → Prop}
  {event : EventClass} {w : World} {faults : Nat → Option (Fault JsError)}

/-- A service that comes to its dispatcher with the event keeps the promise if and only if the
grant is gone by then. -/
theorem honest_of_dispatches {s : World × (Nat → Option (Fault JsError))}
    (h : Dispatches (faulting (exec env)) service (w, faults) [{ detail := event }] s) :
    Honest env service grant event w faults ↔ ¬ grant s.1 := by
  have hrun : (service rbacDispatch).run (faulting (exec env)) (w, faults) = (.ok (), s) := h _
  constructor
  · intro hhonest
    exact hhonest.dispatched _ _ h ⟨_, List.mem_singleton.mpr rfl, rfl⟩
  · intro hgone
    constructor
    · intro _
      rw [hrun]
      exact hgone
    · intro events s' h' _
      rw [← (h.unique h').2]
      exact hgone

/-- A service that throws has promised nothing. -/
theorem honest_of_error {e : JsError} {s : World × (Nat → Option (Fault JsError))}
    (h : ∀ dispatcher, (service dispatcher).run (faulting (exec env)) (w, faults) =
      (.error e, s)) : Honest env service grant event w faults := by
  constructor
  · intro hreturned
    rw [h] at hreturned
    cases hreturned
  · exact fun events s' hd ↦ absurd hd (not_dispatches_of_const h)

/-- A service that returns without an event keeps the promise if there is no grant. -/
theorem honest_of_silent {s : World × (Nat → Option (Fault JsError))}
    (h : ∀ dispatcher, (service dispatcher).run (faulting (exec env)) (w, faults) = (.ok (), s))
    (hgone : ¬ grant s.1) : Honest env service grant event w faults := by
  constructor
  · intro _
    rw [h]
    exact hgone
  · exact fun events s' hd ↦ absurd hd (not_dispatches_of_const h)

end Honest

/-! ### Deletions -/

/-- A deletion whose errors are ignored returns. -/
theorem run_ignoring {W : Type} (handler : Handler Api JsError W) (p : Program Unit) (s : W) :
    (MonadExcept.tryCatch p fun _ ↦ pure () : Program Unit).run handler s =
      (.ok (), (p.run handler s).2) := by
  rw [run_tryCatch]
  rcases p.run handler s with ⟨_ | _, s'⟩
  · rfl
  · rfl

/-- A row that was to be deleted is not there afterwards. -/
theorem not_mem_deleteJoin {Row : Type} [DecidableEq Row] {clash : Row → Row → Bool}
    (t : Table Row clash) (row : Row) : row ∉ (deleteJoin t row).2 := by
  unfold deleteJoin
  split
  · intro h
    simpa using (Table.mem_keep.mp h).2
  · next h => exact h

/-- The role has the permission: the row that the database looks for under the two ids is there. -/
def HasPermission (env : Env) (roleId permissionId : String) (w : World) : Prop :=
  ∃ r p, uuidPair env roleId permissionId = .ok (r, p) ∧
    (⟨r, p⟩ : RolePermissionRow) ∈ w.rolePermissions

/-- The user has a role of that name. -/
def HasRole (env : Env) (userId roleName : String) (w : World) : Prop :=
  ∃ role ∈ w.roles, role.name = roleName ∧ ∃ u r, uuidPair env userId role.id = .ok (u, r) ∧
    (⟨u, r⟩ : UserRoleRow) ∈ w.userRoles

/-- The permission is gone after the deletion. -/
theorem not_hasPermission_of_delete (env : Env) (w : World) (roleId permissionId : String) :
    ¬ HasPermission env roleId permissionId
      (exec env w (.role (.deleteRolePermission ⟨roleId, permissionId⟩))).2 := by
  rintro ⟨r, p, hpair, hmem⟩
  simp only [exec, RoleOp.exec, hpair, World.rbac] at hmem
  exact not_mem_deleteJoin _ _ hmem

/-- The role is gone after the deletion from the user. -/
theorem not_hasRole_of_delete (env : Env) {w : World} {role : RoleRow} (hrole : role ∈ w.roles)
    (userId : String) : ¬ HasRole env userId role.name
      (exec env w (.role (.deleteUserRole ⟨userId, role.id⟩))).2 := by
  rintro ⟨role', hrole', hname, u, r, hpair, hmem⟩
  have hroles : (exec env w (.role (.deleteUserRole ⟨userId, role.id⟩))).2.roles = w.roles := by
    simp only [exec, RoleOp.exec]
    split
    · rfl
    · rfl
  rw [hroles] at hrole'
  rw [RoleTable.eq_of_name hrole' hrole hname] at hpair
  simp only [exec, RoleOp.exec, hpair, World.rbac] at hmem
  exact not_mem_deleteJoin _ _ hmem

/-! ### The two services -/

section Services

variable {env : Env} {w : World} {faults : Nat → Option (Fault JsError)}

/-- A deletion leaves the grant if and only if it was there and the call was refused. -/
theorem grant_faulting_iff {grant : World → Prop} {op : Op}
    (hgone : ¬ grant (exec env w op).2) :
    grant (faulting (exec env) (w, faults) op).2.1 ↔
      grant w ∧ ∃ e, faults 0 = some (.refused e) := by
  cases hfault : faults 0 with
  | none =>
    rw [faulting_none hfault]
    simpa using hgone
  | some fault =>
    cases fault with
    | refused e =>
      rw [faulting_refused hfault]
      simp
    | lost e =>
      rw [faulting_lost hfault]
      simpa using hgone

/-- `RemovePermissionService` always comes to its dispatcher, after the deletion. -/
theorem RemovePermissionService.dispatches (roleId permissionId : String) :
    Dispatches (faulting (exec env)) (execute roleId permissionId ·) (w, faults)
      [{ detail := .permissionRemoved roleId permissionId }]
      (faulting (exec env) (w, faults)
        (.role (.deleteRolePermission ⟨roleId, permissionId⟩))).2 := by
  intro dispatcher
  show (execute roleId permissionId dispatcher).run _ _ = _
  unfold execute PrismaRoleRepository.removePermission
  rw [run_bind, run_ignoring]
  rfl

/-- The removal of a permission is honest if and only if there was no grant or its deletion was not
refused. -/
theorem RemovePermissionService.honest_iff (roleId permissionId : String) :
    Honest env (execute roleId permissionId ·) (HasPermission env roleId permissionId)
        (.permissionRemoved roleId permissionId) w faults ↔
      ¬ (HasPermission env roleId permissionId w ∧ ∃ e, faults 0 = some (.refused e)) := by
  rw [honest_of_dispatches (dispatches roleId permissionId),
    grant_faulting_iff (not_hasPermission_of_delete env w roleId permissionId)]

/-- A lookup by name that fails ends the program. -/
theorem run_lookup_failed (env : Env) (w : World) (faults : Nat → Option (Fault JsError))
    {fault : Fault JsError} (h : faults 0 = some fault) (name : String) :
    ∃ e, ∀ k : Option RoleRow → Program Unit,
      (request (.role (.findUniqueByName name)) >>= k).run (faulting (exec env)) (w, faults) =
        (.error e, w, fun n ↦ faults (n + 1)) := by
  cases fault with
  | refused e =>
    refine ⟨e, fun k ↦ ?_⟩
    rw [run_bind, run_perform, faulting_refused h]
  | lost e =>
    refine ⟨e, fun k ↦ ?_⟩
    rw [run_bind, run_perform, faulting_lost h]
    rfl

/-- A lookup by name that is answered. -/
theorem run_lookup (faults : Nat → Option (Fault JsError)) (h : faults 0 = none) (name : String)
    (k : Option RoleRow → Program Unit) :
    (request (.role (.findUniqueByName name)) >>= k).run (faulting (exec env)) (w, faults) =
      (k (w.roles.find fun r ↦ decide (r.name = name))).run (faulting (exec env))
        (w, fun n ↦ faults (n + 1)) := by
  rw [run_bind, run_perform, faulting_none h]
  rfl

/-- `RemoveRoleService` looks the role up, and has it removed if it is there. -/
theorem RemoveRoleService.execute_eq (userId roleName : String)
    (dispatcher : IDomainEventDispatcher) :
    execute userId roleName dispatcher =
      request (.role (.findUniqueByName roleName)) >>= fun record ↦
        match record with
        | none => pure ()
        | some _ => PrismaUserRepository.removeRole userId roleName >>= fun _ ↦
          dispatcher [{ detail := .roleRemovedFromUser userId roleName }] := by
  refine congrArg (Prog.call _) (funext fun reply ↦ ?_)
  cases reply with
  | error e => rfl
  | ok record =>
    cases record with
    | none => rfl
    | some role => rfl

/-- A role that was found by its name is stored and has the name. -/
theorem mem_of_findRoleByName {roleName : String} {role : RoleRow}
    (h : (w.roles.find fun r ↦ decide (r.name = roleName)) = some role) :
    role ∈ w.roles ∧ role.name = roleName := by
  obtain ⟨hrole, hname⟩ := Table.find_some h
  exact ⟨hrole, by simpa using hname⟩

/-- The removal of a role is honest if and only if the user did not have it, or a lookup failed, or
the deletion was not refused. -/
theorem RemoveRoleService.honest_iff (userId roleName : String) :
    Honest env (execute userId roleName ·) (HasRole env userId roleName)
        (.roleRemovedFromUser userId roleName) w faults ↔
      ¬ (HasRole env userId roleName w ∧ faults 0 = none ∧ faults 1 = none ∧
        ∃ e, faults 2 = some (.refused e)) := by
  cases hfirst : faults 0 with
  | some fault =>
    obtain ⟨e, hrun⟩ := run_lookup_failed env w faults hfirst roleName
    simp only [reduceCtorEq, false_and, and_false, not_false_eq_true, iff_true]
    exact honest_of_error fun dispatcher ↦ by rw [execute_eq, hrun]
  | none =>
    cases hfind : w.roles.find fun r ↦ decide (r.name = roleName) with
    | none =>
      have hno : ¬ HasRole env userId roleName w := by
        rintro ⟨role, hrole, hname, -⟩
        simpa [hname] using Table.find_none.mp hfind role hrole
      simp only [hno, false_and, not_false_eq_true, iff_true]
      apply honest_of_silent (s := (w, fun n ↦ faults (n + 1))) _ hno
      intro dispatcher
      rw [execute_eq, run_lookup faults hfirst, hfind]
      rfl
    | some role =>
      obtain ⟨hrole, rfl⟩ := mem_of_findRoleByName hfind
      cases hsecond : faults 1 with
      | some fault =>
        obtain ⟨e, hrun⟩ := run_lookup_failed env w (fun n ↦ faults (n + 1)) hsecond role.name
        simp only [reduceCtorEq, false_and, and_false, not_false_eq_true, iff_true]
        apply honest_of_error (e := e) (s := (w, fun n ↦ faults (n + 2)))
        intro dispatcher
        rw [execute_eq, run_lookup faults hfirst, hfind]
        show (PrismaUserRepository.removeRole userId role.name >>= _).run _ _ = _
        rw [run_bind]
        unfold PrismaUserRepository.removeRole
        rw [hrun]
      | none =>
        have hdispatches : Dispatches (faulting (exec env)) (execute userId role.name ·) (w, faults)
            [{ detail := .roleRemovedFromUser userId role.name }]
            (faulting (exec env) (w, fun n ↦ faults (n + 2))
              (.role (.deleteUserRole ⟨userId, role.id⟩))).2 := by
          intro dispatcher
          show (execute userId role.name dispatcher).run _ _ = _
          rw [execute_eq, run_lookup faults hfirst, hfind]
          show (PrismaUserRepository.removeRole userId role.name >>= _).run _ _ = _
          rw [run_bind]
          unfold PrismaUserRepository.removeRole
          rw [run_lookup (fun n ↦ faults (n + 1)) hsecond, hfind]
          dsimp only
          rw [run_ignoring]
          rfl
        rw [honest_of_dispatches hdispatches,
          grant_faulting_iff (not_hasRole_of_delete env hrole userId)]
        simp

end Services

/-- A removal of a permission keeps its promise if and only if the role did not have the permission
or the database did not refuse its deletion; a removal of a role if and only if the user did not
have the role, a lookup failed, or the database did not refuse its deletion. -/
theorem removals_honest_iff (env : Env) (w : World) (faults : Nat → Option (Fault JsError))
    (roleId permissionId userId roleName : String) :
    (Honest env (RemovePermissionService.execute roleId permissionId ·)
        (HasPermission env roleId permissionId) (.permissionRemoved roleId permissionId) w faults ↔
      ¬ (HasPermission env roleId permissionId w ∧ ∃ e, faults 0 = some (.refused e))) ∧
    (Honest env (RemoveRoleService.execute userId roleName ·) (HasRole env userId roleName)
        (.roleRemovedFromUser userId roleName) w faults ↔
      ¬ (HasRole env userId roleName w ∧ faults 0 = none ∧ faults 1 = none ∧
        ∃ e, faults 2 = some (.refused e))) :=
  ⟨RemovePermissionService.honest_iff roleId permissionId,
    RemoveRoleService.honest_iff userId roleName⟩

/-! ### A deletion that the database refuses -/

namespace Sample

/-- A role with one permission. -/
def granted : World where
  rolePermissions := .single ⟨"auditor", "ledger:read"⟩

/-- The first call runs into a write conflict. -/
def writeConflict : Nat → Option (Fault JsError)
  | 0 => some (.refused (.prismaError "P2034"))
  | _ => none

end Sample

/-- A write conflict is taken for a missing row: the removal returns and is reported, and the role
keeps the permission. -/
theorem removals_not_honest :
    ¬ ∀ (env : Env) (w : World) (faults : Nat → Option (Fault JsError))
        (roleId permissionId userId roleName : String),
      Honest env (RemovePermissionService.execute roleId permissionId ·)
          (HasPermission env roleId permissionId) (.permissionRemoved roleId permissionId) w
          faults ∧
        Honest env (RemoveRoleService.execute userId roleName ·) (HasRole env userId roleName)
          (.roleRemovedFromUser userId roleName) w faults := by
  intro h
  have hhonest := (h Sample.env Sample.granted Sample.writeConflict "auditor" "ledger:read" "" "").1
  rw [RemovePermissionService.honest_iff] at hhonest
  exact hhonest ⟨⟨"auditor", "ledger:read", rfl, List.mem_singleton.mpr rfl⟩, _, rfl⟩

end Bankos
