import Bankos.Base.Walk
import Bankos.Rbac.Calls

/-!
# The role hierarchy

No check keeps the parent links of the stored roles free of cycles. The order of the draws does: a
role is created under an identifier that is drawn after its parent was found.
-/

namespace Bankos

open Js Jwt Effects Storage Prog Walks

/-- The table has the role `s` as the parent of its role `r`. -/
def RoleRow.ParentIn (t : RoleTable) (r s : RoleRow) : Prop :=
  r ∈ t ∧ s ∈ t ∧ r.parentId = some s.id

/-- The parent of a role in the table. -/
def RoleTable.parent (t : RoleTable) (r : RoleRow) : Option RoleRow :=
  r.parentId.bind fun parentId ↦ t.find fun s ↦ decide (s.id = parentId)

/-- The ids of the roles were drawn, and a role has a stored parent whose id was drawn before its
own, or none. -/
structure RoleTable.Rooted (env : Env) (draws : Nat) (t : RoleTable) : Prop where
  drawn : ∀ r ∈ t, ∃ n < draws, r.id = env.uuid n
  stored : ∀ r ∈ t, ∀ p, r.parentId = some p → ∃ s ∈ t, s.id = p
  earlier : ∀ r ∈ t, ∀ p, r.parentId = some p →
    ∃ m n, m < n ∧ p = env.uuid m ∧ r.id = env.uuid n

namespace RoleTable.Rooted

variable {env : Env} {draws draws' : Nat} {t t' : RoleTable}

/-- The empty table. -/
theorem empty (env : Env) (draws : Nat) : RoleTable.Rooted env draws .empty where
  drawn _ hr := absurd hr List.not_mem_nil
  stored _ hr := absurd hr List.not_mem_nil
  earlier _ hr := absurd hr List.not_mem_nil

/-- More identifiers are drawn. -/
theorem mono (h : Rooted env draws t) (hd : draws ≤ draws') : Rooted env draws' t where
  drawn r hr := by
    obtain ⟨n, hn, he⟩ := h.drawn r hr
    exact ⟨n, Nat.lt_of_lt_of_le hn hd, he⟩
  stored := h.stored
  earlier := h.earlier

/-- A role is added under an identifier that is younger than that of its parent. -/
theorem insert (h : Rooted env draws t) {row : RoleRow} (hi : t.insert row = some t')
    (hdrawn : ∃ n < draws, row.id = env.uuid n)
    (hstored : ∀ p, row.parentId = some p → ∃ s ∈ t', s.id = p)
    (hearlier : ∀ p, row.parentId = some p →
      ∃ m n, m < n ∧ p = env.uuid m ∧ row.id = env.uuid n) : Rooted env draws t' := by
  constructor
  · intro r hr
    rcases (Table.mem_insert hi).mp hr with hr | rfl
    · exact h.drawn r hr
    · exact hdrawn
  · intro r hr p hp
    rcases (Table.mem_insert hi).mp hr with hr | rfl
    · obtain ⟨s, hs, he⟩ := h.stored r hr p hp
      exact ⟨s, (Table.mem_insert hi).mpr (.inl hs), he⟩
    · exact hstored p hp
  · intro r hr p hp
    rcases (Table.mem_insert hi).mp hr with hr | rfl
    · exact h.earlier r hr p hp
    · exact hearlier p hp

/-- A role is deleted, and its children lose their parent. -/
theorem delete (h : Rooted env draws t) (id : String) :
    Rooted env draws ((t.keep fun r ↦ decide (r.id ≠ id)).map (RoleRow.orphan id)
      (RoleRow.clash_orphan id)) := by
  constructor
  · intro r' hr'
    obtain ⟨r, hr, -, rfl⟩ := mem_delete.mp hr'
    rw [(RoleRow.orphan_keys id r).1]
    exact h.drawn r hr
  · intro r' hr' p hp
    obtain ⟨r, hr, -, rfl⟩ := mem_delete.mp hr'
    obtain ⟨hp, hne⟩ := RoleRow.parentId_orphan hp
    obtain ⟨s, hs, rfl⟩ := h.stored r hr p hp
    exact ⟨s.orphan id, mem_delete.mpr ⟨s, hs, hne, rfl⟩, (RoleRow.orphan_keys id s).1⟩
  · intro r' hr' p hp
    obtain ⟨r, hr, -, rfl⟩ := mem_delete.mp hr'
    rw [(RoleRow.orphan_keys id r).1]
    exact h.earlier r hr p (RoleRow.parentId_orphan hp).1

end RoleTable.Rooted

/-! ### What creating a role does -/

/-- What one activity has found and drawn: the id of the parent it has looked up, before it drew
the identifier of its own role. -/
structure RoleDraft where
  found : Option String := none
  drawn : Option String := none

/-- The draft after the reply to a call. -/
def RoleDraft.next (s : RoleDraft) : (op : Op) → Except JsError op.Reply → RoleDraft
  | .role (.findUniqueById id), .ok (some _) =>
    if s.drawn = none then { s with found := some id } else s
  | .system .randomUUID, .ok id => { s with drawn := some id }
  | _, _ => s

/-- A role is created under the identifier that was drawn last, and below no role or the one that
was found before that. -/
def RoleDraft.allows (s : RoleDraft) : Op → Prop
  | .role (.create data) => s.drawn = some data.id ∧ ∀ p, data.parentId = some p → s.found = some p
  | _ => True

/-- The discipline of role creation. -/
abbrev roleCreation : Protocol Api JsError where
  Phase := RoleDraft
  allows := RoleDraft.allows
  next := RoleDraft.next

/-- The check of the parent finds it. -/
theorem CreateRoleService.checkParent_drafts (dto : CreateRoleDTO) :
    Ensures roleCreation {} (checkParent dto) fun s _ ↦
      ∀ p, orNull dto.parentId = some p → s.found = some p := by
  unfold checkParent
  split
  · next hnone =>
    apply ensures_pure
    intro p hp
    rw [hnone] at hp
    cases hp
  · next parentId hsome =>
    apply Ensures.seq (Q := fun (s : RoleDraft) parent ↦ parent ≠ none → s.found = some parentId)
    · apply Ensures.bind
      apply ensures_perform trivial
      intro record
      apply ensures_pure
      cases record with
      | none => exact fun h ↦ absurd rfl h
      | some r => exact fun _ ↦ rfl
    · intro s parent hfound
      cases parent with
      | none => exact ensures_throw
      | some parent =>
        apply ensures_pure
        intro p hp
        rw [hsome, Option.some.injEq] at hp
        rw [← hp]
        exact hfound (by simp)

/-- The role is created below the parent that was found. -/
theorem CreateRoleService.createRole_drafts (dto : CreateRoleDTO) {s : RoleDraft}
    (hfound : ∀ p, orNull dto.parentId = some p → s.found = some p) :
    Ensures roleCreation s (createRole dto) fun _ _ ↦ True := by
  unfold createRole
  apply Ensures.seq (Q := fun (s' : RoleDraft) id ↦ s'.drawn = some id ∧ s'.found = s.found)
  · apply ensures_perform trivial
    intro id
    exact ⟨rfl, rfl⟩
  · rintro s' id ⟨hdrawn, hsame⟩
    apply Ensures.seq (Q := fun _ _ ↦ True)
    · apply ensures_perform
      · refine ⟨hdrawn, ?_⟩
        intro p hp
        rw [hsame]
        exact hfound p hp
      · intro _
        trivial
    · intro s'' _ _
      apply Ensures.seq (Q := fun _ _ ↦ True)
      · exact (rbacDispatch_uses _ fun _ ↦ False).ensures (fun _ ↦ True)
          (fun _ _ _ h ↦ h.elim) trivial
      · intro _ _ _
        exact ensures_pure trivial

/-- Creating a role keeps to the discipline. -/
theorem CreateRoleService.execute_drafts (dto : CreateRoleDTO) :
    Ensures roleCreation {} (execute dto) fun _ _ ↦ True := by
  unfold execute
  apply Ensures.seq (Q := fun (s : RoleDraft) _ ↦ s = {})
  · apply Ensures.bind
    apply ensures_perform trivial
    intro record
    exact ensures_pure rfl
  · rintro s existingRole rfl
    cases existingRole with
    | some _ => exact ensures_throw
    | none =>
      apply Ensures.seq (checkParent_drafts dto)
      intro s _ hfound
      exact createRole_drafts dto hfound

/-- A program that creates no role keeps to the discipline. -/
theorem drafts_of_uses {α : Type} {p : Program α} {areas : List Area}
    (hp : p.Uses (Op.within areas)) (hcreate : .roleCreate ∉ areas) (s : RoleDraft) :
    Ensures roleCreation s p fun _ _ ↦ True := by
  apply hp.ensures (fun _ ↦ True)
  · intro s op _ hop
    constructor
    · cases op with
      | role o =>
        cases o with
        | create data => exact absurd (hop _ rfl) hcreate
        | _ => trivial
      | _ => trivial
    · intro _
      trivial
  · trivial

/-- Every activity keeps to the discipline. -/
theorem Activity.run_drafts {users : IUserRepository} (hu : users.Proper) (env : Env)
    (a : Activity) : Ensures roleCreation {} (a.run env users) fun _ _ ↦ True := by
  cases a with
  | edit e =>
    cases e with
    | createRole dto =>
      apply Ensures.seq (CreateRoleService.execute_drafts dto)
      intro s id _
      exact ensures_pure trivial
    | deleteRole id =>
      exact drafts_of_uses (RbacEdit.run_uses (.deleteRole id)) (by simp [RbacEdit.areas]) _
    | assignRole userId roleName =>
      exact drafts_of_uses (RbacEdit.run_uses (.assignRole userId roleName))
        (by simp [RbacEdit.areas]) _
    | removeRole userId roleName =>
      exact drafts_of_uses (RbacEdit.run_uses (.removeRole userId roleName))
        (by simp [RbacEdit.areas]) _
    | assignPermission roleId permissionId =>
      exact drafts_of_uses (RbacEdit.run_uses (.assignPermission roleId permissionId))
        (by simp [RbacEdit.areas]) _
    | removePermission roleId permissionId =>
      exact drafts_of_uses (RbacEdit.run_uses (.removePermission roleId permissionId))
        (by simp [RbacEdit.areas]) _
  | request r =>
    apply drafts_of_uses (Activity.run_uses hu env (.request r))
    cases r <;> simp [areas, Request.areas]
  | register r => exact drafts_of_uses (Activity.run_uses hu env (.register r)) (by simp [areas]) _

/-! ### One call -/

/-- What was found and drawn is drawn by now, and the parent was drawn before the new identifier. -/
structure RoleDraft.Fits (env : Env) (draws : Nat) (s : RoleDraft) : Prop where
  found : ∀ p, s.found = some p → ∃ m < draws, env.parseUuid p = some (env.uuid m)
  drawn : ∀ id, s.drawn = some id → ∃ n < draws, id = env.uuid n ∧
    ∀ p, s.found = some p → ∃ m < n, env.parseUuid p = some (env.uuid m)

/-- More identifiers are drawn. -/
theorem RoleDraft.Fits.mono {env : Env} {draws draws' : Nat} {s : RoleDraft}
    (h : s.Fits env draws) (hd : draws ≤ draws') : s.Fits env draws' where
  found p hp := by
    obtain ⟨m, hm, he⟩ := h.found p hp
    exact ⟨m, Nat.lt_of_lt_of_le hm hd, he⟩
  drawn id hid := by
    obtain ⟨n, hn, he⟩ := h.drawn id hid
    exact ⟨n, Nat.lt_of_lt_of_le hn hd, he⟩

section Step

variable {env : Env} {w : World} {s : RoleDraft} {op : Op}

/-- The activity that makes the call keeps a fitting draft. -/
theorem RoleDraft.Fits.exec (h : s.Fits env w.draws) (hw : w.roles.Rooted env w.draws) (op : Op) :
    (s.next op (Bankos.exec env w op).1).Fits env (Bankos.exec env w op).2.draws := by
  have hmono : s.Fits env (Bankos.exec env w op).2.draws := h.mono (exec_draws_le env w op)
  cases op with
  | role o =>
    cases o with
    | findUniqueById id =>
      cases he : (Bankos.exec env w (.role (.findUniqueById id))).1 with
      | error e => exact hmono
      | ok found =>
        cases found with
        | none => exact hmono
        | some r =>
          unfold RoleDraft.next
          dsimp only
          split
          · next hdrawn =>
            constructor
            · rintro p ⟨rfl⟩
              obtain ⟨hr, hparse⟩ := mem_of_findRoleById he
              obtain ⟨m, hm, hid⟩ := hw.drawn r hr
              rw [hid] at hparse
              exact ⟨m, hm, hparse⟩
            · intro id' hid'
              rw [hdrawn] at hid'
              cases hid'
          · exact hmono
    | _ => exact hmono
  | system o =>
    cases o with
    | randomUUID =>
      constructor
      · exact hmono.found
      · rintro id ⟨rfl⟩
        exact ⟨w.draws, Nat.lt_succ_self _, rfl, h.found⟩
    | _ => exact hmono
  | _ => exact hmono

/-- A creation that keeps to the discipline keeps the roles rooted. -/
theorem RoleTable.Rooted.create (hw : w.roles.Rooted env w.draws) (hs : s.Fits env w.draws)
    {data : RoleRow} (hop : s.allows (.role (.create data))) :
    (data.execCreate env w.roles).2.Rooted env w.draws := by
  obtain ⟨hdrawn, hfound⟩ := hop
  obtain ⟨n, hn, hid, hparents⟩ := hs.drawn data.id hdrawn
  rcases data.execCreate_cases env w.roles with
    ⟨e, he⟩ | ⟨id', parentId, t', hid', hparent', hi, hstored, he⟩
  · rw [he]
    exact hw
  · rw [he]
    have hidn : id' = env.uuid n := by
      have hparse := uuidArgument_str hid'
      rw [hid, env.parseUuid_uuid, Option.some.injEq] at hparse
      exact hparse.symm
    apply hw.insert hi
    · exact ⟨n, hn, hidn⟩
    · rintro p hp
      dsimp only at hp
      subst hp
      obtain ⟨r, hr⟩ := Option.isSome_iff_exists.mp hstored
      obtain ⟨hr, hp⟩ := Table.find_some hr
      exact ⟨r, hr, by simpa using hp⟩
    · intro p hp
      dsimp only at hp
      subst hp
      -- the stored parent is the canonical form of the one that was found
      obtain ⟨p₀, hp₀, hparse⟩ := nullableUuid_some hparent'
      obtain ⟨m, hm, hpm⟩ := hparents p₀ (hfound p₀ hp₀)
      rw [hparse, Option.some.injEq] at hpm
      exact ⟨m, n, hm, hpm, hidn⟩

/-- An allowed call keeps the roles rooted. -/
theorem RoleTable.Rooted.exec (hw : w.roles.Rooted env w.draws) (hs : s.Fits env w.draws)
    (hop : s.allows op) :
    (Bankos.exec env w op).2.roles.Rooted env (Bankos.exec env w op).2.draws := by
  by_cases hcreate : op.area = some .roleCreate
  · obtain ⟨data, rfl⟩ := Op.eq_create_of_area hcreate
    exact hw.create hs hop
  · by_cases hdelete : op.area = some .roleDelete
    · obtain ⟨id, rfl⟩ := Op.eq_delete_of_area hdelete
      simp only [Bankos.exec, RoleOp.exec, World.rbac]
      split
      · exact hw
      · next id' _ =>
        split
        · exact hw.delete id'
        · exact hw
    · rw [exec_roles env w hcreate hdelete]
      exact hw.mono (exec_draws_le env w op)

end Step

/-! ### Runs -/

variable {ι : Type} [DecidableEq ι] {env : Env} {users : IUserRepository} {acts : ι → Activity}
  {w : World} {ok : Identity ι → ServerTurn ι → Prop} {q : Identity ι}

/-- The run: the roles stay rooted, and every draft fits. -/
theorem roles_rooted (hu : users.Proper)
    (hq : Identity.Reaches env ok (Identity.start env users acts w) q)
    (hw : w.roles.Rooted env w.draws) :
    q.world.roles.Rooted env q.world.draws ∧
      ∀ i, (Pool.phase roleCreation {} q.log i).Fits env q.world.draws := by
  have hempty : RoleDraft.Fits env w.draws {} := by constructor <;> rintro _ ⟨⟩
  apply hq.invariant (J := fun q : Identity ι ↦ q.world.roles.Rooted env q.world.draws ∧
    ∀ i, RoleDraft.Fits env q.world.draws (Pool.phase roleCreation {} q.log i))
  · exact ⟨hw, fun _ ↦ hempty⟩
  · rintro q i op next hreach ⟨hroles, hdrafts⟩ - hi
    have hop : RoleDraft.allows (Pool.phase roleCreation {} q.log i) op :=
      hreach.allows (Activity.run_drafts hu env (acts i)) hi
    constructor
    · exact hroles.exec (hdrafts i) hop
    · rw [Pool.phase_record, Function.forall_update_iff _ fun _ s ↦ RoleDraft.Fits env _ s]
      constructor
      · exact (hdrafts i).exec hroles op
      · intro j _
        exact (hdrafts j).mono (exec_draws_le env q.world op)
  · rintro q i e op next - ⟨hroles, hdrafts⟩ - -
    have herror : ∀ s : RoleDraft, s.next op (.error e) = s := by
      intro s
      cases op with
      | role o => cases o <;> rfl
      | system o => cases o <;> rfl
      | _ => rfl
    constructor
    · exact hroles
    · rw [Pool.phase_record, Function.forall_update_iff _ fun _ s ↦ RoleDraft.Fits env _ s]
      constructor
      · change RoleDraft.Fits env q.world.draws (RoleDraft.next _ op (.error e))
        rw [herror]
        exact hdrafts i
      · intro j _
        exact hdrafts j
  · intro q t h _
    exact h

/-- The parent in a rooted table is stored there, under an id that was drawn earlier. -/
theorem RoleTable.Rooted.parent {draws : Nat} {t : RoleTable} (h : t.Rooted env draws)
    {r s : RoleRow} (hr : r ∈ t) (hparent : t.parent r = some s) :
    s ∈ t ∧ Function.invFun env.uuid s.id < Function.invFun env.uuid r.id := by
  obtain ⟨p, hp, hfind⟩ := Option.bind_eq_some_iff.mp hparent
  obtain ⟨hs, hid⟩ := Table.find_some hfind
  have hid : s.id = p := by simpa using hid
  refine ⟨hs, ?_⟩
  obtain ⟨m, n, hlt, hpm, hrn⟩ := h.earlier r hr p hp
  rw [hid, hpm, hrn, Function.leftInverse_invFun env.uuid_injective,
    Function.leftInverse_invFun env.uuid_injective]
  exact hlt

/-- A parent link in a rooted table is the parent of the table. -/
theorem RoleTable.parent_of_link {t : RoleTable} {r s : RoleRow} (h : r.ParentIn t s) :
    t.parent r = some s := by
  obtain ⟨-, hs, hp⟩ := h
  unfold RoleTable.parent
  rw [hp, Option.bind_some]
  apply Table.find_of_mem hs (by simp)
  intro u hu
  have hu : u.id = s.id := by simpa using hu
  simp [RoleRow.clash, hu]

/-- In every interleaving of role creations and deletions, and of whatever else the service does,
from an empty role table: every parent is stored, the parent relation has no cycle, and from every
role the parents lead to a root within as many roles as there are. -/
theorem roles_form_forest (env : Env) (acts : ι → Activity) (w : World)
    (hw : w.roles = .empty) (q : Identity ι)
    (hq : Identity.Reaches env (fun _ _ ↦ True)
      (Identity.start env PrismaUserRepository acts w) q) :
    (∀ r ∈ q.world.roles, ∀ p, r.parentId = some p → ∃ s ∈ q.world.roles, s.id = p) ∧
      (∀ r, ¬ Relation.TransGen (RoleRow.ParentIn q.world.roles) r r) ∧
      ∀ r ∈ q.world.roles, ∃ chain, Climb q.world.roles.parent r chain ∧
        chain.length ≤ q.world.roles.rows.length := by
  have hrooted := (roles_rooted PrismaUserRepository.proper hq (hw ▸ .empty env w.draws)).1
  refine ⟨hrooted.stored, ?_, ?_⟩
  · apply not_transGen_of_rank fun r ↦ Function.invFun env.uuid r.id
    intro r s hlink
    exact (hrooted.parent hlink.1 (RoleTable.parent_of_link hlink)).2
  · intro r hr
    apply exists_short_climb (fun r ↦ Function.invFun env.uuid r.id) _ hr
    intro r hr s hparent
    exact hrooted.parent hr hparent

/-- A role, a role below it, and the deletion of the first one. -/
def Sample.hierarchyEdits : Nat → Activity
  | 0 => .edit (.createRole ⟨"user", none, none, none⟩)
  | 1 => .edit (.createRole ⟨"admin", none, none, some (Sample.env.uuid 0)⟩)
  | _ => .edit (.deleteRole (Sample.env.uuid 0))

/-- The service after the first two of these edits. -/
def Sample.hierarchy : Identity Nat :=
  (Identity.start Sample.env PrismaUserRepository hierarchyEdits {}).play (exec Sample.env)
    World.pass (List.replicate 4 (.act 0) ++ List.replicate 4 (.act 1))

/-- The second role is below the first one. -/
theorem roles_form_forest_hierarchy :
    (Sample.hierarchy.world.roles.rows.map fun r ↦ (r.name, r.parentId)) =
        [("user", none), ("admin", some (Sample.env.uuid 0))] ∧
      ∀ r, ¬ Relation.TransGen (RoleRow.ParentIn Sample.hierarchy.world.roles) r r :=
  ⟨by decide +kernel, (roles_form_forest Sample.env Sample.hierarchyEdits {} rfl Sample.hierarchy
    (Pool.reaches_play_any _ _)).2.1⟩

end Bankos
