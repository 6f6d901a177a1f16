import Bankos.Http.Calls
import Bankos.Rbac.Snapshot

/-!
# Privileges under the application

The routes of the application only ever assign the role `user`, and only to a user that they have
just created. Whatever requests arrive, in whatever order, and whatever calls fail, the users that
were there keep the roles and the permissions that they had, and the tokens say so.
-/

namespace Bankos

open Js Jwt Effects Storage Prog DatabaseMapper

/-! ### What a registration assigns -/

/-- What a request knows that assigns a role: the identifier it has drawn last, the id of the user
it has created under such an identifier, and the role it has found last. -/
structure Assigning where
  drawn : Option String := none
  user : Option String := none
  role : Option RoleRow := none

/-- What it knows after a call. -/
def Assigning.next (s : Assigning) : (op : Op) → Except JsError op.Reply → Assigning
  | .system .randomUUID, .ok (id : String) => { s with drawn := some id }
  | .user (.create data), .ok _ =>
    if s.drawn = some data.id then { s with user := some data.id } else s
  | .role (.findUniqueByName _), .ok (some (row : RoleRow)) => { s with role := some row }
  | _, _ => s

/-- A request looks up the role `user` or the role it has found by its name, and assigns the role it
has found to the user it has created. -/
def Assigning.allows (s : Assigning) : Op → Prop
  | .role (.findUniqueByName name) => name = "user" ∨ ∃ r, s.role = some r ∧ r.name = name
  | .role (.upsertUserRole row) =>
    s.user = some row.userId ∧ ∃ r, s.role = some r ∧ r.id = row.roleId
  | op => ∀ a ∈ op.area, a.writesRbac = false

/-- The course of a request that assigns a role. -/
abbrev assigning : Protocol Api JsError where
  Phase := Assigning
  allows := Assigning.allows
  next := Assigning.next

/-- A call tells nothing, or it tells the identifier that is drawn, that the user of this identifier
is created, or the role of a name. -/
inductive Assigning.Hears (s : Assigning) :
    (op : Op) → Except JsError op.Reply → Assigning → Prop
  | nothing (op : Op) (r : Except JsError op.Reply) : Hears s op r s
  | drawn (id : String) : Hears s (.system .randomUUID) (.ok id) { s with drawn := some id }
  | created (data : UserRow) (h : s.drawn = some data.id) :
    Hears s (.user (.create data)) (.ok ()) { s with user := some data.id }
  | found (name : String) (row : RoleRow) :
    Hears s (.role (.findUniqueByName name)) (.ok (some row)) { s with role := some row }

/-- What a request takes from a reply. -/
theorem Assigning.hears_next (s : Assigning) (op : Op) (r : Except JsError op.Reply) :
    s.Hears op r (s.next op r) := by
  cases op with
  | system o =>
    cases o with
    | randomUUID =>
      cases r with
      | error e => exact .nothing _ _
      | ok id => exact .drawn id
    | _ => exact .nothing _ _
  | user o =>
    cases o with
    | create data =>
      cases r with
      | error e => exact .nothing _ _
      | ok u =>
        unfold next
        dsimp only
        split
        · next hdrawn => exact .created data hdrawn
        · exact .nothing _ _
    | _ => exact .nothing _ _
  | role o =>
    cases o with
    | findUniqueByName name =>
      rcases r with e | (_ | row)
      · exact .nothing _ _
      · exact .nothing _ _
      · exact .found name row
    | _ => exact .nothing _ _
  | _ => exact .nothing _ _

/-- A failed call tells nothing. -/
theorem Assigning.next_error (s : Assigning) (op : Op) (e : JsError) :
    s.next op (.error e) = s := by
  have hhears := s.hears_next op (.error e)
  generalize s.next op (.error e) = s' at hhears
  cases hhears
  rfl

/-- A call outside the areas of the role tables is always allowed. -/
theorem Assigning.allows_of_area (s : Assigning) {op : Op}
    (h : ∀ a ∈ op.area, a.writesRbac = false ∧ a ≠ .roleRead) : s.allows op := by
  have hwrites : ∀ a ∈ op.area, a.writesRbac = false := fun a ha ↦ (h a ha).1
  cases op with
  | role o =>
    cases o with
    | findUniqueByName name => exact absurd rfl (h _ rfl).2
    | upsertUserRole row => cases (h _ rfl).1
    | _ => exact hwrites
  | _ => exact hwrites

/-- A program outside these areas keeps to the course. -/
theorem obeys_assigning {α : Type} {p : Program α} {areas : List Area}
    (hp : p.Uses (Op.within areas)) (h : ∀ a ∈ areas, a.writesRbac = false ∧ a ≠ .roleRead)
    (s : Assigning) : p.Obeys assigning s fun _ _ ↦ True :=
  hp.obeys (fun _ ↦ True)
    (fun (s : Assigning) _ _ hop ↦ ⟨s.allows_of_area fun a ha ↦ h a (hop a ha), fun _ ↦ trivial⟩)
    trivial

namespace RegisterUserService

variable {env : Env} {request : RegisterUserRequest} {s : Assigning}

/-- The token of a registration and its event are none of the course. -/
theorem issueToken_uses (user : User) :
    (issueToken env request user).Uses (Op.within [.verificationToken, .audit]) := by
  unfold issueToken
  apply uses_bind (uses_within (SecureRandomGenerator.generateToken_uses 32) _)
  intro tokenRaw
  apply uses_bind (uses_within SystemClock.now_uses _)
  intro now
  apply uses_bind (uses_perform (Op.within_of_area rfl (by simp)))
  intro _
  exact uses_bind (uses_wider (dispatch_uses _) (by simp)) fun _ ↦ trivial

/-- The role that is assigned has been found, and the user has been created. -/
theorem assignRole_assigns {userId roleName : String} (huser : s.user = some userId)
    (hrole : ∃ r, s.role = some r ∧ r.name = roleName) :
    Ensures assigning s (PrismaUserRepository.assignRole userId roleName) fun _ _ ↦ True := by
  apply Ensures.seq (Q := fun (s' : Assigning) role ↦
    s'.user = some userId ∧ ∀ r, role = some r → s'.role = some r)
  · apply ensures_perform (Or.inr hrole)
    intro role
    cases role with
    | none => exact ⟨huser, fun r hr ↦ nomatch hr⟩
    | some row => exact ⟨huser, fun r hr ↦ hr⟩
  · rintro s role ⟨huser, hfound⟩
    cases role with
    | none => exact ensures_throw
    | some role =>
      apply ensures_perform
      · exact ⟨huser, role, hfound role rfl, rfl⟩
      · exact fun _ ↦ trivial

/-- A user is created under the identifier that was drawn, and given the role that was found. -/
theorem createUser_assigns {normalizedEmail : String} {defaultRole : Role}
    (hrole : ∃ r, s.role = some r ∧ r.name = defaultRole.name) :
    Ensures assigning s (createUser env request normalizedEmail defaultRole) fun _ _ ↦ True := by
  apply Ensures.seq (Q := fun (s' : Assigning) _ ↦ s'.role = s.role)
  · apply ensures_perform
    · exact fun a ha ↦ nomatch ha
    · exact fun _ ↦ rfl
  · intro s₁ passwordHash h₁
    apply Ensures.seq (Q := fun (s' : Assigning) id ↦ s'.role = s.role ∧ s'.drawn = some id)
    · apply ensures_perform
      · exact fun a ha ↦ nomatch ha
      · exact fun _ ↦ ⟨h₁, rfl⟩
    · rintro s₂ id ⟨h₂, hdrawn⟩
      apply Ensures.seq (Q := fun (s' : Assigning) _ ↦ s'.role = s.role ∧ s'.user = some id)
      · apply ensures_perform
        · rintro a ⟨⟩
          rfl
        · intro _
          show Assigning.role (if s₂.drawn = some id then _ else _) = _ ∧
            Assigning.user (if s₂.drawn = some id then _ else _) = _
          rw [if_pos hdrawn]
          exact ⟨h₂, rfl⟩
      · rintro s₃ _ ⟨h₃, huser⟩
        apply Ensures.seq (assignRole_assigns huser (by rw [h₃]; exact hrole))
        intro s₄ _ _
        apply (obeys_assigning (issueToken_uses _) (by simp [Area.writesRbac]) s₄).mono
        exact fun _ _ _ _ _ ↦ trivial

/-- A registration keeps to the course. -/
theorem execute_assigns (env : Env) (request : RegisterUserRequest) :
    Ensures assigning {} (execute env request) fun _ _ ↦ True := by
  unfold execute
  dsimp only
  split
  · exact ensures_throw
  · split
    · exact ensures_throw
    · apply Ensures.seq (Q := fun _ _ ↦ True)
      · apply Ensures.seq (Q := fun _ _ ↦ True)
        · apply ensures_perform
          · rintro a ⟨⟩
            rfl
          · exact fun _ ↦ trivial
        · exact fun _ _ _ ↦ ensures_pure trivial
      · intro s emailExists _
        split
        · exact ensures_throw
        · apply Ensures.seq (Q := fun (s : Assigning) role ↦
            ∀ r, role = some r → ∃ row, s.role = some row ∧ row.name = r.name)
          · apply Ensures.seq (Q := fun (s : Assigning) role ↦ ∀ r, role = some r → s.role = some r)
            · apply ensures_perform (Or.inl rfl)
              intro role
              cases role with
              | none => exact fun r hr ↦ nomatch hr
              | some row => exact fun r hr ↦ hr
            · intro s role hrole
              apply ensures_pure
              intro r hr
              obtain ⟨row, hrow, rfl⟩ := Option.map_eq_some_iff.mp hr
              exact ⟨row, hrole row hrow, rfl⟩
          · intro s defaultRole hrole
            cases defaultRole with
            | none => exact ensures_throw
            | some defaultRole => exact createUser_assigns (hrole defaultRole rfl)

end RegisterUserService

/-- Every controller keeps to the course. -/
theorem AuthCall.program_assigns (env : Env) (c : AuthCall) :
    (c.program env).Obeys assigning {} fun _ _ ↦ True := by
  have hother : (∀ a ∈ c.areas, a.writesRbac = false ∧ a ≠ .roleRead) →
      (c.program env).Obeys assigning {} fun _ _ ↦ True :=
    fun h ↦ obeys_assigning (c.program_uses env) h {}
  cases c with
  | register r =>
    exact respond_obeys (Obeys.mono (RegisterUserService.execute_assigns env r)
      fun _ _ _ ↦ trivial)
  | _ => exact hother (by simp [AuthCall.areas, Area.writesRbac])

/-- Every request keeps to the course. -/
theorem IdentityApp.handle_assigns (app : IdentityApp) (req : IdentityRequest) :
    (app.handle req).Obeys assigning {} fun _ _ ↦ True :=
  handle_obeys fun c ↦ c.program_assigns app.env

/-! ### What the tables go through -/

/-- The tables come from those of `w₀` without a change of anybody's privileges: no user is gone,
roles and permissions are the same, and the assignments that are new give the role `user` to users
that are new. -/
structure World.Confines (w₀ w : World) : Prop where
  roles : w.roles = w₀.roles
  permissions : w.permissions = w₀.permissions
  rolePermissions : w.rolePermissions = w₀.rolePermissions
  users : ∀ u ∈ w₀.users, ∃ u' ∈ w.users, u'.id = u.id
  userRoles : ∃ later, w.userRoles.rows = w₀.userRoles.rows ++ later ∧
    ∀ ur ∈ later, (∀ u ∈ w₀.users, u.id ≠ ur.userId) ∧
      ∃ r ∈ w₀.roles, r.id = ur.roleId ∧ r.name = "user"

/-- What a request knows is right: identifiers were drawn, the user it has created is new, and the
role it has found is the role `user`. -/
structure Assigning.Fits (env : Env) (w₀ : World) (s : Assigning) : Prop where
  drawn : ∀ id, s.drawn = some id → ∃ n, id = env.uuid n
  user : ∀ u, s.user = some u → (∃ n, u = env.uuid n) ∧ ∀ v ∈ w₀.users, v.id ≠ u
  role : ∀ r, s.role = some r → r ∈ w₀.roles ∧ r.name = "user"

namespace World.Confines

variable {env : Env} {w₀ w w' : World} {s : Assigning} {op : Op}

/-- Nothing has changed yet. -/
theorem refl (w : World) : w.Confines w where
  roles := rfl
  permissions := rfl
  rolePermissions := rfl
  users u hu := ⟨u, hu, rfl⟩
  userRoles := ⟨[], (List.append_nil _).symm, fun _ h ↦ absurd h List.not_mem_nil⟩

/-- The role tables stay, and no user goes. -/
theorem stay (h : w₀.Confines w) (hrbac : w'.rbac = w.rbac)
    (husers : ∀ u ∈ w.users, ∃ u' ∈ w'.users, u'.id = u.id) : w₀.Confines w' where
  roles := (congrArg RbacTables.roles hrbac).trans h.roles
  permissions := (congrArg RbacTables.permissions hrbac).trans h.permissions
  rolePermissions := (congrArg RbacTables.rolePermissions hrbac).trans h.rolePermissions
  users u hu := by
    obtain ⟨u₁, hu₁, hid₁⟩ := h.users u hu
    obtain ⟨u₂, hu₂, hid₂⟩ := husers u₁ hu₁
    exact ⟨u₂, hu₂, hid₂.trans hid₁⟩
  userRoles := by
    obtain ⟨later, hrows, hlater⟩ := h.userRoles
    refine ⟨later, ?_, hlater⟩
    rw [← hrows]
    exact congrArg (fun t : RbacTables ↦ t.userRoles.rows) hrbac

/-- No call removes a user. -/
theorem exec_users_stay (env : Env) (w : World) (op : Op) :
    ∀ u ∈ w.users, ∃ u' ∈ (Bankos.exec env w op).2.users, u'.id = u.id := by
  intro u hu
  by_cases harea : op.area = some .userWrite
  · cases op with
    | user o =>
      cases o with
      | create data =>
        refine ⟨u, ?_, rfl⟩
        simp only [Bankos.exec, UserOp.exec]
        cases hi : w.users.insert data with
        | none => exact hu
        | some t' => exact (Table.mem_insert hi).mpr (.inl hu)
      | update id data =>
        simp only [Bankos.exec]
        rcases UserOp.exec_update env w.users id data with h | ⟨-, h⟩
        · rw [h]
          exact ⟨u.write id data, UserTable.mem_write.mpr ⟨u, hu, rfl⟩,
            (UserRow.write_keys id data u).1⟩
        · rw [h]
          exact ⟨u, hu, rfl⟩
      | _ => cases harea
    | hasher o => cases o <;> cases harea
    | role o => cases o <;> cases harea
    | resetToken o => cases o <;> cases harea
    | permission o => cases o <;> cases harea
    | _ => cases harea
  · rw [exec_users env w harea]
    exact ⟨u, hu, rfl⟩

/-- The assignment of the role that was found to the user that was created. -/
theorem upsertUserRole (h : w₀.Confines w) (hs : s.Fits env w₀)
    (hroles : ∀ r ∈ w₀.roles, env.parseUuid r.id = some r.id) {row : UserRoleRow}
    (hop : s.allows (.role (.upsertUserRole row))) :
    w₀.Confines (Bankos.exec env w (.role (.upsertUserRole row))).2 := by
  obtain ⟨huser, r, hr, hid⟩ := hop
  obtain ⟨⟨n, hn⟩, hnew⟩ := hs.user row.userId huser
  obtain ⟨hstored, hname⟩ := hs.role r hr
  have huuid : uuidPair env row.userId row.roleId = .ok (row.userId, row.roleId) := by
    have huserId : env.parseUuid row.userId = some row.userId := by
      rw [hn, env.parseUuid_uuid]
    have hroleId : env.parseUuid row.roleId = some row.roleId := by
      rw [← hid, hroles r hstored]
    simp only [uuidPair, uuidArgument, huserId, hroleId]
    rfl
  have hexec : (Bankos.exec env w (.role (.upsertUserRole row))).2 = { w with
      userRoles := (upsertJoin w.userRoles row
        ((w.users.find fun u ↦ decide (u.id = row.userId)).isSome &&
          (w.roles.find fun r ↦ decide (r.id = row.roleId)).isSome)).2 } := by
    simp only [Bankos.exec, RoleOp.exec, huuid]
    rfl
  rw [hexec]
  refine ⟨h.roles, h.permissions, h.rolePermissions, h.users, ?_⟩
  obtain ⟨later, hrows, hlater⟩ := h.userRoles
  dsimp only
  unfold upsertJoin
  split
  · exact ⟨later, hrows, hlater⟩
  · split
    · cases hi : w.userRoles.insert row with
      | none => exact ⟨later, hrows, hlater⟩
      | some t' =>
        refine ⟨later ++ [row], ?_, ?_⟩
        · rw [Table.rows_insert hi, hrows, List.append_assoc]
        · intro ur hur
          rcases List.mem_append.mp hur with hur | hur
          · exact hlater ur hur
          · rw [List.mem_singleton.mp hur]
            exact ⟨hnew, r, hstored, hid, hname⟩
    · exact ⟨later, hrows, hlater⟩

/-- An allowed call confines what it did. -/
theorem exec (h : w₀.Confines w) (hs : s.Fits env w₀)
    (hroles : ∀ r ∈ w₀.roles, env.parseUuid r.id = some r.id) (hop : s.allows op) :
    w₀.Confines (Bankos.exec env w op).2 := by
  have hrest : (∀ a ∈ op.area, a.writesRbac = false) → w₀.Confines (Bankos.exec env w op).2 :=
    fun harea ↦ h.stay (exec_rbac env w harea) (exec_users_stay env w op)
  cases op with
  | role o =>
    cases o with
    | upsertUserRole row => exact h.upsertUserRole hs hroles hop
    | findUniqueByName name =>
      apply hrest
      rintro a ⟨⟩
      rfl
    | _ => exact hrest hop
  | _ => exact hrest hop

end World.Confines

/-- What a request is told by a call is right. -/
theorem Assigning.Hears.fits {env : Env} {w₀ w : World} {s s' : Assigning} {op : Op}
    {r : Except JsError op.Reply} (hs : s.Fits env w₀) (h : w₀.Confines w) (hop : s.allows op)
    (hhears : s.Hears op r s') (hr : (exec env w op).1 = r) : s'.Fits env w₀ := by
  cases hhears with
  | nothing => exact hs
  | drawn id =>
    refine ⟨?_, hs.user, hs.role⟩
    rintro _ ⟨rfl⟩
    cases hr
    exact ⟨w.draws, rfl⟩
  | created data hdrawn =>
    refine ⟨hs.drawn, ?_, hs.role⟩
    rintro _ ⟨rfl⟩
    refine ⟨hs.drawn _ hdrawn, fun v hv heq ↦ ?_⟩
    -- the identifier is free: an insert under a taken one fails
    obtain ⟨v', hv', hid⟩ := h.users v hv
    have hinsert : (w.users.insert data).isSome = true := by
      simp only [exec, UserOp.exec] at hr
      cases hi : w.users.insert data with
      | none =>
        rw [hi] at hr
        cases hr
      | some t' => rfl
    have hclash := Table.insert_isSome.mp hinsert v' hv'
    simp [UserRow.clash, hid, heq] at hclash
  | found name row =>
    have hfind : (w.rbac.roles.find fun r ↦ decide (r.name = name)) = some row := by
      simpa [exec, RoleOp.exec] using hr
    obtain ⟨hrow, hname⟩ := Table.find_some hfind
    have hname : row.name = name := by simpa using hname
    refine ⟨hs.drawn, hs.user, ?_⟩
    rintro _ ⟨rfl⟩
    have hstored : row ∈ w₀.roles := by
      rw [← h.roles]
      exact hrow
    refine ⟨hstored, ?_⟩
    rcases hop with hop | ⟨r, hr, hrname⟩
    · exact hname.trans hop
    · exact hname.trans (hrname.symm.trans (hs.role r hr).2)

/-- What a request knows stays right when its call is answered. -/
theorem Assigning.Fits.next {env : Env} {w₀ w : World} {s : Assigning} {op : Op}
    (hs : s.Fits env w₀) (h : w₀.Confines w) (hop : s.allows op) :
    (s.next op (exec env w op).1).Fits env w₀ :=
  (s.hears_next op _).fits hs h hop rfl

section Runs

variable {ι : Type} [DecidableEq ι] {app : IdentityApp} {reqs : ι → IdentityRequest} {w : World}
  {ok : HttpServer ι → Turn JsError ι Nat → Prop} {q : HttpServer ι}

/-- The run: the tables are confined, and what each request knows is right. -/
theorem http_confines (hroles : ∀ r ∈ w.roles, app.env.parseUuid r.id = some r.id)
    (hq : Pool.Reaches (exec app.env) World.pass ok (app.start reqs w) q) :
    w.Confines q.world ∧ ∀ i, (Pool.phase assigning {} q.log i).Fits app.env w := by
  have hrecord : ∀ {p : HttpServer ι} {i : ι} {op : Op} {r : Except JsError op.Reply}
      {next : Except JsError op.Reply → Program AppResponse} {w' : World},
      (∀ j, (Pool.phase assigning {} p.log j).Fits app.env w) →
      Assigning.Fits app.env w (Assigning.next (Pool.phase assigning {} p.log i) op r) →
      ∀ j, (Pool.phase assigning {} (p.record i op r next w').log j).Fits app.env w := by
    intro p i op r next w' hfits hi j
    rw [Pool.phase_record]
    by_cases hj : j = i
    · subst hj
      rw [Function.update_self]
      exact hi
    · rw [Function.update_of_ne hj]
      exact hfits j
  apply hq.invariant (J := fun q : HttpServer ι ↦
    w.Confines q.world ∧ ∀ i, (Pool.phase assigning {} q.log i).Fits app.env w)
  · refine ⟨.refl w, fun i ↦ ⟨?_, ?_, ?_⟩⟩
    · exact fun _ h ↦ nomatch h
    · exact fun _ h ↦ nomatch h
    · exact fun _ h ↦ nomatch h
  · rintro q i op next hq ⟨hconfines, hfits⟩ _ hi
    have hallows := hq.allows (app.handle_assigns (reqs i)) hi
    exact ⟨hconfines.exec (hfits i) hroles hallows,
      hrecord hfits ((hfits i).next hconfines hallows)⟩
  · rintro q i e op next hq ⟨hconfines, hfits⟩ _ hi
    refine ⟨hconfines, hrecord hfits ?_⟩
    rw [Assigning.next_error]
    exact hfits i
  · rintro q t ⟨hconfines, hfits⟩ _
    exact ⟨hconfines.stay rfl fun u hu ↦ ⟨u, hu, rfl⟩, hfits⟩

end Runs

/-! ### What the tables still say -/

namespace World.Confines

variable {w₀ w : World}

/-- A user has the roles that it had, and the role `user` besides if it is new. -/
theorem directRoles (h : w₀.Confines w) (userId : String) :
    ∃ names, w.rbac.directRoles userId = w₀.rbac.directRoles userId ++ names ∧
      (∀ name ∈ names, name = "user") ∧ ((∃ u ∈ w₀.users, u.id = userId) → names = []) := by
  obtain ⟨later, hrows, hlater⟩ := h.userRoles
  refine ⟨((later.filter fun ur ↦ decide (ur.userId = userId)).filterMap fun ur ↦
    w₀.roles.find fun r ↦ decide (r.id = ur.roleId)).map (·.name), ?_, ?_, ?_⟩
  · have hroles : w.rbac.roles = w₀.roles := h.roles
    have huserRoles : w.rbac.userRoles.rows = w₀.rbac.userRoles.rows ++ later := hrows
    unfold RbacTables.directRoles
    rw [huserRoles, hroles, List.filter_append, List.filterMap_append, List.map_append]
    rfl
  · intro name hname
    obtain ⟨r, hr, rfl⟩ := List.mem_map.mp hname
    obtain ⟨ur, hur, hfind⟩ := List.mem_filterMap.mp hr
    obtain ⟨r', hr', hid, hname⟩ := (hlater ur (List.mem_filter.mp hur).1).2
    obtain ⟨hstored, hrid⟩ := RoleTable.find_id.mp hfind
    rw [RoleTable.eq_of_id hstored hr' (hrid.trans hid.symm)]
    exact hname
  · rintro ⟨u, hu, rfl⟩
    have hnone : (later.filter fun ur ↦ decide (ur.userId = u.id)) = [] := by
      rw [List.filter_eq_nil_iff]
      intro ur hur heq
      have heq : ur.userId = u.id := by simpa using heq
      exact (hlater ur hur).1 u hu heq.symm
    rw [hnone]
    rfl

/-- A user that was there has the roles that it had. -/
theorem directRoles_of_stored (h : w₀.Confines w) {u : UserRow} (hu : u ∈ w₀.users) :
    w.rbac.directRoles u.id = w₀.rbac.directRoles u.id := by
  obtain ⟨names, heq, -, hnames⟩ := h.directRoles u.id
  rw [heq, hnames ⟨u, hu, rfl⟩, List.append_nil]

/-- The roles are those that were there. -/
theorem allRoles (h : w₀.Confines w) : w.rbac.allRoles = w₀.rbac.allRoles :=
  congrArg (fun t : RoleTable ↦ t.rows.map toDomainRole) h.roles

/-- Every role has the permissions that it had. -/
theorem permissionsOf (h : w₀.Confines w) (roleId : String) :
    w.rbac.permissionsOf roleId = w₀.rbac.permissionsOf roleId := by
  have hlinks : w.rbac.rolePermissions = w₀.rolePermissions := h.rolePermissions
  have hpermissions : w.rbac.permissions = w₀.permissions := h.permissions
  unfold RbacTables.permissionsOf
  rw [hlinks, hpermissions]
  rfl

/-- A user that was there has the roles that it had, inherited ones included. -/
theorem effectiveRoles (h : w₀.Confines w) {u : UserRow} (hu : u ∈ w₀.users) :
    w.rbac.effectiveRoles u.id = w₀.rbac.effectiveRoles u.id := by
  unfold RbacTables.effectiveRoles
  rw [h.directRoles_of_stored hu, h.allRoles]

/-- A user that was there has the permissions that it had. -/
theorem effectivePermissions (h : w₀.Confines w) {u : UserRow} (hu : u ∈ w₀.users) :
    w.rbac.effectivePermissions u.id = w₀.rbac.effectivePermissions u.id := by
  unfold RbacTables.effectivePermissions RbacTables.permissionsOfRoles
  rw [h.directRoles_of_stored hu, h.allRoles, funext h.permissionsOf]

end World.Confines

/-! ### What the tokens say -/

/-- The roles are those that the direct roles come to in `t`, and the permissions are those that
some of these roles has there. -/
def Jwt.Claims.ShowsRoles (claims : Claims) (t : RbacTables) (directRoles : List String) : Prop :=
  ∃ roles permissions, claims.roles = .strings roles ∧ claims.permissions = .strings permissions ∧
    (∀ name, name ∈ roles ↔
      name ∈ PermissionResolver.resolveEffectiveRoles directRoles t.allRoles) ∧
    ∀ permission, permission ∈ permissions ↔
      ∃ r ∈ t.roles, r.name ∈ roles ∧ permission ∈ t.permissionsOf r.id

/-- The replies of a run over tables that are confined to `w₀`: the direct roles of a user are those
of one of its states, the other reads are answered as at first. -/
def World.ConfinedReads (env : Env) (w₀ : World) : (op : Op) → Except JsError op.Reply → Prop
  | .rbac (.findUserRoles id), .ok (rows : List RoleRow) =>
    ∃ w, w₀.Confines w ∧ rows.map (·.name) = w.rbac.directRoles id
  | .rbac .findRoles, .ok (rows : List RoleRow) => rows = w₀.roles.rows
  | .rbac (.findRolePermissions roleId), .ok (rows : List PermissionRow) =>
    rows.map (·.name) = w₀.rbac.permissionsOf roleId
  | .user (.findUniqueById id), .ok (some row) => uuidArgument env id = .ok row.id
  | .jwtSign c, .ok token => ∃ now draws, c.exec env now draws = .ok token
  | _, _ => True

/-- The calls other than those for the direct roles of a user. -/
def Op.besideUserRoles : Op → Prop
  | .rbac (.findUserRoles _) => False
  | _ => True

section Told

variable {env : Env} {w₀ w : World} {userId : String}

/-- Beside the direct roles, the reads agree with any of the states. -/
theorem tells_of_confinedReads (h : w₀.Confines w) (op : Op) (r : Except JsError op.Reply)
    (hop : op.besideUserRoles) (hr : w₀.ConfinedReads env op r) :
    w.rbac.Tells env userId op r := by
  cases r with
  | error e => exact tells_error op e
  | ok reply =>
    cases op with
    | rbac o =>
      cases o with
      | findUserRoles id => exact hop.elim
      | findRoles =>
        have hrows : reply = w₀.roles.rows := hr
        have hall : reply.map toDomainRole = w.rbac.allRoles := by
          rw [hrows]
          exact h.allRoles.symm
        show _ ∧ _
        rw [hall]
        exact ⟨rfl, fun _ _ ↦ rfl⟩
      | findRolePermissions roleId => exact Eq.trans hr (h.permissionsOf roleId).symm
    | user o =>
      cases o with
      | findUniqueById id => cases reply <;> exact hr
      | _ => exact trivial
    | jwtSign c => exact hr
    | _ => exact trivial

/-- Resolving roles does not read the roles of a user. -/
theorem AuthorizationEngine.resolveRoles_besideUserRoles (roleNames : List String) :
    (resolveRoles roleNames).Uses Op.besideUserRoles := by
  apply uses_bind
  · apply uses_bind (uses_perform trivial)
    intro records
    exact trivial
  · intro roles
    exact trivial

/-- Resolving permissions does not read the roles of a user. -/
theorem AuthorizationEngine.resolvePermissions_besideUserRoles (roleNames : List String) :
    (resolvePermissions roleNames).Uses Op.besideUserRoles := by
  apply uses_bind
  · apply uses_bind (uses_perform trivial)
    intro records
    exact trivial
  · intro roles
    apply uses_bind
    · apply uses_each
      intro roleName _
      split
      · apply uses_bind (uses_perform trivial)
        intro rolePermissions
        exact trivial
      · exact trivial
    · intro permissions
      exact trivial

/-- Minting a pair of tokens does not read the roles of a user. -/
theorem generateTokens_besideUserRoles (payload : Claims) (subject : Value) :
    (generateTokens env payload subject).Uses Op.besideUserRoles := by
  apply uses_bind (uses_perform trivial)
  intro accessToken
  apply uses_bind (uses_perform trivial)
  intro refreshToken
  exact trivial

/-- The pair shows one of the states. -/
def LoginResponse.ShowsConfined (env : Env) (w₀ : World) (tokens : LoginResponse) : Prop :=
  ∃ w, w₀.Confines w ∧ tokens.Shows env w.rbac

/-- A pair that shows one of the states shows the roles of the state at the start, and the role
`user` for a new user. -/
theorem LoginResponse.ShowsConfined.showsRoles {tokens : LoginResponse}
    (h : tokens.ShowsConfined env w₀) :
    ∃ userId names, (∀ name ∈ names, name = "user") ∧
      ((∃ u ∈ w₀.users, u.id = userId) → names = []) ∧
      ∀ token ∈ [tokens.accessToken, tokens.refreshToken],
        ∃ claims, JwtTokenService.decode token = some claims ∧ claims.IsFor env userId ∧
          claims.ShowsRoles w₀.rbac (w₀.rbac.directRoles userId ++ names) := by
  obtain ⟨w, hw, userId, hshows⟩ := h
  obtain ⟨names, hdirect, hnames, hstored⟩ := hw.directRoles userId
  refine ⟨userId, names, hnames, hstored, fun token htoken ↦ ?_⟩
  obtain ⟨claims, hdecode, hfor, roles, permissions, hroles, hpermissions, hmem, hholds⟩ :=
    hshows token htoken
  refine ⟨claims, hdecode, hfor, roles, permissions, hroles, hpermissions, fun name ↦ ?_,
    fun permission ↦ ?_⟩
  · rw [hmem name, RbacTables.effectiveRoles, hdirect, hw.allRoles]
  · have hrows : w.rbac.roles = w₀.rbac.roles := hw.roles
    rw [hholds permission, hrows, funext hw.permissionsOf]

/-- What a login and a refresh do between the check of the user and the new session. -/
theorem mint_confined {id : String} {subject : Value}
    {rest : String → LoginResponse → Program LoginResponse}
    (hsubject : subject = .str id ∨ uuidArgument env subject = .ok id)
    (hrest : ∀ sessionId tokens,
      (rest sessionId tokens).Told (w₀.ConfinedReads env) fun returned ↦ returned = tokens) :
    (do
      let directRoles ← PrismaUserRepository.findRoles id
      let effectiveRoles ← AuthorizationEngine.resolveRoles directRoles
      let effectivePermissions ← AuthorizationEngine.resolvePermissions directRoles
      let sessionId ← SecureRandomGenerator.generateUUID
      let tokens ←
        generateTokens env (tokenPayload effectiveRoles effectivePermissions sessionId) subject
      rest sessionId tokens).Told (w₀.ConfinedReads env) fun tokens ↦
        tokens.ShowsConfined env w₀ := by
  apply Told.seq (R := fun names ↦ ∃ w, w₀.Confines w ∧ names = w.rbac.directRoles id)
  · apply Told.bind
    apply told_perform
    intro rows h
    exact told_pure h
  · rintro _ ⟨w, hw, rfl⟩
    have hagree : ∀ (op : Op) (r : Except JsError op.Reply), op.besideUserRoles →
        w₀.ConfinedReads env op r → w.rbac.Tells env id op r := tells_of_confinedReads hw
    apply Told.seq (AuthorizationEngine.resolveRoles_told.within
      (AuthorizationEngine.resolveRoles_besideUserRoles _) hagree)
    rintro _ rfl
    apply Told.seq (AuthorizationEngine.resolvePermissions_told.within
      (AuthorizationEngine.resolvePermissions_besideUserRoles _) hagree)
    rintro _ rfl
    apply told_then
    intro sessionId
    apply Told.seq ((generateTokens_told _ subject).within
      (generateTokens_besideUserRoles _ _) hagree)
    intro tokens htokens
    apply (hrest sessionId tokens).mono
    rintro _ rfl
    refine ⟨w, hw, id, fun token htoken ↦ ?_⟩
    obtain ⟨claims, hdecode, hsub, hroles, hpermissions⟩ := htokens token htoken
    refine ⟨claims, hdecode, ?_, w.rbac.effectiveRoles id, w.rbac.effectivePermissions id, hroles,
      hpermissions, fun _ ↦ Iff.rfl, fun _ ↦ RbacTables.mem_effectivePermissions_iff⟩
    unfold Claims.IsFor
    rw [hsub]
    exact hsubject

/-- A login returns a pair that shows one of the states. -/
theorem LoginService.execute_confined (r : LoginRequest) :
    (execute env PrismaUserRepository r).Told (w₀.ConfinedReads env) fun tokens ↦
      tokens.ShowsConfined env w₀ := by
  apply told_execute
  intro _ user _ _ _ _
  apply mint_confined (.inl rfl)
  intro sessionId tokens
  apply told_then
  intro expiresAt
  apply told_then
  intro createdAt
  apply told_then
  intro _
  apply told_then
  intro _
  exact told_pure rfl

/-- A refresh returns a pair that shows one of the states. -/
theorem RefreshTokenService.execute_confined (token : Text) (ip ua : String) :
    (execute env PrismaUserRepository token ip ua).Told (w₀.ConfinedReads env) fun tokens ↦
      tokens.ShowsConfined env w₀ := by
  apply told_execute
  intro decoded _ session row now _ hfound
  apply told_then
  intro session
  apply told_then
  intro _
  apply mint_confined (.inr hfound)
  intro sessionId tokens
  apply told_then
  intro _
  apply told_then
  intro _
  exact told_pure rfl

/-- The tokens of an answer show one of the states. -/
theorem IdentityApp.handle_confined (app : IdentityApp) (req : IdentityRequest) :
    (app.handle req).Told (w₀.ConfinedReads app.env) fun response ↦
      ∀ tokens, response.Gives tokens → tokens.ShowsConfined app.env w₀ := by
  apply handle_tokens
  · exact fun r _ ↦ LoginService.execute_confined r
  · exact fun token ip ua _ ↦ RefreshTokenService.execute_confined token ip ua

end Told

section Runs

variable {ι : Type} [DecidableEq ι] {app : IdentityApp} {reqs : ι → IdentityRequest} {w : World}
  {ok : HttpServer ι → Turn JsError ι Nat → Prop} {q : HttpServer ι}

/-- One call: its reply is one over tables that are confined to those at the start. -/
theorem exec_confinedReads {env : Env} {w₀ : World} (h : w₀.Confines w) (op : Op) :
    w₀.ConfinedReads env op (exec env w op).1 := by
  cases op with
  | rbac o =>
    cases o with
    | findUserRoles id => exact ⟨w, h, rfl⟩
    | findRoles => exact congrArg (·.rows) h.roles
    | findRolePermissions roleId => exact h.permissionsOf roleId
  | user o =>
    cases o with
    | findUniqueById id =>
      have htells : w.rbac.Tells env "" (.user (.findUniqueById id))
          (exec env w (.user (.findUniqueById id))).1 :=
        exec_tells w (.user (.findUniqueById id)) (by rintro o ⟨⟩)
      generalize (exec env w (.user (.findUniqueById id))).1 = r at htells ⊢
      cases r with
      | error e => exact trivial
      | ok row => cases row <;> exact htells
    | _ => exact trivial
  | jwtSign c =>
    have htells : w.rbac.Tells env "" (.jwtSign c) (exec env w (.jwtSign c)).1 :=
      exec_tells w (.jwtSign c) (by rintro o ⟨⟩)
    generalize (exec env w (.jwtSign c)).1 = r at htells ⊢
    cases r <;> exact htells
  | _ => exact trivial

/-- A failed call tells nothing. -/
theorem confinedReads_error {env : Env} {w₀ : World} (op : Op) (e : JsError) :
    w₀.ConfinedReads env op (.error e) := by
  cases op with
  | rbac o => cases o <;> exact trivial
  | user o => cases o <;> exact trivial
  | _ => exact trivial

/-- The run: so are all replies. -/
theorem log_confinedReads (hroles : ∀ r ∈ w.roles, app.env.parseUuid r.id = some r.id)
    (hq : Pool.Reaches (exec app.env) World.pass ok (app.start reqs w) q) :
    ∀ e ∈ q.log, w.ConfinedReads app.env e.op e.reply := by
  apply hq.log_invariant (H := fun _ op r ↦ w.ConfinedReads app.env op r)
  · intro e he
    cases he
  · intro q i op next hq _ _
    exact exec_confinedReads (http_confines hroles hq).1 op
  · exact fun q i e op next _ _ _ ↦ confinedReads_error op e

/-- Whatever requests arrive at the application, in whatever order and with whatever failures, the
users that were stored before keep exactly their roles and permissions; and each pair of tokens in
an answer shows what the roles of its user at the start come to, with the role `user` besides only
if the user was not stored then. -/
theorem http_keeps_privileges (app : IdentityApp) (reqs : ι → IdentityRequest) (w : World)
    (hroles : ∀ r ∈ w.roles, app.env.parseUuid r.id = some r.id)
    (hq : Pool.Reaches (exec app.env) World.pass ok (app.start reqs w) q) :
    (∀ u ∈ w.users, q.world.rbac.effectiveRoles u.id = w.rbac.effectiveRoles u.id ∧
      q.world.rbac.effectivePermissions u.id = w.rbac.effectivePermissions u.id) ∧
    ∀ i response tokens, q.Returned i response → response.Gives tokens →
      ∃ userId names, (∀ name ∈ names, name = "user") ∧
        ((∃ u ∈ w.users, u.id = userId) → names = []) ∧
        ∀ token ∈ [tokens.accessToken, tokens.refreshToken],
          ∃ claims, JwtTokenService.decode token = some claims ∧ claims.IsFor app.env userId ∧
            claims.ShowsRoles w.rbac (w.rbac.directRoles userId ++ names) := by
  constructor
  · intro u hu
    have hconfines := (http_confines hroles hq).1
    exact ⟨hconfines.effectiveRoles hu, hconfines.effectivePermissions hu⟩
  · intro i response tokens hreturned hgives
    have hend := hq.told (app.handle_confined (reqs i)) fun e he _ ↦
      log_confinedReads hroles hq e he
    rw [hreturned] at hend
    exact (hend response rfl tokens hgives).showsRoles

end Runs

/-- `alice` logs in, and registers once more. -/
def Sample.twoRequests : Nat → IdentityRequest
  | 0 => signIn
  | _ => { signIn with path := "/api/v1/auth/register" }

/-- Both requests by turns, for long enough. -/
def Sample.twoAnswers : HttpServer Nat :=
  (app.start twoRequests staffed).play (exec env) World.pass
    (List.replicate 20 [.act 0, .act 1]).flatten

/-- The login is answered, and `alice` is a supervisor before and after. -/
theorem http_keeps_privileges_twice :
    Sample.twoAnswers.hasReturned 0 = true ∧ Sample.twoAnswers.hasReturned 1 = true ∧
      Sample.twoAnswers.world.rbac.effectiveRoles "alice" = ["supervisor", "teller"] := by
  refine ⟨by decide +kernel, by decide +kernel, ?_⟩
  have hkeeps := http_keeps_privileges Sample.app Sample.twoRequests Sample.staffed (fun _ _ ↦ rfl)
    (Pool.reaches_play_any _ (List.replicate 20 [.act 0, .act 1]).flatten)
  exact (hkeeps.1 Sample.alice List.mem_cons_self).1.trans (by decide +kernel)

end Bankos
