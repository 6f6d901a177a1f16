import Bankos.Rbac.Calls
import Mathlib.Data.List.Induction

/-!
# Registrations that are rejected

A registration writes a user, a user role, a verification token and an audit event, one call after
the other, and undoes none of them. It leaves nothing behind when it is rejected, as long as nothing
goes wrong once the user is written: no call of it fails by itself, and the default role, which it
looks up again, is still there.
-/

namespace Bankos

open Js Jwt Effects Storage Prog

/-! ### What a registration writes, and when -/

/-- How far a registration has come: the id of the user it has created, the identifier it has drawn
and not used yet, and whether a call of it was rejected or found no role since. -/
structure Registration where
  user : Option String := none
  drawn : Option String := none
  broken : Bool := false

/-- The registration after a call that was answered. -/
def Registration.granted (s : Registration) : (op : Op) → op.Reply → Registration
  | .system .randomUUID, id => { s with drawn := some id }
  | .user (.create data), _ => { user := some data.id }
  | .auditCreate _, _ => { s with drawn := none }
  | .role (.findUniqueByName _), none => { s with broken := true }
  | _, _ => s

/-- The calls of a registration: what it writes is about the user it has created, under an
identifier that it has drawn. -/
def Registration.allows (s : Registration) : Op → Prop
  | .user (.create data) => s.user = none ∧ s.drawn = some data.id
  | .user (.count _) => s.user = none
  | .role (.findUniqueByName _) => True
  | .role (.upsertUserRole row) => s.user = some row.userId
  | .verificationToken (.upsert row) => s.user = some row.userId
  | .auditCreate row => s.drawn = some row.id ∧ ∃ u, s.user = some u ∧ row.userId = .str u
  | .hasher (.hash _) => True
  | .system _ => True
  | _ => False

/-- The course of a registration. -/
abbrev registration : Protocol Api JsError where
  Phase := Registration
  allows := Registration.allows
  next s op r :=
    match r with
    | .ok a => s.granted op a
    | .error _ => { s with broken := true }

/-- There is a reason to reject: no user is created, or a call was rejected or found no role. -/
def Registration.Excused (s : Registration) : Prop := s.user = none ∨ s.broken = true

/-- A rejected call is a reason. -/
theorem Registration.excused_broken (s : Registration) :
    Registration.Excused { s with broken := true } := .inr rfl

/-- The audit event of a user is written under an identifier of its own. -/
theorem AuditEventHandler.handle_registers {u : String} {event : DomainEvent}
    (he : event.userId = .str u) {s : Registration} (hs : s.user = some u) :
    Settles registration s (handle event) (fun s' _ ↦ s'.user = some u) Registration.Excused := by
  apply Settles.seq (Q := fun (s' : Registration) id ↦ s'.user = some u ∧ s'.drawn = some id)
  · apply settles_perform trivial
    · intro id
      exact ⟨hs, rfl⟩
    · exact fun _ ↦ s.excused_broken
  · rintro s id ⟨huser, hdrawn⟩
    apply Settles.seq (Q := fun (s' : Registration) _ ↦ s'.user = some u ∧ s'.drawn = some id)
    · apply settles_perform trivial
      · intro now
        exact ⟨huser, hdrawn⟩
      · exact fun _ ↦ s.excused_broken
    · rintro s now ⟨huser, hdrawn⟩
      apply settles_perform
      · exact ⟨hdrawn, u, huser, he⟩
      · intro _
        exact huser
      · exact fun _ ↦ s.excused_broken

/-- The audit events of a created user are written by its registration. -/
theorem dispatch_registers {u : String} {events : List DomainEvent}
    (he : ∀ event ∈ events, event.userId = .str u) {s : Registration} (hs : s.user = some u) :
    Settles registration s (dispatch events) (fun s' _ ↦ s'.user = some u)
      Registration.Excused := by
  apply Settles.seq (Q := fun (s' : Registration) _ ↦ s'.user = some u)
  · apply settles_each (P := registration) fun (s : Registration) ↦ s.user = some u
    · exact hs
    · intro event hevent s hs
      apply settles_each (P := registration) fun (s : Registration) ↦ s.user = some u
      · exact hs
      · intro handler hhandler s hs
        rw [List.mem_singleton.mp hhandler]
        exact AuditEventHandler.handle_registers (he event hevent) hs
  · intro s _ hs
    exact settles_pure hs

namespace RegisterUserService

variable {env : Env} {request : RegisterUserRequest} {s : Registration}

/-- Storing the verification token, and the events of the created user. -/
theorem issueToken_registers {user : User}
    (he : ∀ event ∈ user.domainEvents, event.userId = .str user.id) (hs : s.user = some user.id) :
    Settles registration s (issueToken env request user) (fun _ _ ↦ True)
      Registration.Excused := by
  apply Settles.seq (Q := fun (s' : Registration) _ ↦ s'.user = some user.id)
  · apply settles_perform trivial
    · exact fun _ ↦ hs
    · exact fun _ ↦ s.excused_broken
  · intro s tokenRaw hs
    apply Settles.seq (Q := fun (s' : Registration) _ ↦ s'.user = some user.id)
    · apply settles_perform trivial
      · exact fun _ ↦ hs
      · exact fun _ ↦ s.excused_broken
    · intro s now hs
      apply Settles.seq (Q := fun (s' : Registration) _ ↦ s'.user = some user.id)
      · apply settles_perform hs
        · exact fun _ ↦ hs
        · exact fun _ ↦ s.excused_broken
      · intro s _ hs
        apply Settles.seq (dispatch_registers _ hs)
        · intro s _ hs
          exact settles_pure trivial
        · intro event hevent
          obtain ⟨event', hevent', rfl⟩ := List.mem_map.mp hevent
          exact he event' hevent'

/-- Assigning a role to the created user. -/
theorem assignRole_registers {userId roleName : String} (hs : s.user = some userId) :
    Settles registration s (PrismaUserRepository.assignRole userId roleName)
      (fun s' _ ↦ s'.user = some userId) Registration.Excused := by
  apply Settles.seq (Q := fun (s' : Registration) role ↦
    s'.user = some userId ∧ (role = none → s'.broken = true))
  · apply settles_perform trivial
    · intro role
      cases role with
      | none => exact ⟨hs, fun _ ↦ rfl⟩
      | some role => exact ⟨hs, fun h ↦ by cases h⟩
    · exact fun _ ↦ s.excused_broken
  · rintro s role ⟨hs, hbroken⟩
    cases role with
    | none => exact settles_throw (.inr (hbroken rfl))
    | some role =>
      apply settles_perform hs
      · exact fun _ ↦ hs
      · exact fun _ ↦ s.excused_broken

/-- Creating the user, up to its events. -/
theorem createUser_registers {normalizedEmail : String} {defaultRole : Role}
    (hs : s.user = none) :
    Settles registration s (createUser env request normalizedEmail defaultRole) (fun _ _ ↦ True)
      Registration.Excused := by
  apply Settles.seq (Q := fun (s' : Registration) _ ↦ s'.user = none)
  · apply settles_perform trivial
    · exact fun _ ↦ hs
    · exact fun _ ↦ s.excused_broken
  · intro s passwordHash hs
    apply Settles.seq (Q := fun (s' : Registration) id ↦ s'.user = none ∧ s'.drawn = some id)
    · apply settles_perform trivial
      · exact fun _ ↦ ⟨hs, rfl⟩
      · exact fun _ ↦ s.excused_broken
    · rintro s id ⟨hs, hdrawn⟩
      apply Settles.seq (Q := fun (s' : Registration) _ ↦ s'.user = some id)
      · apply settles_perform
        · exact ⟨hs, hdrawn⟩
        · exact fun _ ↦ rfl
        · exact fun _ ↦ s.excused_broken
      · intro s _ hs
        apply Settles.seq (assignRole_registers hs)
        intro s _ hs
        apply issueToken_registers _ hs
        intro event hevent
        rw [List.mem_singleton.mp hevent]
        rfl

/-- A registration keeps to its course, and has a reason when it throws. -/
theorem execute_registers (env : Env) (request : RegisterUserRequest) :
    Settles registration {} (execute env request) (fun _ _ ↦ True) Registration.Excused := by
  unfold execute
  dsimp only
  split
  · exact settles_throw (.inl rfl)
  · split
    · exact settles_throw (.inl rfl)
    · apply Settles.seq (Q := fun (s : Registration) _ ↦ s.user = none)
      · apply Settles.seq (Q := fun (s : Registration) _ ↦ s.user = none)
        · apply settles_perform rfl
          · exact fun _ ↦ rfl
          · exact fun _ ↦ .inl rfl
        · exact fun _ _ hs ↦ settles_pure hs
      · intro s emailExists hs
        split
        · exact settles_throw (.inl hs)
        · apply Settles.seq (Q := fun (s : Registration) _ ↦ s.user = none)
          · apply Settles.seq (Q := fun (s : Registration) _ ↦ s.user = none)
            · apply settles_perform trivial
              · intro role
                cases role <;> exact hs
              · exact fun _ ↦ .inl hs
            · exact fun _ _ hs ↦ settles_pure hs
          · intro s defaultRole hs
            cases defaultRole with
            | none => exact settles_throw (.inl hs)
            | some defaultRole => exact createUser_registers hs

end RegisterUserService
/-! ### One call -/

/-- The identifiers of the stored roles are UUIDs in canonical form, and no audit event is stored
under an identifier that is still to be drawn. -/
structure World.Settled (env : Env) (w : World) : Prop where
  roles : ∀ r ∈ w.roles, env.parseUuid r.id = some r.id
  audits : ∀ n, w.draws ≤ n → ∀ r ∈ w.auditEvents, r.id ≠ env.uuid n

/-- The world in which a registration goes on: what it has drawn is not used, what it has created
is stored, and it is whole. -/
structure Registration.Fits (env : Env) (w : World) (s : Registration) : Prop where
  drawn : ∀ id, s.drawn = some id → env.parseUuid id = some id ∧ (∃ n < w.draws, id = env.uuid n) ∧
    ∀ r ∈ w.auditEvents, r.id ≠ id
  user : ∀ u, s.user = some u → env.parseUuid u = some u ∧ ∃ r ∈ w.users, r.id = u
  whole : s.user ≠ none → s.broken = false

/-- The role that the call asks for or assigns is stored. -/
def World.HasRoleFor (w : World) : Op → Prop
  | .role (.findUniqueByName name) => ∃ r ∈ w.roles.rows, r.name = name
  | .role (.upsertUserRole row) => ∃ r ∈ w.roles.rows, r.id = row.roleId
  | _ => True

/-- Whether the role is stored can be computed. -/
instance (w : World) : (op : Op) → Decidable (w.HasRoleFor op)
  | .role (.findUniqueByName name) =>
    inferInstanceAs (Decidable (∃ r ∈ w.roles.rows, r.name = name))
  | .role (.upsertUserRole row) =>
    inferInstanceAs (Decidable (∃ r ∈ w.roles.rows, r.id = row.roleId))
  | .role (.findUniqueById _) => isTrue trivial
  | .role (.create _) => isTrue trivial
  | .role (.delete _) => isTrue trivial
  | .role (.deleteUserRole _) => isTrue trivial
  | .role (.upsertRolePermission _) => isTrue trivial
  | .role (.deleteRolePermission _) => isTrue trivial
  | .user _ => isTrue trivial
  | .rbac _ => isTrue trivial
  | .session _ => isTrue trivial
  | .resetToken _ => isTrue trivial
  | .verificationToken _ => isTrue trivial
  | .auditCreate _ => isTrue trivial
  | .redis _ => isTrue trivial
  | .hasher _ => isTrue trivial
  | .system _ => isTrue trivial
  | .jwtSign _ => isTrue trivial
  | .permission _ => isTrue trivial
  | .mail _ => isTrue trivial
  | .counter _ => isTrue trivial

section Step

variable {env : Env} {w : World} {s : Registration}

/-- A rejected call of a registration that has not created its user. -/
theorem Registration.Fits.reject (hs : s.Fits env w) (huser : s.user = none) :
    Registration.Fits env w { s with broken := true } where
  drawn := hs.drawn
  user := hs.user
  whole h := absurd huser h

/-- A call that leaves alone what the registration relies on. -/
theorem Registration.Fits.stay {w' : World} (hs : s.Fits env w) (hdraws : w.draws ≤ w'.draws)
    (haudits : w'.auditEvents = w.auditEvents) (husers : w'.users = w.users) : s.Fits env w' where
  drawn id hid := by
    obtain ⟨hparse, ⟨n, hn, he⟩, hunused⟩ := hs.drawn id hid
    rw [haudits]
    exact ⟨hparse, ⟨n, by omega, he⟩, hunused⟩
  user := by
    rw [husers]
    exact hs.user
  whole := hs.whole

/-- The user is created. -/
theorem Registration.Fits.create (hs : s.Fits env w) {data : UserRow}
    (hop : s.allows (.user (.create data))) :
    Registration.Fits env (exec env w (.user (.create data))).2
      (registration.next s (.user (.create data)) (exec env w (.user (.create data))).1) := by
  obtain ⟨hnone, hdrawn⟩ := hop
  simp only [exec, UserOp.exec]
  cases hi : w.users.insert data with
  | none => exact hs.reject hnone
  | some t =>
    constructor
    · rintro id ⟨⟩
    · rintro u ⟨rfl⟩
      exact ⟨(hs.drawn _ hdrawn).1, data, (Table.mem_insert hi).mpr (.inr rfl), rfl⟩
    · exact fun _ ↦ rfl

/-- The role of the user is assigned, if it is stored. -/
theorem exec_upsertUserRole (hw : w.Settled env) (hs : s.Fits env w) {row : UserRoleRow}
    (hop : s.allows (.role (.upsertUserRole row)))
    (hrole : w.HasRoleFor (.role (.upsertUserRole row))) :
    (exec env w (.role (.upsertUserRole row))).1 = .ok () := by
  obtain ⟨huser, u, hu, hid⟩ := hs.user row.userId hop
  obtain ⟨r, hr, hrid⟩ := hrole
  have hpair : uuidPair env row.userId row.roleId = .ok (row.userId, row.roleId) := by
    have hrparse := hw.roles r hr
    rw [hrid] at hrparse
    simp only [uuidPair, uuidArgument, huser, hrparse]
    rfl
  have hustored : (w.users.find fun u ↦ decide (u.id = row.userId)).isSome = true := by
    rw [Option.isSome_iff_ne_none]
    intro hnone
    simpa [hid] using Table.find_none.mp hnone u hu
  have hrstored : (w.roles.find fun r ↦ decide (r.id = row.roleId)).isSome = true := by
    rw [Option.isSome_iff_ne_none]
    intro hnone
    simpa [hrid] using Table.find_none.mp hnone r hr
  simp only [exec, RoleOp.exec, hpair, World.rbac, hustored, hrstored, Bool.and_self]
  unfold upsertJoin
  split
  · rfl
  · next hnew =>
    have hi : (w.userRoles.insert row).isSome := by
      rw [Table.insert_isSome]
      intro r hr
      simp only [UserRoleRow.clash, decide_eq_false_iff_not]
      rintro rfl
      exact hnew hr
    obtain ⟨t, ht⟩ := Option.isSome_iff_exists.mp hi
    simp [ht]

/-- The verification token of the user is stored. -/
theorem exec_upsertToken (hs : s.Fits env w) {row : OneTimeTokenRow}
    (hop : s.allows (.verificationToken (.upsert row))) :
    (exec env w (.verificationToken (.upsert row))).1 = .ok () := by
  obtain ⟨-, u, hu, hid⟩ := hs.user row.userId hop
  simp only [exec, TokenOp.exec]
  cases hfind : w.users.find fun u ↦ decide (u.id = row.userId) with
  | none => simpa [hid] using Table.find_none.mp hfind u hu
  | some u =>
    dsimp only
    cases htoken : w.emailVerificationTokens.find fun r ↦ decide (r.token = row.token) with
    | some r => rfl
    | none =>
      have hi : (w.emailVerificationTokens.insert row).isSome := by
        rw [Table.insert_isSome]
        intro r hr
        simpa [OneTimeTokenRow.clash] using Table.find_none.mp htoken r hr
      obtain ⟨t, ht⟩ := Option.isSome_iff_exists.mp hi
      simp [ht]

/-- The audit event of the user is stored. -/
theorem exec_auditCreate (hs : s.Fits env w) {row : AuditEventRow}
    (hop : s.allows (.auditCreate row)) :
    ∃ t, w.auditEvents.insert row = some t ∧
      exec env w (.auditCreate row) = (.ok (), { w with auditEvents := t }) := by
  obtain ⟨hdrawn, u, hu, hrow⟩ := hop
  have hi : (w.auditEvents.insert row).isSome := by
    rw [Table.insert_isSome]
    intro r hr
    simpa [AuditEventRow.clash] using (hs.drawn _ hdrawn).2.2 r hr
  obtain ⟨t, ht⟩ := Option.isSome_iff_exists.mp hi
  have huserId : auditUserId env row.userId = .ok () := by
    simp only [hrow, auditUserId, uuidArgument, (hs.user u hu).1]
    rfl
  refine ⟨t, ht, ?_⟩
  simp only [exec, AuditEventRow.exec, huserId, ht]

/-- A call that leaves roles and audit events alone. -/
theorem World.Settled.stay {w' : World} (hw : w.Settled env) (hdraws : w.draws ≤ w'.draws)
    (haudits : w'.auditEvents = w.auditEvents) (hroles : w'.roles = w.roles) :
    w'.Settled env where
  roles := by
    rw [hroles]
    exact hw.roles
  audits n hn := by
    rw [haudits]
    exact hw.audits n (by omega)

/-- The role that a registration looks up is stored, or its user has not been created. -/
theorem Registration.Fits.findRole (hs : s.Fits env w) {name : String}
    (hrole : s.user ≠ none → w.HasRoleFor (.role (.findUniqueByName name))) :
    Registration.Fits env (exec env w (.role (.findUniqueByName name))).2
      (registration.next s (.role (.findUniqueByName name))
        (exec env w (.role (.findUniqueByName name))).1) := by
  cases hfind : w.roles.find fun r ↦ decide (r.name = name) with
  | some r =>
    simp only [exec, RoleOp.exec, World.rbac, hfind]
    exact hs.stay (Nat.le_refl _) rfl rfl
  | none =>
    by_cases huser : s.user = none
    · simp only [exec, RoleOp.exec, World.rbac, hfind]
      exact hs.reject huser
    · obtain ⟨r, hr, hname⟩ := hrole huser
      simpa [hname] using Table.find_none.mp hfind r hr

/-- The identifier of an audit event is not drawn again. -/
theorem World.Settled.audit (hw : w.Settled env) (hs : s.Fits env w) {row : AuditEventRow}
    (hop : s.allows (.auditCreate row)) {t : AuditEventTable}
    (ht : w.auditEvents.insert row = some t) : World.Settled env { w with auditEvents := t } where
  roles := hw.roles
  audits n hn r hr := by
    rcases (Table.mem_insert ht).mp hr with hr | rfl
    · exact hw.audits n hn r hr
    · obtain ⟨-, ⟨m, hm, hid⟩, -⟩ := hs.drawn _ hop.1
      intro heq
      have hmn : m = n := env.uuid_injective (hid.symm.trans heq)
      dsimp only at hn
      omega

/-- An identifier is drawn that no audit event has. -/
theorem Registration.Fits.draw (hw : w.Settled env) (hs : s.Fits env w) :
    Registration.Fits env { w with draws := w.draws + 1 }
      { s with drawn := some (env.uuid w.draws) } where
  drawn := by
    rintro id ⟨rfl⟩
    refine ⟨env.parseUuid_uuid _, ⟨w.draws, Nat.lt_succ_self _, rfl⟩, ?_⟩
    exact hw.audits w.draws (Nat.le_refl _)
  user := hs.user
  whole := hs.whole

/-- A call of a registration keeps what it relies on, as long as the roles that it needs are stored
once its user is. -/
theorem Registration.Fits.exec (hw : w.Settled env) (hs : s.Fits env w) {op : Op}
    (hop : s.allows op) (hrole : s.user ≠ none → w.HasRoleFor op) :
    (Bankos.exec env w op).2.Settled env ∧
      Registration.Fits env (Bankos.exec env w op).2
        (registration.next s op (Bankos.exec env w op).1) := by
  cases op with
  | user o =>
    refine ⟨hw.stay (Nat.le_refl _) rfl rfl, ?_⟩
    cases o with
    | create data => exact hs.create hop
    | count email => exact hs.stay (Nat.le_refl _) rfl rfl
    | _ => exact hop.elim
  | role o =>
    cases o with
    | findUniqueByName name => exact ⟨hw.stay (Nat.le_refl _) rfl rfl, hs.findRole hrole⟩
    | upsertUserRole row =>
      have hroles : (Bankos.exec env w (.role (.upsertUserRole row))).2.roles = w.roles :=
        exec_roles env w (by simp [Op.area]) (by simp [Op.area])
      refine ⟨hw.stay (Nat.le_refl _) rfl hroles, ?_⟩
      have huser : s.user = some row.userId := hop
      rw [exec_upsertUserRole hw hs hop (hrole (by simp [huser]))]
      exact hs.stay (Nat.le_refl _) rfl rfl
    | _ => exact hop.elim
  | verificationToken o =>
    refine ⟨hw.stay (Nat.le_refl _) rfl rfl, ?_⟩
    cases o with
    | upsert row =>
      rw [exec_upsertToken hs hop]
      exact hs.stay (Nat.le_refl _) rfl rfl
    | _ => exact hop.elim
  | auditCreate row =>
    obtain ⟨t, ht, he⟩ := exec_auditCreate hs hop
    rw [he]
    refine ⟨hw.audit hs hop ht, ?_⟩
    constructor
    · rintro id ⟨⟩
    · exact hs.user
    · exact hs.whole
  | hasher o =>
    cases o with
    | hash password =>
      exact ⟨hw.stay (Nat.le_succ _) rfl rfl, hs.stay (Nat.le_succ _) rfl rfl⟩
    | verify pchstr plaintext => exact hop.elim
  | system o =>
    cases o with
    | randomUUID => exact ⟨hw.stay (Nat.le_succ _) rfl rfl, hs.draw hw⟩
    | dateNow => exact ⟨hw.stay (Nat.le_refl _) rfl rfl, hs.stay (Nat.le_refl _) rfl rfl⟩
    | randomBytes length =>
      exact ⟨hw.stay (Nat.le_succ _) rfl rfl, hs.stay (Nat.le_succ _) rfl rfl⟩
  | _ => exact hop.elim

/-- The deletion of a role keeps what a registration relies on. -/
theorem World.Settled.deleteRole (hw : w.Settled env) (id : String) :
    (exec env w (.role (.delete id))).2.Settled env where
  roles := by
    simp only [exec, RoleOp.exec]
    intro r' hr'
    cases hid : uuidArgument env (.str id) with
    | error e =>
      rw [hid] at hr'
      exact hw.roles r' hr'
    | ok id' =>
      rw [hid] at hr'
      dsimp only at hr'
      cases hfind : w.rbac.roles.find fun r ↦ decide (r.id = id') with
      | none =>
        rw [hfind] at hr'
        exact hw.roles r' hr'
      | some _ =>
        rw [hfind] at hr'
        obtain ⟨r, hr, -, rfl⟩ := RoleTable.mem_delete.mp hr'
        rw [(RoleRow.orphan_keys id' r).1]
        exact hw.roles r hr
  audits := hw.audits

end Step

/-! ### Runs -/

/-- The call has created a user. -/
def Op.createdUser : (op : Op) → Except JsError op.Reply → Bool
  | .user (.create _), .ok _ => true
  | _, _ => false

section Runs

variable {ι : Type} [DecidableEq ι]

/-- The activity `i` has created a user. -/
def Identity.hasCreatedUser (q : Identity ι) (i : ι) : Bool :=
  q.log.any fun e ↦ decide (e.who = i) && e.op.createdUser e.reply

/-- Of the rows that the calls of `i` have created, none is stored. -/
structure Identity.LeftNothing (q : Identity ι) (i : ι) : Prop where
  user : ∀ data, (⟨i, .user (.create data), .ok ()⟩ : Entry Api JsError ι) ∈ q.log →
    ∀ r ∈ q.world.users, r.id ≠ data.id
  userRole : ∀ row, (⟨i, .role (.upsertUserRole row), .ok ()⟩ : Entry Api JsError ι) ∈ q.log →
    ∀ r ∈ q.world.userRoles, r.userId ≠ row.userId
  token : ∀ row, (⟨i, .verificationToken (.upsert row), .ok ()⟩ : Entry Api JsError ι) ∈ q.log →
    ∀ r ∈ q.world.emailVerificationTokens, r.token ≠ row.token

/-- Once `i` has created a user, no call of it fails by itself, and it finds and assigns only roles
that are stored. -/
def keepsDefaultRole (i : ι) (q : Identity ι) : ServerTurn ι → Prop
  | .act j => j = i → q.hasCreatedUser i = true → ∀ op ∈ q.pending i, q.world.HasRoleFor op
  | .fail j _ => j = i → q.hasCreatedUser i = false
  | .pass _ => True

/-- Whether a turn meets the condition can be computed. -/
instance (i : ι) (q : Identity ι) : (t : ServerTurn ι) → Decidable (keepsDefaultRole i q t)
  | .act j => inferInstanceAs (Decidable
      (j = i → q.hasCreatedUser i = true → ∀ op ∈ q.pending i, q.world.HasRoleFor op))
  | .fail j _ => inferInstanceAs (Decidable (j = i → q.hasCreatedUser i = false))
  | .pass _ => isTrue trivial

/-- A reply changes the user of a registration only if it creates one. -/
theorem Registration.user_next (s : Registration) (op : Op) (r : Except JsError op.Reply) :
    (registration.next s op r).user ≠ none ↔ s.user ≠ none ∨ op.createdUser r = true := by
  have hsame : ∀ s' : Registration, s'.user = s.user → op.createdUser r = false →
      (s'.user ≠ none ↔ s.user ≠ none ∨ op.createdUser r = true) := by
    intro s' hs' hr
    rw [hs', hr]
    simp
  cases r with
  | error e =>
    apply hsame _ rfl
    cases op with
    | user o => cases o <;> rfl
    | _ => rfl
  | ok a =>
    cases op with
    | user o =>
      cases o with
      | create data => simp [Op.createdUser, granted]
      | _ => exact hsame _ rfl rfl
    | role o =>
      cases o with
      | findUniqueByName name =>
        cases a with
        | none => exact hsame _ rfl rfl
        | some r => exact hsame _ rfl rfl
      | _ => exact hsame _ rfl rfl
    | system o => cases o <;> exact hsame _ rfl rfl
    | _ => exact hsame _ rfl rfl

/-- The log tells whether a registration has created its user. -/
theorem user_phase (log : List (Entry Api JsError ι)) (i : ι) :
    (Pool.phase registration {} log i).user ≠ none ↔
      (log.any fun e ↦ decide (e.who = i) && e.op.createdUser e.reply) = true := by
  induction log using List.reverseRecOn with
  | nil => simp [Pool.phase]
  | append_singleton log e ih =>
    rw [Pool.phase_append, List.any_append]
    by_cases hi : e.who = i
    · rw [if_pos hi, Registration.user_next, ih]
      simp [hi]
    · rw [if_neg hi, ih]
      simp [hi]

end Runs

section Runs

variable {ι : Type} {env : Env} {acts : ι → Activity} {r : RegisterUserRequest} {i : ι} {w : World}
  {q : Identity ι}

/-- The registration `i` keeps to its course. -/
theorem run_registers (hi : acts i = .register r) :
    ((acts i).run env PrismaUserRepository).Obeys registration {} fun s outcome ↦
      ∀ e, outcome = .error e → Registration.Excused s := by
  rw [hi]
  have hsettles : Settles registration {} ((Activity.register r).run env PrismaUserRepository)
      (fun _ _ ↦ True) Registration.Excused := by
    apply Settles.seq (RegisterUserService.execute_registers env r)
    intro _ _ _
    exact settles_pure trivial
  apply Obeys.mono hsettles
  rintro s outcome h e rfl
  exact h

/-- The deletion of a role is one call. -/
theorem deleteRole_uses (env : Env) (users : IUserRepository) (id : String) :
    ((Activity.edit (.deleteRole id)).run env users).Uses fun op ↦ op = Op.role (.delete id) :=
  uses_bind (uses_perform rfl) fun _ ↦ trivial

variable [DecidableEq ι]

/-- The run: the registration `i` finds what it relies on, next to deletions of roles. -/
theorem registration_fits (hi : acts i = .register r)
    (hothers : ∀ j, j ≠ i → ∃ id, acts j = .edit (.deleteRole id)) (hw : w.Settled env)
    (hq : Identity.Reaches env (keepsDefaultRole i)
      (Identity.start env PrismaUserRepository acts w) q) :
    q.world.Settled env ∧ (Pool.phase registration {} q.log i).Fits env q.world := by
  have hempty : Registration.Fits env w {} := by
    constructor
    · rintro _ ⟨⟩
    · rintro _ ⟨⟩
    · intro h
      exact absurd rfl h
  apply hq.invariant (J := fun q : Identity ι ↦ q.world.Settled env ∧
    Registration.Fits env q.world (Pool.phase registration {} q.log i))
  · exact ⟨hw, hempty⟩
  · rintro q j op next hreach ⟨hsettled, hfits⟩ hok hj
    rw [Pool.phase_record]
    by_cases hij : j = i
    · subst hij
      rw [Function.update_self]
      apply hfits.exec hsettled
      · exact hreach.allows (run_registers hi) hj
      · intro huser
        exact hok rfl ((user_phase q.log j).mp huser) op (Pool.pending_of_rest hj)
    · rw [Function.update_of_ne (Ne.symm hij)]
      obtain ⟨id, hid⟩ := hothers j hij
      have hop : op = .role (.delete id) := by
        apply hreach.uses_call _ hj
        rw [hid]
        exact deleteRole_uses env PrismaUserRepository id
      subst hop
      exact ⟨hsettled.deleteRole id, hfits.stay (Nat.le_refl _) rfl rfl⟩
  · rintro q j e op next - ⟨hsettled, hfits⟩ hok -
    rw [Pool.phase_record]
    refine ⟨hsettled, ?_⟩
    by_cases hij : j = i
    · subst hij
      rw [Function.update_self]
      apply hfits.reject
      by_contra huser
      have hcreated : Identity.hasCreatedUser q j = true := (user_phase q.log j).mp huser
      rw [hok rfl] at hcreated
      cases hcreated
    · rw [Function.update_of_ne (Ne.symm hij)]
      exact hfits
  · rintro q t ⟨hsettled, hfits⟩ -
    exact ⟨⟨hsettled.roles, hsettled.audits⟩, hfits.stay (Nat.le_refl _) rfl rfl⟩

/-- The call writes a row about the user that its registration has created. -/
def Op.aboutCreatedUser : Op → Prop
  | .role (.upsertUserRole _) => True
  | .verificationToken (.upsert _) => True
  | _ => False

/-- A row about the created user is allowed only once the user is created. -/
theorem Registration.user_of_allows {s : Registration} {op : Op} (hop : s.allows op)
    (h : op.aboutCreatedUser) : s.user ≠ none := by
  cases op with
  | role o =>
    cases o with
    | upsertUserRole row =>
      rw [show s.user = some row.userId from hop]
      simp
    | _ => exact h.elim
  | verificationToken o =>
    cases o with
    | upsert row =>
      rw [show s.user = some row.userId from hop]
      simp
    | _ => exact h.elim
  | _ => exact h.elim

/-- The run: a registration writes about its user only after it has created it. -/
theorem user_before_writes (hi : acts i = .register r) {ok : Identity ι → ServerTurn ι → Prop}
    (hq : Identity.Reaches env ok (Identity.start env PrismaUserRepository acts w) q) :
    ∀ e ∈ q.log, e.who = i → e.op.aboutCreatedUser →
      (Pool.phase registration {} q.log i).user ≠ none := by
  have hrecord : ∀ (q : Identity ι) j op (reply : Except JsError op.Reply) next w',
      Identity.Reaches env ok (Identity.start env PrismaUserRepository acts w) q →
      (∀ e ∈ q.log, e.who = i → e.op.aboutCreatedUser →
        (Pool.phase registration {} q.log i).user ≠ none) →
      q.rest j = .call op next →
      ∀ e ∈ (q.record j op reply next w').log, e.who = i → e.op.aboutCreatedUser →
        (Pool.phase registration {} (q.record j op reply next w').log i).user ≠ none := by
    intro q j op reply next w' hreach hJ hj e he hei hwrites
    rw [Pool.phase_record]
    by_cases hij : i = j
    · subst hij
      rw [Function.update_self, Registration.user_next]
      left
      rcases List.mem_append.mp he with he | he
      · exact hJ e he hei hwrites
      · rw [List.mem_singleton.mp he] at hwrites
        exact Registration.user_of_allows (hreach.allows (run_registers hi) hj) hwrites
    · rw [Function.update_of_ne hij]
      rcases List.mem_append.mp he with he | he
      · exact hJ e he hei hwrites
      · rw [List.mem_singleton.mp he] at hei
        exact absurd hei.symm hij
  apply hq.invariant (J := fun q : Identity ι ↦ ∀ e ∈ q.log, e.who = i → e.op.aboutCreatedUser →
    (Pool.phase registration {} q.log i).user ≠ none)
  · intro e he
    cases he
  · exact fun q j op next hreach hJ _ hj ↦ hrecord q j op _ next _ hreach hJ hj
  · exact fun q j e op next hreach hJ _ hj ↦ hrecord q j op _ next _ hreach hJ hj
  · exact fun q t hJ _ ↦ hJ

/-- A registration that is rejected leaves nothing behind, next to deletions of roles, if none of
its calls fails by itself once its user is created and the roles that it then looks up and assigns
are stored. -/
theorem rejected_registration_leaves_nothing (env : Env) (acts : ι → Activity) (i : ι)
    (r : RegisterUserRequest) (hi : acts i = .register r)
    (hothers : ∀ j, j ≠ i → ∃ id, acts j = .edit (.deleteRole id)) (w : World)
    (hw : w.Settled env) (q : Identity ι)
    (hq : Identity.Reaches env (keepsDefaultRole i)
      (Identity.start env PrismaUserRepository acts w) q) (e : JsError)
    (he : q.result i = some (.error e)) : q.LeftNothing i := by
  have hrest : q.rest i = .done (.error e) := by
    unfold Pool.result at he
    split at he
    · next result hdone =>
      rw [hdone, Option.some.inj he]
    · cases he
  have hfits := (registration_fits hi hothers hw hq).2
  have hnone : (Pool.phase registration {} q.log i).user = none := by
    by_contra huser
    rcases hq.post_of_done (run_registers hi) hrest e rfl with h | h
    · exact huser h
    · rw [hfits.whole huser] at h
      cases h
  have hcreated : ¬ q.hasCreatedUser i = true := by
    intro h
    exact (user_phase q.log i).mpr h hnone
  have hwrites := user_before_writes hi hq
  constructor
  · intro data hentry
    refine absurd ?_ hcreated
    unfold Identity.hasCreatedUser
    rw [List.any_eq_true]
    exact ⟨_, hentry, by simp [Op.createdUser]⟩
  · intro row hentry
    exact absurd hnone (hwrites _ hentry rfl trivial)
  · intro row hentry
    exact absurd hnone (hwrites _ hentry rfl trivial)

end Runs

/-- The deployment with the default role. -/
def Sample.opened : World := { registered with roles := .single ⟨"r0", "user", none, true, none⟩ }

/-- `bob` registers, and the default role is deleted. -/
def Sample.registerAndDelete : Nat → Activity
  | 0 => .register ⟨"bob@bank.example", "Correct-horse-2", "10.0.0.2", "browser"⟩
  | _ => .edit (.deleteRole "r0")

/-- The registration and the deletion before they start. -/
def Sample.registration : Identity Nat :=
  Identity.start env PrismaUserRepository registerAndDelete opened

/-- The role is deleted before the registration looks it up. -/
def Sample.deleteThenRegister : List (ServerTurn Nat) := [.act 1, .act 0, .act 0]

/-- The registration that does not find the default role. -/
theorem rejected_registration_leaves_nothing_noRole :
    Identity.LeftNothing (Sample.registration.play (exec Sample.env) World.pass
      Sample.deleteThenRegister) 0 :=
  rejected_registration_leaves_nothing Sample.env Sample.registerAndDelete 0
    ⟨"bob@bank.example", "Correct-horse-2", "10.0.0.2", "browser"⟩ rfl
    (fun
      | 0, h => absurd rfl h
      | _ + 1, _ => ⟨"r0", rfl⟩) Sample.opened
    ⟨fun _ _ ↦ rfl, fun _ _ _ h ↦ absurd h List.not_mem_nil⟩ _
    (Pool.reaches_play Sample.deleteThenRegister (by decide +kernel))
    (.domainError "Default role not found") (by decide +kernel)

/-- The role is deleted after the registration has created its user. -/
def Sample.deleteDuringRegister : List (ServerTurn Nat) :=
  List.replicate 5 (.act 0) ++ [.act 1, .act 0]

/-- A user that a call has created is stored. -/
def Identity.keepsUser {ι : Type} [DecidableEq ι] (q : Identity ι) (i : ι) : Bool :=
  q.log.any fun e ↦ decide (e.who = i) &&
    match e.op, e.reply with
    | .user (.create data), .ok _ => q.world.users.rows.any fun r ↦ decide (r.id = data.id)
    | _, _ => false

/-- A run that keeps a user has not left nothing. -/
theorem Identity.not_leftNothing {ι : Type} [DecidableEq ι] {q : Identity ι} {i : ι}
    (h : q.keepsUser i = true) : ¬ q.LeftNothing i := by
  intro hleft
  obtain ⟨⟨who, op, reply⟩, he, hkeeps⟩ := List.any_eq_true.mp h
  simp only [Bool.and_eq_true, decide_eq_true_eq] at hkeeps
  obtain ⟨rfl, hkeeps⟩ := hkeeps
  split at hkeeps
  · obtain ⟨r, hr, hid⟩ := List.any_eq_true.mp hkeeps
    exact hleft.user _ he r hr (by simpa using hid)
  · cases hkeeps

/-- A registration that is rejected can leave its user behind. -/
theorem rejected_registration_leaves_user :
    ¬ ∀ q, Identity.Reaches Sample.env (fun _ _ ↦ True) Sample.registration q →
      ∀ e, q.result 0 = some (.error e) → q.LeftNothing 0 := by
  intro h
  apply Identity.not_leftNothing (i := 0)
    (q := Sample.registration.play (exec Sample.env) World.pass Sample.deleteDuringRegister)
  · decide +kernel
  · exact h _ (Pool.reaches_play_any _ _) (.error "Role user not found") (by decide +kernel)

end Bankos
