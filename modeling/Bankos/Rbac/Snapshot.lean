import Bankos.Rbac.Permissions
import Bankos.Rbac.Services

/-!
# The claims of a token and the state of the role tables

A login and a refresh read the role tables in several calls before they sign: the roles of the user,
all roles twice, and the permissions of each effective role. The calls form no transaction, so the
claims need not show one state of the tables. They do whenever some state during the run would have
answered every one of these reads alike.
-/

namespace Bankos

open Js Jwt Effects Storage Prog DatabaseMapper

/-! ### What the claims say -/

/-- The claims are about the user: the subject is its id, or a text of the UUID that it is. -/
def Jwt.Claims.IsFor (env : Env) (claims : Claims) (userId : String) : Prop :=
  claims.sub = .str userId ∨ uuidArgument env claims.sub = .ok userId

/-- The roles are the effective roles of the user in `t`, and the permissions are those that some
of these roles has there. -/
def Jwt.Claims.Shows (claims : Claims) (t : RbacTables) (userId : String) : Prop :=
  ∃ roles permissions, claims.roles = .strings roles ∧ claims.permissions = .strings permissions ∧
    (∀ name, name ∈ roles ↔ name ∈ t.effectiveRoles userId) ∧
    ∀ permission, permission ∈ permissions ↔
      ∃ r ∈ t.roles, r.name ∈ roles ∧ permission ∈ t.permissionsOf r.id

/-- Both tokens are about one user and show its roles and permissions in `t`. -/
def LoginResponse.Shows (env : Env) (t : RbacTables) (tokens : LoginResponse) : Prop :=
  ∃ userId, ∀ token ∈ [tokens.accessToken, tokens.refreshToken],
    ∃ claims, JwtTokenService.decode token = some claims ∧ claims.IsFor env userId ∧
      claims.Shows t userId

/-- The effective permissions of a user are those of its effective roles. -/
theorem RbacTables.mem_effectivePermissions_iff {t : RbacTables} {userId permission : String} :
    permission ∈ t.effectivePermissions userId ↔
      ∃ r ∈ t.roles, r.name ∈ t.effectiveRoles userId ∧ permission ∈ t.permissionsOf r.id := by
  rw [mem_effectivePermissions]
  unfold effectiveRoles
  constructor
  · rintro ⟨ur, hur, huser, r, hr, hid, s, hs, hrs, hp⟩
    refine ⟨s, hs, mem_resolved.mpr ⟨r, hr, ?_, s, hrs, rfl⟩, mem_permissionsOf.mpr hp⟩
    exact mem_directRoles.mpr ⟨ur, hur, huser, r, hr, hid, rfl⟩
  · rintro ⟨s, hs, hresolved, hp⟩
    obtain ⟨r, hr, hlisted, s', hrs, hname⟩ := mem_resolved.mp hresolved
    have hsame : s' = s := RoleTable.eq_of_name (mem_of_inherits hr hrs) hs hname
    subst hsame
    obtain ⟨ur, hur, huser, r', hr', hid, hr'name⟩ := mem_directRoles.mp hlisted
    have hsame : r' = r := RoleTable.eq_of_name hr' hr hr'name
    subst hsame
    exact ⟨ur, hur, huser, r', hr', hid, s', hs, hrs, mem_permissionsOf.mp hp⟩

/-! ### Reads that one state would have answered alike -/

/-- What the resolver takes from the answer to a read is what it would take from the tables `t`: the
roles of the user `userId` and no other, the effective roles with their ids, the permissions of a
role. -/
def RbacTables.AgreesWith (t : RbacTables) (userId : String) : (o : RbacOp) → o.Reply → Prop
  | .findUserRoles id, (rows : List RoleRow) =>
    id = userId ∧ rows.map (·.name) = t.directRoles userId
  | .findRoles, (rows : List RoleRow) =>
    PermissionResolver.resolveEffectiveRoles (t.directRoles userId) (rows.map toDomainRole) =
        t.effectiveRoles userId ∧
      ∀ name ∈ t.effectiveRoles userId,
        (PermissionResolver.roleMap (rows.map toDomainRole) name).map (·.id) =
          (PermissionResolver.roleMap t.allRoles name).map (·.id)
  | .findRolePermissions roleId, (rows : List PermissionRow) =>
    rows.map (·.name) = t.permissionsOf roleId

instance (t : RbacTables) (userId : String) :
    (o : RbacOp) → (r : o.Reply) → Decidable (t.AgreesWith userId o r)
  | .findUserRoles id, (rows : List RoleRow) =>
    inferInstanceAs (Decidable (id = userId ∧ rows.map (·.name) = t.directRoles userId))
  | .findRoles, (rows : List RoleRow) =>
    inferInstanceAs (Decidable
      (PermissionResolver.resolveEffectiveRoles (t.directRoles userId) (rows.map toDomainRole) =
          t.effectiveRoles userId ∧
        ∀ name ∈ t.effectiveRoles userId,
          (PermissionResolver.roleMap (rows.map toDomainRole) name).map (·.id) =
            (PermissionResolver.roleMap t.allRoles name).map (·.id)))
  | .findRolePermissions roleId, (rows : List PermissionRow) =>
    inferInstanceAs (Decidable (rows.map (·.name) = t.permissionsOf roleId))

/-- The replies of a run whose reads agree with the tables `t`: besides, a user is found by its id,
and a token is what was signed. -/
def RbacTables.Tells (env : Env) (t : RbacTables) (userId : String) :
    (op : Op) → Except JsError op.Reply → Prop
  | .rbac o, .ok r => t.AgreesWith userId o r
  | .user (.findUniqueById id), .ok (some row) => uuidArgument env id = .ok row.id
  | .jwtSign c, .ok token => ∃ now draws, c.exec env now draws = .ok token
  | _, _ => True

/-- The permissions of the role that a name resolves to. -/
def RbacTables.permissionsNamed (t : RbacTables) (roleName : String) : List String :=
  match PermissionResolver.roleMap t.allRoles roleName with
  | some role => t.permissionsOf role.id
  | none => []

section Told

variable {env : Env} {t : RbacTables} {userId : String}

/-- The roles of a user are told from the state. -/
theorem PrismaUserRepository.findRoles_told (id : String) :
    (findRoles id).Told (t.Tells env userId) fun names ↦
      id = userId ∧ names = t.directRoles userId := by
  apply Told.bind
  apply told_perform
  intro rows h
  exact told_pure h

/-- The resolved roles are the effective ones of the state. -/
theorem AuthorizationEngine.resolveRoles_told :
    (resolveRoles (t.directRoles userId)).Told (t.Tells env userId) fun names ↦
      names = t.effectiveRoles userId := by
  apply Told.bind
  apply Told.bind
  apply told_perform
  intro rows h
  apply told_pure
  exact told_pure h.1

/-- The resolved permissions are the effective ones of the state. -/
theorem AuthorizationEngine.resolvePermissions_told :
    (resolvePermissions (t.directRoles userId)).Told (t.Tells env userId) fun names ↦
      names = t.effectivePermissions userId := by
  apply Told.bind
  apply Told.bind
  apply told_perform
  rintro rows ⟨heffective, hids⟩
  apply told_pure
  rw [PermissionResolver.permissionRoles_eq, heffective]
  apply Told.seq (R := fun perms ↦ perms = (t.effectiveRoles userId).map t.permissionsNamed)
  · apply told_each
    intro name hname
    have hid := hids name hname
    cases hrole : PermissionResolver.roleMap (rows.map toDomainRole) name with
    | none =>
      rw [hrole] at hid
      have hnone : PermissionResolver.roleMap t.allRoles name = none := by simpa using hid.symm
      unfold RbacTables.permissionsNamed
      rw [hnone]
      exact told_pure rfl
    | some role =>
      rw [hrole] at hid
      obtain ⟨role', hrole', hsame⟩ := Option.map_eq_some_iff.mp hid.symm
      unfold RbacTables.permissionsNamed
      rw [hrole']
      dsimp only at hsame ⊢
      rw [hsame]
      apply Told.bind
      apply told_perform
      intro permissions h
      exact told_pure h
  · rintro _ rfl
    exact told_pure rfl

/-- The pair that is minted for a payload carries it. -/
theorem generateTokens_told (payload : Claims) (subject : Value) :
    (generateTokens env payload subject).Told (t.Tells env userId) fun tokens ↦
      ∀ token ∈ [tokens.accessToken, tokens.refreshToken],
        ∃ claims, JwtTokenService.decode token = some claims ∧ claims.sub = subject ∧
          claims.roles = payload.roles ∧ claims.permissions = payload.permissions := by
  have hsign : ∀ use expiresIn, (JwtTokenService.sign env use payload subject expiresIn).Told
      (t.Tells env userId) fun token ↦ ∃ claims, JwtTokenService.decode token = some claims ∧
        claims.sub = subject ∧ claims.roles = payload.roles ∧
        claims.permissions = payload.permissions := by
    intro use expiresIn
    apply told_perform
    rintro token ⟨now, draws, h⟩
    exact ⟨_, Jwt.decode_sign h, rfl, rfl, rfl⟩
  unfold generateTokens
  apply Told.seq (hsign .access _)
  intro accessToken haccess
  apply Told.seq (hsign .refresh _)
  intro refreshToken hrefresh
  apply told_pure
  simpa using ⟨haccess, hrefresh⟩

/-- What a login and a refresh do between the check of the user and the new session: the pair that
comes out shows the state that the reads agree with. -/
theorem mint_told {id : String} {subject : Value}
    {rest : String → LoginResponse → Program LoginResponse}
    (hsubject : subject = .str id ∨ uuidArgument env subject = .ok id)
    (hrest : ∀ sessionId tokens,
      (rest sessionId tokens).Told (t.Tells env userId) fun returned ↦ returned = tokens) :
    (do
      let directRoles ← PrismaUserRepository.findRoles id
      let effectiveRoles ← AuthorizationEngine.resolveRoles directRoles
      let effectivePermissions ← AuthorizationEngine.resolvePermissions directRoles
      let sessionId ← SecureRandomGenerator.generateUUID
      let tokens ←
        generateTokens env (tokenPayload effectiveRoles effectivePermissions sessionId) subject
      rest sessionId tokens).Told (t.Tells env userId) fun tokens ↦ tokens.Shows env t := by
  apply Told.seq (PrismaUserRepository.findRoles_told id)
  rintro _ ⟨rfl, rfl⟩
  apply Told.seq AuthorizationEngine.resolveRoles_told
  rintro _ rfl
  apply Told.seq AuthorizationEngine.resolvePermissions_told
  rintro _ rfl
  apply told_then
  intro sessionId
  apply Told.seq (generateTokens_told _ subject)
  intro tokens htokens
  apply (hrest sessionId tokens).mono
  rintro _ rfl
  refine ⟨id, fun token htoken ↦ ?_⟩
  obtain ⟨claims, hdecode, hsub, hroles, hpermissions⟩ := htokens token htoken
  refine ⟨claims, hdecode, ?_, t.effectiveRoles id, t.effectivePermissions id, hroles,
    hpermissions, fun _ ↦ Iff.rfl, fun _ ↦ RbacTables.mem_effectivePermissions_iff⟩
  unfold Claims.IsFor
  rw [hsub]
  exact hsubject

/-- A new session has a pair of tokens that shows the state. -/
theorem LoginService.openSession_told (request : LoginRequest) (user : User) :
    (openSession env PrismaUserRepository request user).Told (t.Tells env userId) fun tokens ↦
      tokens.Shows env t := by
  apply mint_told (.inl rfl)
  intro sessionId tokens
  apply told_then
  intro expiresAt
  apply told_then
  intro createdAt
  apply told_then
  intro _
  apply told_then
  intro _
  exact told_pure rfl

/-- A login returns a pair that shows the state that its reads agree with. -/
theorem LoginService.execute_told (r : LoginRequest) :
    (execute env PrismaUserRepository r).Told (t.Tells env userId) fun tokens ↦
      tokens.Shows env t := by
  have hrefuse : ∀ hash, (refuse env hash r.passwordRaw).Told (t.Tells env userId) fun tokens ↦
      tokens.Shows env t :=
    fun hash ↦ told_then fun _ ↦ told_throw
  unfold execute
  dsimp only
  split
  · apply told_then
    intro user
    cases user with
    | none => exact hrefuse _
    | some user =>
      dsimp only
      split
      · exact hrefuse _
      · apply told_then
        intro valid
        split
        · apply told_then
          intro user
          apply told_then
          intro _
          exact openSession_told r user
        · apply told_then
          intro _
          exact told_throw
  · exact hrefuse _

/-- A user is found under the id that is asked for. -/
theorem PrismaUserRepository.findById_told (id : Value) :
    (findById id).Told (t.Tells env userId) fun user ↦
      ∀ u, user = some u → uuidArgument env id = .ok u.id := by
  apply Told.bind
  apply told_perform
  intro record h
  apply told_pure
  intro u hu
  cases record with
  | none => cases hu
  | some row =>
    cases hu
    exact h

/-- A rotation returns a pair of tokens that shows the state. -/
theorem RefreshTokenService.rotate_told (subject : Value) (ip ua : String)
    (session : DeviceSession) (user : User) (now : Nat)
    (huser : uuidArgument env subject = .ok user.id) :
    (rotate env PrismaUserRepository subject ip ua session user now).Told (t.Tells env userId)
      fun tokens ↦ tokens.Shows env t := by
  apply told_then
  intro session
  apply told_then
  intro _
  apply mint_told (.inr huser)
  intro sessionId tokens
  apply told_then
  intro _
  apply told_then
  intro _
  exact told_pure rfl

/-- A refresh returns a pair that shows the state that its reads agree with. -/
theorem RefreshTokenService.execute_told (token : Text) (ip ua : String) :
    (execute env PrismaUserRepository token ip ua).Told (t.Tells env userId) fun tokens ↦
      tokens.Shows env t := by
  apply told_then
  intro decoded
  apply told_then
  intro session
  cases session with
  | none => exact told_throw
  | some session =>
    dsimp only [present]
    split
    · apply told_then
      intro _
      apply told_then
      intro _
      exact told_throw
    · split
      · exact told_throw
      · split
        · exact told_throw
        · apply told_then
          intro now
          split
          · exact told_throw
          · apply Told.seq (PrismaUserRepository.findById_told decoded.sub)
            intro user huser
            cases user with
            | none => exact told_throw
            | some user =>
              dsimp only
              split
              · exact told_throw
              · exact rotate_told decoded.sub ip ua session user now (huser user rfl)

/-- An activity that returns tokens returns a pair that shows the state that its reads agree
with. -/
theorem Activity.run_told (act : Activity) :
    (act.run env PrismaUserRepository).Told (t.Tells env userId) fun outcome ↦
      ∀ tokens, outcome = .response (.tokens tokens) → tokens.Shows env t := by
  cases act with
  | request r =>
    apply Told.seq (R := fun response ↦ ∀ tokens, response = .tokens tokens → tokens.Shows env t)
    · cases r with
      | login r =>
        apply Told.seq (LoginService.execute_told r)
        intro tokens hshows
        apply told_pure
        rintro _ ⟨rfl⟩
        exact hshows
      | refresh token ip ua =>
        apply Told.seq (RefreshTokenService.execute_told token ip ua)
        intro tokens hshows
        apply told_pure
        rintro _ ⟨rfl⟩
        exact hshows
      | _ =>
        apply told_then
        intro _
        apply told_pure
        rintro _ ⟨⟩
    · intro response hshows
      apply told_pure
      rintro _ ⟨rfl⟩
      exact hshows _ rfl
  | register r =>
    apply told_then
    intro _
    apply told_pure
    rintro _ ⟨⟩
  | edit e =>
    cases e with
    | _ =>
      apply told_then
      intro _
      apply told_pure
      rintro _ ⟨⟩

/-- What the calls tell a run whose reads agree with `t`. -/
theorem exec_tells (w : World) (op : Op)
    (h : ∀ o, op = .rbac o → t.AgreesWith userId o (o.exec w)) :
    t.Tells env userId op (exec env w op).1 := by
  cases op with
  | rbac o => exact h o rfl
  | user o =>
    cases o with
    | findUniqueById id =>
      simp only [exec, UserOp.exec]
      cases hid : uuidArgument env id with
      | error e => exact trivial
      | ok id' =>
        simp only [Except.map]
        cases hfind : w.users.find fun r ↦ decide (r.id = id') with
        | none => exact trivial
        | some row =>
          have hrow : row.id = id' := by simpa using (Table.find_some hfind).2
          rw [← hrow] at hid
          exact hid
    | _ => exact trivial
  | jwtSign c =>
    simp only [exec]
    cases hsign : c.exec env w.now w.draws with
    | ok token => exact ⟨w.now, w.draws, hsign⟩
    | error e => exact trivial
  | _ => exact trivial

/-- A failed call tells nothing. -/
theorem tells_error (op : Op) (e : JsError) : t.Tells env userId op (.error e) := by
  cases op with
  | user o => cases o <;> exact trivial
  | _ => exact trivial

end Told

/-! ### Runs -/

section Runs

variable {ι : Type} [DecidableEq ι]

/-- If the call reads the role tables, the resolver takes from the answer what it would take from
`t`. -/
def RbacTables.AnswersAs (t : RbacTables) (userId : String) (w : World) : Option Op → Prop
  | some (.rbac o) => t.AgreesWith userId o (o.exec w)
  | _ => True

instance (t : RbacTables) (userId : String) (w : World) :
    (op : Option Op) → Decidable (t.AnswersAs userId w op)
  | some (.rbac o) => inferInstanceAs (Decidable (t.AgreesWith userId o (o.exec w)))
  | none => isTrue trivial
  | some (.user _) => isTrue trivial
  | some (.role _) => isTrue trivial
  | some (.session _) => isTrue trivial
  | some (.resetToken _) => isTrue trivial
  | some (.verificationToken _) => isTrue trivial
  | some (.auditCreate _) => isTrue trivial
  | some (.redis _) => isTrue trivial
  | some (.hasher _) => isTrue trivial
  | some (.system _) => isTrue trivial
  | some (.jwtSign _) => isTrue trivial
  | some (.permission _) => isTrue trivial
  | some (.mail _) => isTrue trivial
  | some (.counter _) => isTrue trivial

/-- The turns in which `i` reads the role tables find there what it would take from `t` as well. -/
def readsAs (t : RbacTables) (userId : String) (i : ι) (q : Identity ι) : ServerTurn ι → Prop
  | .act j => j = i → t.AnswersAs userId q.world (q.pending i)
  | _ => True

instance (t : RbacTables) (userId : String) (i : ι) (q : Identity ι) :
    (turn : ServerTurn ι) → Decidable (readsAs t userId i q turn)
  | .act j => inferInstanceAs (Decidable (j = i → t.AnswersAs userId q.world (q.pending i)))
  | .fail _ _ => isTrue trivial
  | .pass _ => isTrue trivial

variable {env : Env} {acts : ι → Activity} {w : World} {t : RbacTables} {userId : String} {i : ι}
  {q : Identity ι}

/-- The run: what `i` is told agrees with `t`. -/
theorem log_tells
    (hq : Identity.Reaches env (readsAs t userId i)
      (Identity.start env PrismaUserRepository acts w) q) :
    ∀ e ∈ q.log, e.who = i → t.Tells env userId e.op e.reply := by
  apply hq.log_invariant (H := fun j op r ↦ j = i → t.Tells env userId op r)
  · intro e he
    cases he
  · intro q j op next _ ht hj hij
    apply exec_tells
    rintro o rfl
    subst hij
    have hagrees := ht rfl
    rw [Pool.pending_of_rest hj] at hagrees
    exact hagrees
  · intro q j e op next _ _ _ _
    exact tells_error op e

/-- The run: a pair that `i` returns shows the state that its reads agree with. -/
theorem shows_of_readsAs
    (hq : Identity.Reaches env (readsAs t userId i)
      (Identity.start env PrismaUserRepository acts w) q)
    {tokens : LoginResponse} (h : q.Returned i (.response (.tokens tokens))) :
    tokens.Shows env t := by
  have htold : ((acts i).run env PrismaUserRepository).Told (t.Tells env userId) _ :=
    (acts i).run_told
  have hend := hq.told htold (log_tells hq)
  rw [h] at hend
  exact hend _ rfl tokens rfl

/-- The service after the first `n` turns of a schedule. -/
def Identity.after (env : Env) (p : Identity ι) (schedule : List (ServerTurn ι)) (n : Nat) :
    Identity ι :=
  p.play (exec env) World.pass (schedule.take n)

/-- The tokens that `i` returns show one state of the role tables during its run. -/
def ShowsOneState (env : Env) (p : Identity ι) (schedule : List (ServerTurn ι)) (i : ι) : Prop :=
  ∀ tokens, (p.play (exec env) World.pass schedule).Returned i (.response (.tokens tokens)) →
    ∃ n, (p.after env schedule n).InProgress i ∧
      tokens.Shows env (p.after env schedule n).world.rbac

/-- The tokens of a login or of a refresh show one state of the role tables during its run, if at
some moment of the run the tables are such that each of its reads agrees with them. -/
theorem tokens_show_one_state (env : Env) (acts : ι → Activity) (w : World)
    (schedule : List (ServerTurn ι)) (i : ι)
    (h : ∃ n userId,
      ((Identity.start env PrismaUserRepository acts w).after env schedule n).InProgress i ∧
        Pool.Meets (exec env) World.pass
          (readsAs
            ((Identity.start env PrismaUserRepository acts w).after env schedule n).world.rbac
            userId i)
          (Identity.start env PrismaUserRepository acts w) schedule) :
    ShowsOneState env (Identity.start env PrismaUserRepository acts w) schedule i := by
  obtain ⟨n, userId, hprogress, hmeets⟩ := h
  intro tokens hreturned
  exact ⟨n, hprogress, shows_of_readsAs (Pool.reaches_play schedule hmeets) hreturned⟩

end Runs

/-- The deployment in which the permission of supervisors is the only one assigned. -/
def Sample.halfStaffed : World := { staffed with rolePermissions := .single ⟨"r2", "p2"⟩ }

/-- `alice` logs in, supervisors lose their permission, and tellers are given one. -/
def Sample.loginDuringEdits : Nat → Activity
  | 0 => .request (.login login)
  | 1 => .edit (.removePermission "r2" "p2")
  | _ => .edit (.assignPermission "r1" "p1")

/-- The login and the two edits before they start. -/
def Sample.reorganized : Identity Nat :=
  Identity.start env PrismaUserRepository loginDuringEdits halfStaffed

/-- Supervisors lose their permission before the login reads, and tellers are given one before it
signs. -/
def Sample.editsAroundReads : List (ServerTurn Nat) :=
  List.replicate 3 (.act 0) ++ [.act 1] ++ List.replicate 5 (.act 0) ++ [.act 2, .act 2] ++
    List.replicate 8 (.act 0)

/-- All reads of the login see the tables after the first edit. -/
theorem tokens_show_one_state_around :
    ShowsOneState Sample.env Sample.reorganized Sample.editsAroundReads 0 :=
  tokens_show_one_state Sample.env Sample.loginDuringEdits Sample.halfStaffed
    Sample.editsAroundReads 0 ⟨4, "alice", by decide +kernel, by decide +kernel⟩

/-- Both edits take place after the login has read the permissions of supervisors and before it
reads those of tellers. -/
def Sample.editsBetweenReads : List (ServerTurn Nat) :=
  List.replicate 7 (.act 0) ++ [.act 1, .act 2, .act 2] ++ List.replicate 9 (.act 0)

/-- What the login returns then. -/
def Sample.mixedTokens : LoginResponse :=
  match (reorganized.play (exec env) World.pass editsBetweenReads).result 0 with
  | some (.ok (.response (.tokens tokens))) => tokens
  | _ => ⟨.plain "", .plain ""⟩

/-- The tokens of that login carry two permissions that were never assigned together. -/
theorem tokens_mix_states :
    ¬ ShowsOneState Sample.env Sample.reorganized Sample.editsBetweenReads 0 := by
  intro h
  obtain ⟨n, -, userId, hshows⟩ := h Sample.mixedTokens (by decide +kernel)
  obtain ⟨claims, hdecode, -, roles, permissions, -, hpermissions, -, hunion⟩ :=
    hshows Sample.mixedTokens.accessToken (by simp)
  have hclaims : claims = (JwtTokenService.decode Sample.mixedTokens.accessToken).getD {} := by
    rw [hdecode]
    rfl
  have hboth : permissions = ["accounts.close", "accounts.read"] := by
    have hvalue : Value.strings permissions = .strings ["accounts.close", "accounts.read"] := by
      rw [← hpermissions, hclaims]
      decide +kernel
    exact Value.strings_injective hvalue
  have hclose := (hunion "accounts.close").mp (by simp [hboth])
  have hread := (hunion "accounts.read").mp (by simp [hboth])
  have hnever : ∀ n < 20,
      ¬ ((∃ r ∈ (Sample.reorganized.after Sample.env Sample.editsBetweenReads
            n).world.rbac.roles.rows,
          "accounts.close" ∈ (Sample.reorganized.after Sample.env Sample.editsBetweenReads
            n).world.rbac.permissionsOf r.id) ∧
        ∃ r ∈ (Sample.reorganized.after Sample.env Sample.editsBetweenReads
            n).world.rbac.roles.rows,
          "accounts.read" ∈ (Sample.reorganized.after Sample.env Sample.editsBetweenReads
            n).world.rbac.permissionsOf r.id) := by
    decide +kernel
  have hbound : Sample.reorganized.after Sample.env Sample.editsBetweenReads n =
      Sample.reorganized.after Sample.env Sample.editsBetweenReads (min n 19) := by
    unfold Identity.after
    rw [List.take_eq_take_min]
    rfl
  rw [hbound] at hclose hread
  obtain ⟨r, hr, -, hclose⟩ := hclose
  obtain ⟨r', hr', -, hread⟩ := hread
  exact hnever (min n 19) (by omega) ⟨⟨r, hr, hclose⟩, r', hr', hread⟩

end Bankos
