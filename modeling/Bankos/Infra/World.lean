import Bankos.Base.Disturbances
import Bankos.Base.Pool
import Bankos.Base.Table
import Bankos.Infra.Env

/-!
# The world of the services

The tables of `identity/prisma/schema.prisma`, the Redis keys, the clock and the random
generator, with the calls that the repositories and the infrastructure make on them. A call
is one atomic step; `exec` says what it answers and how it changes the world.
Columns that no service reads are left out.
-/

namespace Bankos

open Js Jwt Effects Storage

/-! ### Rows -/

/-- `model User`. -/
structure UserRow where
  id : String
  email : String
  passwordHash : String
  isLocked : Bool
  failedLoginAttempts : Int
  emailVerified : Bool
  deriving DecidableEq, Repr

/-- The columns that `user.update` writes. -/
structure UserData where
  passwordHash : String
  isLocked : Bool
  failedLoginAttempts : Int
  emailVerified : Bool
  deriving DecidableEq, Repr

/-- `model Role`. -/
structure RoleRow where
  id : String
  name : String
  description : Option String
  systemRole : Bool
  parentId : Option String
  deriving DecidableEq, Repr

/-- `model Permission`. -/
structure PermissionRow where
  id : String
  name : String
  resource : String
  action : String
  description : String
  deriving DecidableEq, Repr

/-- `model UserRole`. -/
structure UserRoleRow where
  userId : String
  roleId : String
  deriving DecidableEq, Repr

/-- `model RolePermission`. -/
structure RolePermissionRow where
  roleId : String
  permissionId : String
  deriving DecidableEq, Repr

/-- `model DeviceSession`. -/
structure DeviceSessionRow where
  id : String
  userId : String
  refreshToken : Text
  ipAddress : String
  userAgent : String
  isRevoked : Bool
  expiresAt : Nat
  createdAt : Nat
  deriving DecidableEq, Repr

/-- `model PasswordResetToken` and `model EmailVerificationToken`; their own ids are not read. -/
structure OneTimeTokenRow where
  token : Text
  userId : String
  isUsed : Bool
  expiresAt : Nat
  deriving DecidableEq, Repr

/-- `model AuditEvent`. -/
structure AuditEventRow where
  id : String
  eventType : String
  userId : Value
  payload : List (String × String)
  ipAddress : String
  userAgent : String
  timestamp : Nat
  deriving DecidableEq, Repr

/-! ### Unique constraints -/

/-- `@id` and `@unique` of `User`. -/
def UserRow.clash (r s : UserRow) : Bool := decide (r.id = s.id ∨ r.email = s.email)

/-- `@id` and `@unique` of `Role`. -/
def RoleRow.clash (r s : RoleRow) : Bool := decide (r.id = s.id ∨ r.name = s.name)

/-- `@id`, `@unique` and `@@unique` of `Permission`. -/
def PermissionRow.clash (r s : PermissionRow) : Bool :=
  decide (r.id = s.id ∨ r.name = s.name ∨ r.resource = s.resource ∧ r.action = s.action)

/-- `@@id` of `UserRole`. -/
def UserRoleRow.clash (r s : UserRoleRow) : Bool := decide (r = s)

/-- `@@id` of `RolePermission`. -/
def RolePermissionRow.clash (r s : RolePermissionRow) : Bool := decide (r = s)

/-- `@id` and `@unique` of `DeviceSession`. -/
def DeviceSessionRow.clash (r s : DeviceSessionRow) : Bool :=
  decide (r.id = s.id ∨ r.refreshToken = s.refreshToken)

/-- `@unique` of both one-time tokens. -/
def OneTimeTokenRow.clash (r s : OneTimeTokenRow) : Bool := decide (r.token = s.token)

/-- `@id` of `AuditEvent`. -/
def AuditEventRow.clash (r s : AuditEventRow) : Bool := decide (r.id = s.id)

abbrev UserTable := Table UserRow UserRow.clash
abbrev RoleTable := Table RoleRow RoleRow.clash
abbrev PermissionTable := Table PermissionRow PermissionRow.clash
abbrev UserRoleTable := Table UserRoleRow UserRoleRow.clash
abbrev RolePermissionTable := Table RolePermissionRow RolePermissionRow.clash
abbrev DeviceSessionTable := Table DeviceSessionRow DeviceSessionRow.clash
abbrev OneTimeTokenTable := Table OneTimeTokenRow OneTimeTokenRow.clash
abbrev AuditEventTable := Table AuditEventRow AuditEventRow.clash

/-! ### The world -/

/-- A Redis value with the time in milliseconds at which it is gone. -/
structure RedisEntry where
  value : String
  expiresAt : Nat
  deriving DecidableEq, Repr

/-- Which method of `JwtTokenService` signed a token. The token does not say. -/
inductive TokenUse where
  | access
  | refresh
  deriving DecidableEq, Repr

/-- A record of a token that `JwtTokenService.sign` returned. -/
structure Minted where
  use : TokenUse
  token : Text
  deriving DecidableEq, Repr

/-- The two messages of `interfaces/IMailer.ts`. -/
inductive MailKind where
  | passwordReset
  | emailVerification
  deriving DecidableEq, Repr

/-- A message that was sent. -/
structure Mail where
  kind : MailKind
  email : String
  token : String
  deriving DecidableEq, Repr

/-- The counters of `observability/metrics.ts` that the RBAC events increase. -/
inductive Counter where
  | rolesCreatedTotal
  | permissionsCreatedTotal
  | roleAssignmentsTotal
  | permissionDeniedTotal
  deriving DecidableEq, Repr

/-- The stored state. `now` is the clock in milliseconds, `draws` counts the results that the
random generator has given out, `minted` records the tokens signed so far, `outbox` the messages
sent, and `counters` holds the metrics. -/
structure World where
  users : UserTable := .empty
  roles : RoleTable := .empty
  permissions : PermissionTable := .empty
  userRoles : UserRoleTable := .empty
  rolePermissions : RolePermissionTable := .empty
  deviceSessions : DeviceSessionTable := .empty
  passwordResetTokens : OneTimeTokenTable := .empty
  emailVerificationTokens : OneTimeTokenTable := .empty
  auditEvents : AuditEventTable := .empty
  redis : String → Option RedisEntry := fun _ ↦ none
  now : Nat := 0
  draws : Nat := 0
  minted : List Minted := []
  outbox : List Mail := []
  counters : Counter → Nat := fun _ ↦ 0

/-- The tables that say what users may do. -/
structure RbacTables where
  roles : RoleTable
  permissions : PermissionTable
  userRoles : UserRoleTable
  rolePermissions : RolePermissionTable

/-- The tables of roles and permissions of the stored state. -/
def World.rbac (w : World) : RbacTables := ⟨w.roles, w.permissions, w.userRoles, w.rolePermissions⟩

/-- Time goes by. -/
def World.pass (ms : Nat) (w : World) : World := { w with now := w.now + ms }

/-- Two stretches of time are one. -/
theorem World.pass_pass (ms ms' : Nat) (w : World) : (w.pass ms).pass ms' = w.pass (ms + ms') := by
  unfold pass
  rw [Nat.add_assoc]

/-! ### Calls -/

/-- Calls on `prisma.user`. -/
inductive UserOp where
  | findUniqueById (id : Value)
  | findUniqueByEmail (email : String)
  | count (email : String)
  | create (data : UserRow)
  | update (id : String) (data : UserData)

/-- Reads of the role tables. -/
inductive RbacOp where
  | findUserRoles (userId : String)
  | findRoles
  | findRolePermissions (roleId : String)

/-- Lookups by key and writes of `prisma.role`, `prisma.userRole` and `prisma.rolePermission`. -/
inductive RoleOp where
  | findUniqueByName (name : String)
  | findUniqueById (id : String)
  | create (data : RoleRow)
  | delete (id : String)
  | upsertUserRole (row : UserRoleRow)
  | deleteUserRole (row : UserRoleRow)
  | upsertRolePermission (row : RolePermissionRow)
  | deleteRolePermission (row : RolePermissionRow)

/-- Calls on `prisma.permission`. -/
inductive PermissionOp where
  | findUniqueByName (name : String)
  | create (data : PermissionRow)

/-- Calls on `prisma.deviceSession`. -/
inductive SessionOp where
  | findUniqueById (id : Value)
  | findUniqueByRefreshToken (refreshToken : Text)
  | findManyActive (userId : Value)
  | upsert (row : DeviceSessionRow)

/-- Calls on `prisma.passwordResetToken` and on `prisma.emailVerificationToken`. -/
inductive TokenOp where
  | findUnique (token : Text)
  | upsert (row : OneTimeTokenRow)
  | delete (token : Text)

/-- Calls on the Redis client. -/
inductive RedisOp where
  | setEx (key value : String) (ttlSeconds : Rat)
  | existsKey (key : String)

/-- Calls on Argon2. -/
inductive HasherOp where
  | hash (password : String)
  | verify (pchstr plaintext : String)

/-- Calls on the platform. -/
inductive SystemOp where
  | dateNow
  | randomUUID
  | randomBytes (length : Nat)

/-- The arguments of the one call of `jwt.sign`, whose `jwtid` is drawn while they are
evaluated. -/
structure SignCall where
  use : TokenUse
  payload : Claims
  privateKey : String
  keyid : String
  expiresIn : Nat
  issuer : String
  audience : String
  subject : Value

/-- Every call a service can make. -/
inductive Op where
  | user (o : UserOp)
  | rbac (o : RbacOp)
  | role (o : RoleOp)
  | session (o : SessionOp)
  | resetToken (o : TokenOp)
  | verificationToken (o : TokenOp)
  | auditCreate (row : AuditEventRow)
  | redis (o : RedisOp)
  | hasher (o : HasherOp)
  | system (o : SystemOp)
  | jwtSign (c : SignCall)
  | permission (o : PermissionOp)
  | mail (m : Mail)
  | counter (c : Counter)

/-- What a call on `prisma.user` answers. -/
abbrev UserOp.Reply : UserOp → Type
  | findUniqueById _ => Option UserRow
  | findUniqueByEmail _ => Option UserRow
  | count _ => Nat
  | create _ => Unit
  | update _ _ => Unit

/-- What a read of the role tables answers, with the joined rows. -/
abbrev RbacOp.Reply : RbacOp → Type
  | findUserRoles _ => List RoleRow
  | findRoles => List RoleRow
  | findRolePermissions _ => List PermissionRow

/-- What a lookup or a write of the role tables answers. -/
abbrev RoleOp.Reply : RoleOp → Type
  | findUniqueByName _ => Option RoleRow
  | findUniqueById _ => Option RoleRow
  | create _ => Unit
  | delete _ => Unit
  | upsertUserRole _ => Unit
  | deleteUserRole _ => Unit
  | upsertRolePermission _ => Unit
  | deleteRolePermission _ => Unit

/-- What a call on `prisma.permission` answers. -/
abbrev PermissionOp.Reply : PermissionOp → Type
  | findUniqueByName _ => Option PermissionRow
  | create _ => Unit

/-- What a call on `prisma.deviceSession` answers. -/
abbrev SessionOp.Reply : SessionOp → Type
  | findUniqueById _ => Option DeviceSessionRow
  | findUniqueByRefreshToken _ => Option DeviceSessionRow
  | findManyActive _ => List DeviceSessionRow
  | upsert _ => Unit

/-- What a call on a token table answers. -/
abbrev TokenOp.Reply : TokenOp → Type
  | findUnique _ => Option OneTimeTokenRow
  | upsert _ => Unit
  | delete _ => Unit

/-- What the Redis client answers. -/
abbrev RedisOp.Reply : RedisOp → Type
  | setEx _ _ _ => Unit
  | existsKey _ => Nat

/-- What Argon2 answers. -/
abbrev HasherOp.Reply : HasherOp → Type
  | hash _ => String
  | verify _ _ => Bool

/-- What the platform answers. -/
abbrev SystemOp.Reply : SystemOp → Type
  | dateNow => Nat
  | randomUUID => String
  | randomBytes _ => String

/-- What a call answers. -/
abbrev Op.Reply : Op → Type
  | user o => o.Reply
  | rbac o => o.Reply
  | role o => o.Reply
  | session o => o.Reply
  | resetToken o => o.Reply
  | verificationToken o => o.Reply
  | auditCreate _ => Unit
  | redis o => o.Reply
  | hasher o => o.Reply
  | system o => o.Reply
  | jwtSign _ => Text
  | permission o => o.Reply
  | mail _ => Unit
  | counter _ => Unit

/-- The calls of the services. -/
abbrev Api : Interface := ⟨Op, Op.Reply⟩

/-- A piece of a service. -/
abbrev Program := Prog Api JsError

/-! ### Execution -/

/-- A `where` argument for a UUID column: Prisma rejects what is not a string, and the
database what is not a UUID. -/
def uuidArgument (env : Env) : Value → Except JsError String
  | .str s =>
    match env.parseUuid s with
    | some id => .ok id
    | none => .error (.prismaError "P2023")
  | _ => .error (.prismaError "PrismaClientValidationError")

/-- The rewrite of `user.update`. -/
def UserRow.write (id : String) (data : UserData) (r : UserRow) : UserRow :=
  if r.id = id then
    { r with
      passwordHash := data.passwordHash
      isLocked := data.isLocked
      failedLoginAttempts := data.failedLoginAttempts
      emailVerified := data.emailVerified }
  else r

/-- An update leaves the id and the email of every user. -/
theorem UserRow.write_keys (id : String) (data : UserData) (r : UserRow) :
    (r.write id data).id = r.id ∧ (r.write id data).email = r.email := by
  unfold write
  split <;> exact ⟨rfl, rfl⟩

/-- An update cannot make two users clash. -/
theorem UserRow.clash_write (id : String) (data : UserData) (r s : UserRow) :
    UserRow.clash (r.write id data) (s.write id data) = UserRow.clash r s := by
  simp only [clash, write_keys]

/-- The calls on `prisma.user`: `create` rejects a taken id or email, `update` a missing row. -/
def UserOp.exec (env : Env) (t : UserTable) : (o : UserOp) → Except JsError o.Reply × UserTable
  | findUniqueById id =>
    ((uuidArgument env id).map fun id ↦ t.find fun r ↦ decide (r.id = id), t)
  | findUniqueByEmail email => (.ok (t.find fun r ↦ decide (r.email = email)), t)
  | count email => (.ok (t.rows.countP fun r ↦ decide (r.email = email)), t)
  | create data =>
    match t.insert data with
    | some t' => (.ok (), t')
    | none => (.error (.prismaError "P2002"), t)
  | update id data =>
    match t.find fun r ↦ decide (r.id = id) with
    | some _ => (.ok (), t.map (UserRow.write id data) (UserRow.clash_write id data))
    | none => (.error (.prismaError "P2025"), t)

/-- The reads of the role tables. -/
def RbacOp.exec (w : World) : (o : RbacOp) → o.Reply
  | findUserRoles userId =>
    (w.userRoles.rows.filter fun ur ↦ decide (ur.userId = userId)).filterMap fun ur ↦
      w.roles.find fun r ↦ decide (r.id = ur.roleId)
  | findRoles => w.roles.rows
  | findRolePermissions roleId =>
    (w.rolePermissions.rows.filter fun rp ↦ decide (rp.roleId = roleId)).filterMap fun rp ↦
      w.permissions.find fun p ↦ decide (p.id = rp.permissionId)

/-- `onDelete: SetNull` of `Role.parent` when the role with the given id goes. -/
def RoleRow.orphan (id : String) (r : RoleRow) : RoleRow :=
  if r.parentId = some id then { r with parentId := none } else r

/-- Losing its parent leaves the id and the name of a role. -/
theorem RoleRow.orphan_keys (id : String) (r : RoleRow) :
    (r.orphan id).id = r.id ∧ (r.orphan id).name = r.name := by
  unfold orphan
  split <;> exact ⟨rfl, rfl⟩

/-- Losing parents cannot make two roles clash. -/
theorem RoleRow.clash_orphan (id : String) (r s : RoleRow) :
    RoleRow.clash (r.orphan id) (s.orphan id) = RoleRow.clash r s := by
  simp only [clash, orphan_keys]

/-- A nullable UUID column. -/
def nullableUuid (env : Env) : Option String → Except JsError (Option String)
  | none => .ok none
  | some s => (uuidArgument env (.str s)).map some

/-- The foreign key `Role.parentId`. -/
def RoleTable.parentStored (t : RoleTable) : Option String → Bool
  | none => true
  | some id => (t.find fun r ↦ decide (r.id = id)).isSome

/-- `role.create`: the unique constraints are checked before the foreign key, and the new row
itself is among the rows that the foreign key may name. -/
def RoleRow.execCreate (env : Env) (t : RoleTable) (data : RoleRow) :
    Except JsError Unit × RoleTable :=
  match uuidArgument env (.str data.id), nullableUuid env data.parentId with
  | .error e, _ => (.error e, t)
  | _, .error e => (.error e, t)
  | .ok id, .ok parentId =>
    match t.insert { data with id := id, parentId := parentId } with
    | none => (.error (.prismaError "P2002"), t)
    | some t' =>
      if RoleTable.parentStored t' parentId then (.ok (), t')
      else (.error (.prismaError "P2003"), t)

/-- `role.delete` with what its foreign keys do: the rows of the role in the two join tables go as
well, and its children have no parent any more. -/
def RbacTables.deleteRole (t : RbacTables) (id : String) : RbacTables :=
  { t with
    roles := (t.roles.keep fun r ↦ decide (r.id ≠ id)).map (RoleRow.orphan id)
      (RoleRow.clash_orphan id)
    userRoles := t.userRoles.keep fun ur ↦ decide (ur.roleId ≠ id)
    rolePermissions := t.rolePermissions.keep fun rp ↦ decide (rp.roleId ≠ id) }

/-- Both columns of a row of a join table are UUIDs. -/
def uuidPair (env : Env) (a b : String) : Except JsError (String × String) := do
  let a ← uuidArgument env (.str a)
  let b ← uuidArgument env (.str b)
  pure (a, b)

/-- The upsert of a join table, with nothing to update: a row that is there stays, a new one needs
both of its foreign keys. -/
def upsertJoin {Row : Type} [DecidableEq Row] {clash : Row → Row → Bool} (t : Table Row clash)
    (row : Row) (keysStored : Bool) : Except JsError Unit × Table Row clash :=
  if row ∈ t.rows then (.ok (), t)
  else if keysStored then
    match t.insert row with
    | some t' => (.ok (), t')
    | none => (.error (.prismaError "P2002"), t)
  else (.error (.prismaError "P2003"), t)

/-- The deletion from a join table: it rejects a missing row. -/
def deleteJoin {Row : Type} [DecidableEq Row] {clash : Row → Row → Bool} (t : Table Row clash)
    (row : Row) : Except JsError Unit × Table Row clash :=
  if row ∈ t.rows then (.ok (), t.keep fun r ↦ decide (r ≠ row))
  else (.error (.prismaError "P2025"), t)

/-- The lookups by key and the writes of the role tables. -/
def RoleOp.exec (env : Env) (users : UserTable) (t : RbacTables) :
    (o : RoleOp) → Except JsError o.Reply × RbacTables
  | findUniqueByName name => (.ok (t.roles.find fun r ↦ decide (r.name = name)), t)
  | findUniqueById id =>
    ((uuidArgument env (.str id)).map fun id ↦ t.roles.find fun r ↦ decide (r.id = id), t)
  | create data =>
    let r := data.execCreate env t.roles
    (r.1, { t with roles := r.2 })
  | delete id =>
    match uuidArgument env (.str id) with
    | .error e => (.error e, t)
    | .ok id =>
      match t.roles.find fun r ↦ decide (r.id = id) with
      | some _ => (.ok (), t.deleteRole id)
      | none => (.error (.prismaError "P2025"), t)
  | upsertUserRole row =>
    match uuidPair env row.userId row.roleId with
    | .error e => (.error e, t)
    | .ok (userId, roleId) =>
      let r := upsertJoin t.userRoles ⟨userId, roleId⟩
        ((users.find fun u ↦ decide (u.id = userId)).isSome &&
          (t.roles.find fun r ↦ decide (r.id = roleId)).isSome)
      (r.1, { t with userRoles := r.2 })
  | deleteUserRole row =>
    match uuidPair env row.userId row.roleId with
    | .error e => (.error e, t)
    | .ok (userId, roleId) =>
      let r := deleteJoin t.userRoles ⟨userId, roleId⟩
      (r.1, { t with userRoles := r.2 })
  | upsertRolePermission row =>
    match uuidPair env row.roleId row.permissionId with
    | .error e => (.error e, t)
    | .ok (roleId, permissionId) =>
      let r := upsertJoin t.rolePermissions ⟨roleId, permissionId⟩
        ((t.roles.find fun r ↦ decide (r.id = roleId)).isSome &&
          (t.permissions.find fun p ↦ decide (p.id = permissionId)).isSome)
      (r.1, { t with rolePermissions := r.2 })
  | deleteRolePermission row =>
    match uuidPair env row.roleId row.permissionId with
    | .error e => (.error e, t)
    | .ok (roleId, permissionId) =>
      let r := deleteJoin t.rolePermissions ⟨roleId, permissionId⟩
      (r.1, { t with rolePermissions := r.2 })

/-- The calls on `prisma.permission`. -/
def PermissionOp.exec (env : Env) (t : PermissionTable) :
    (o : PermissionOp) → Except JsError o.Reply × PermissionTable
  | findUniqueByName name => (.ok (t.find fun r ↦ decide (r.name = name)), t)
  | create data =>
    match uuidArgument env (.str data.id) with
    | .error e => (.error e, t)
    | .ok id =>
      match t.insert { data with id := id } with
      | some t' => (.ok (), t')
      | none => (.error (.prismaError "P2002"), t)

/-- The rewrite of the `update` part of `deviceSession.upsert`. -/
def DeviceSessionRow.write (id : String) (isRevoked : Bool) (r : DeviceSessionRow) :
    DeviceSessionRow :=
  if r.id = id then { r with isRevoked := isRevoked } else r

/-- An update leaves the id and the token hash of every session. -/
theorem DeviceSessionRow.write_keys (id : String) (b : Bool) (r : DeviceSessionRow) :
    (r.write id b).id = r.id ∧ (r.write id b).refreshToken = r.refreshToken := by
  unfold write
  split <;> exact ⟨rfl, rfl⟩

/-- An update cannot make two sessions clash. -/
theorem DeviceSessionRow.clash_write (id : String) (b : Bool) (r s : DeviceSessionRow) :
    DeviceSessionRow.clash (r.write id b) (s.write id b) = DeviceSessionRow.clash r s := by
  simp only [clash, write_keys]

/-- The session is neither revoked nor past its end at the time `now`. -/
def DeviceSessionRow.active (now : Nat) (r : DeviceSessionRow) : Bool :=
  !r.isRevoked && decide (now < r.expiresAt)

/-- The calls on `prisma.deviceSession`. `upsert` writes only `isRevoked` of a row that is
there, and creates a row only for a user that is there. -/
def SessionOp.exec (env : Env) (users : UserTable) (now : Nat) (t : DeviceSessionTable) :
    (o : SessionOp) → Except JsError o.Reply × DeviceSessionTable
  | findUniqueById id =>
    ((uuidArgument env id).map fun id ↦ t.find fun r ↦ decide (r.id = id), t)
  | findUniqueByRefreshToken h => (.ok (t.find fun r ↦ decide (r.refreshToken = h)), t)
  | findManyActive .undefined => (.ok (t.rows.filter (·.active now)), t)
  | findManyActive userId =>
    ((uuidArgument env userId).map fun userId ↦
      t.rows.filter fun r ↦ decide (r.userId = userId) && r.active now, t)
  | upsert row =>
    match t.find fun r ↦ decide (r.id = row.id) with
    | some _ =>
      (.ok (), t.map (DeviceSessionRow.write row.id row.isRevoked)
        (DeviceSessionRow.clash_write row.id row.isRevoked))
    | none =>
      match users.find fun u ↦ decide (u.id = row.userId) with
      | none => (.error (.prismaError "P2003"), t)
      | some _ =>
        match t.insert row with
        | some t' => (.ok (), t')
        | none => (.error (.prismaError "P2002"), t)

/-- The rewrite of the `update` part of the upsert of a token. -/
def OneTimeTokenRow.write (row r : OneTimeTokenRow) : OneTimeTokenRow :=
  if r.token = row.token then row else r

/-- An update leaves the hash of every token. -/
theorem OneTimeTokenRow.write_token (row r : OneTimeTokenRow) : (write row r).token = r.token := by
  unfold write
  split
  · next h => exact h.symm
  · rfl

/-- An update cannot make two tokens clash. -/
theorem OneTimeTokenRow.clash_write (row r s : OneTimeTokenRow) :
    OneTimeTokenRow.clash (write row r) (write row s) = OneTimeTokenRow.clash r s := by
  simp only [clash, write_token]

/-- The calls on a token table: `upsert` replaces what is stored under the hash and takes only a
user that is there, `delete` rejects a missing row. -/
def TokenOp.exec (users : UserTable) (t : OneTimeTokenTable) :
    (o : TokenOp) → Except JsError o.Reply × OneTimeTokenTable
  | findUnique h => (.ok (t.find fun r ↦ decide (r.token = h)), t)
  | upsert row =>
    match users.find fun u ↦ decide (u.id = row.userId) with
    | none => (.error (.prismaError "P2003"), t)
    | some _ =>
      match t.find fun r ↦ decide (r.token = row.token) with
      | some _ => (.ok (), t.map (OneTimeTokenRow.write row) (OneTimeTokenRow.clash_write row))
      | none =>
        match t.insert row with
        | some t' => (.ok (), t')
        | none => (.error (.prismaError "P2002"), t)
  | delete h =>
    match t.find fun r ↦ decide (r.token = h) with
    | some _ => (.ok (), t.keep fun r ↦ decide (r.token ≠ h))
    | none => (.error (.prismaError "P2025"), t)

/-- The nullable UUID column `userId` of an audit event. -/
def auditUserId (env : Env) : Value → Except JsError Unit
  | .undefined => .ok ()
  | .null => .ok ()
  | v => (uuidArgument env v).map fun _ ↦ ()

/-- `prisma.auditEvent.create`. -/
def AuditEventRow.exec (env : Env) (t : AuditEventTable) (row : AuditEventRow) :
    Except JsError Unit × AuditEventTable :=
  match auditUserId env row.userId with
  | .error e => (.error e, t)
  | .ok _ =>
    match t.insert row with
    | some t' => (.ok (), t')
    | none => (.error (.prismaError "P2002"), t)

/-- Redis takes a positive integer whose end, in milliseconds, is a 64-bit integer; the two
refusals of `SET` share one error here. -/
def validTtl (now : Nat) (ttlSeconds : Rat) : Bool :=
  decide (ttlSeconds.den = 1 ∧ 0 < ttlSeconds.num ∧ now + ttlSeconds.num.toNat * 1000 < 2 ^ 63)

/-- `SET key value EX ttl` replaces the value and its time to live; `EXISTS` counts. -/
def RedisOp.exec (now : Nat) (t : String → Option RedisEntry) :
    (o : RedisOp) → Except JsError o.Reply × (String → Option RedisEntry)
  | setEx key value ttlSeconds =>
    if validTtl now ttlSeconds then
      (.ok (), Function.update t key (some ⟨value, now + ttlSeconds.num.toNat * 1000⟩))
    else (.error (.replyError "ERR invalid expire time in 'set' command"), t)
  | existsKey key =>
    match t key with
    | some e => (.ok (if now < e.expiresAt then 1 else 0), t)
    | none => (.ok 0, t)

/-- The calls on Argon2; a hash takes the next random value as its salt. -/
def HasherOp.exec (env : Env) (draws : Nat) : (o : HasherOp) → Except JsError o.Reply × Nat
  | hash password => (.ok (env.argon2Hash draws password), draws + 1)
  | verify pchstr plaintext =>
    match env.argon2Verify pchstr plaintext with
    | some b => (.ok b, draws)
    | none => (.error (.error "pchstr must contain a $ as first char"), draws)

/-- The calls on the platform. -/
def SystemOp.exec (env : Env) (now draws : Nat) : (o : SystemOp) → o.Reply × Nat
  | dateNow => (now, draws)
  | randomUUID => (env.uuid draws, draws + 1)
  | randomBytes length => (env.randomHex length draws, draws + 1)

/-- `jwt.sign` with the next random UUID. -/
def SignCall.exec (env : Env) (now draws : Nat) (c : SignCall) : Except JwtError Text :=
  Jwt.sign c.payload c.privateKey
    { keyid := c.keyid
      expiresIn := c.expiresIn
      issuer := c.issuer
      audience := c.audience
      subject := c.subject
      jwtid := env.uuid draws } now

/-- One call on the world. -/
def exec (env : Env) : Prog.Handler Api JsError World
  | w, .user o =>
    let r := o.exec env w.users
    (r.1, { w with users := r.2 })
  | w, .rbac o => (.ok (o.exec w), w)
  | w, .role o =>
    let r := o.exec env w.users w.rbac
    (r.1, { w with
      roles := r.2.roles
      permissions := r.2.permissions
      userRoles := r.2.userRoles
      rolePermissions := r.2.rolePermissions })
  | w, .session o =>
    let r := o.exec env w.users w.now w.deviceSessions
    (r.1, { w with deviceSessions := r.2 })
  | w, .resetToken o =>
    let r := o.exec w.users w.passwordResetTokens
    (r.1, { w with passwordResetTokens := r.2 })
  | w, .verificationToken o =>
    let r := o.exec w.users w.emailVerificationTokens
    (r.1, { w with emailVerificationTokens := r.2 })
  | w, .auditCreate row =>
    let r := row.exec env w.auditEvents
    (r.1, { w with auditEvents := r.2 })
  | w, .redis o =>
    let r := o.exec w.now w.redis
    (r.1, { w with redis := r.2 })
  | w, .hasher o =>
    let r := o.exec env w.draws
    (r.1, { w with draws := r.2 })
  | w, .system o =>
    let r := o.exec env w.now w.draws
    (.ok r.1, { w with draws := r.2 })
  | w, .jwtSign c =>
    match c.exec env w.now w.draws with
    | .ok token =>
      (.ok token, { w with draws := w.draws + 1, minted := w.minted ++ [⟨c.use, token⟩] })
    | .error e => (.error (.jwtError e), { w with draws := w.draws + 1 })
  | w, .permission o =>
    let r := o.exec env w.permissions
    (r.1, { w with permissions := r.2 })
  | w, .mail m => (.ok (), { w with outbox := w.outbox ++ [m] })
  | w, .counter c =>
    (.ok (), { w with counters := Function.update w.counters c (w.counters c + 1) })

/-- Calls that take their time: as many milliseconds pass before each of them as the schedule
says. -/
def execPaced (env : Env) : Prog.Handler Api JsError (World × (Nat → Nat)) :=
  Prog.pausing (exec env) World.pass

/-! ### What the calls do -/

/-- Two sessions of one id in a table are the same session. -/
theorem DeviceSessionTable.eq_of_id {t : DeviceSessionTable} {r s : DeviceSessionRow}
    (hr : r ∈ t) (hs : s ∈ t) (h : r.id = s.id) : r = s :=
  Table.eq_of_clash hr hs (by simp [DeviceSessionRow.clash, h])
    (by simp [DeviceSessionRow.clash, h])

/-- Two sessions of one token hash in a table are the same session. -/
theorem DeviceSessionTable.eq_of_refreshToken {t : DeviceSessionTable} {r s : DeviceSessionRow}
    (hr : r ∈ t) (hs : s ∈ t) (h : r.refreshToken = s.refreshToken) : r = s :=
  Table.eq_of_clash hr hs (by simp [DeviceSessionRow.clash, h])
    (by simp [DeviceSessionRow.clash, h])

/-- A session is found by its token hash. -/
theorem DeviceSessionTable.find_refreshToken {t : DeviceSessionTable} {r : DeviceSessionRow}
    (hr : r ∈ t) : (t.find fun s ↦ decide (s.refreshToken = r.refreshToken)) = some r := by
  apply Table.find_of_mem hr (decide_eq_true rfl)
  intro s hs
  have hs : s.refreshToken = r.refreshToken := by simpa using hs
  simp [DeviceSessionRow.clash, hs]

/-- A session is found by its id. -/
theorem DeviceSessionTable.find_id {t : DeviceSessionTable} {r : DeviceSessionRow}
    (hr : r ∈ t) : (t.find fun s ↦ decide (s.id = r.id)) = some r := by
  apply Table.find_of_mem hr (decide_eq_true rfl)
  intro s hs
  have hs : s.id = r.id := by simpa using hs
  simp [DeviceSessionRow.clash, hs]

/-- The table after `user.update`. -/
def UserTable.write (t : UserTable) (id : String) (data : UserData) : UserTable :=
  t.map (UserRow.write id data) (UserRow.clash_write id data)

/-- Two users of one id in a table are the same user. -/
theorem UserTable.eq_of_id {t : UserTable} {r s : UserRow} (hr : r ∈ t) (hs : s ∈ t)
    (h : r.id = s.id) : r = s :=
  Table.eq_of_clash hr hs (by simp [UserRow.clash, h]) (by simp [UserRow.clash, h])

/-- Two users of one email in a table are the same user. -/
theorem UserTable.eq_of_email {t : UserTable} {r s : UserRow} (hr : r ∈ t) (hs : s ∈ t)
    (h : r.email = s.email) : r = s :=
  Table.eq_of_clash hr hs (by simp [UserRow.clash, h]) (by simp [UserRow.clash, h])

/-- A user is found by its id. -/
theorem UserTable.find_id {t : UserTable} {r : UserRow} (hr : r ∈ t) :
    (t.find fun s ↦ decide (s.id = r.id)) = some r := by
  apply Table.find_of_mem hr (decide_eq_true rfl)
  intro s hs
  have hs : s.id = r.id := by simpa using hs
  simp [UserRow.clash, hs]

/-- A user is found by its email. -/
theorem UserTable.find_email {t : UserTable} {r : UserRow} (hr : r ∈ t) :
    (t.find fun s ↦ decide (s.email = r.email)) = some r := by
  apply Table.find_of_mem hr (decide_eq_true rfl)
  intro s hs
  have hs : s.email = r.email := by simpa using hs
  simp [UserRow.clash, hs]

/-- The rows of the table after `user.update`. -/
theorem UserTable.mem_write {t : UserTable} {id : String} {data : UserData} {s : UserRow} :
    s ∈ t.write id data ↔ ∃ r ∈ t, r.write id data = s := Table.mem_map

/-- An update writes the row of its id, or is refused when there is none. -/
theorem UserOp.exec_update (env : Env) (t : UserTable) (id : String) (data : UserData) :
    UserOp.exec env t (.update id data) = (.ok (), t.write id data) ∨
      (∀ r ∈ t, r.id ≠ id) ∧
        UserOp.exec env t (.update id data) = (.error (.prismaError "P2025"), t) := by
  simp only [exec]
  cases h : t.find fun r ↦ decide (r.id = id) with
  | some r => exact .inl rfl
  | none =>
    refine .inr ⟨fun r hr hid ↦ ?_, rfl⟩
    have := Table.find_none.mp h r hr
    simp [hid] at this

/-- A user that is stored cannot be created again. -/
theorem UserOp.exec_create_stored (env : Env) {t : UserTable} {r data : UserRow} (hr : r ∈ t)
    (hid : r.id = data.id) :
    UserOp.exec env t (.create data) = (.error (.prismaError "P2002"), t) := by
  have hclash : t.insert data = none := by
    rw [Table.insert_eq_none]
    exact ⟨r, hr, by simp [UserRow.clash, hid]⟩
  simp only [exec, hclash]

/-- An upsert of a session that is there writes its flag. -/
theorem SessionOp.exec_upsert_known (env : Env) (users : UserTable) (now : Nat)
    {t : DeviceSessionTable} {row s : DeviceSessionRow} (hs : s ∈ t) (hid : s.id = row.id) :
    SessionOp.exec env users now t (.upsert row) =
      (.ok (), t.map (DeviceSessionRow.write row.id row.isRevoked)
        (DeviceSessionRow.clash_write row.id row.isRevoked)) := by
  have h := DeviceSessionTable.find_id hs
  rw [hid] at h
  simp only [exec, h]

/-- An upsert of a session that is not there creates it or is refused. -/
theorem SessionOp.exec_upsert_new (env : Env) (users : UserTable) (now : Nat)
    {t : DeviceSessionTable} {row : DeviceSessionRow} (h : ∀ s ∈ t, s.id ≠ row.id) :
    (∃ t', SessionOp.exec env users now t (.upsert row) = (.ok (), t') ∧
        t.insert row = some t') ∨
      ∃ e, SessionOp.exec env users now t (.upsert row) = (.error e, t) := by
  have hnone : (t.find fun s ↦ decide (s.id = row.id)) = none := by
    rw [Table.find_none]
    intro s hs
    simpa using h s hs
  simp only [exec, hnone]
  split
  · exact .inr ⟨_, rfl⟩
  · cases hi : t.insert row with
    | some t' => exact .inl ⟨t', by simp⟩
    | none => exact .inr ⟨_, rfl⟩

/-- What is looked up by an id, if there is one, is in the table. -/
theorem mem_of_map_find {α : Type} {clash : α → α → Bool} {t : Table α clash}
    {id : Except JsError String} {p : String → α → Bool} {r : α}
    (h : (id.map fun id ↦ t.find (p id)) = .ok (some r)) : r ∈ t := by
  cases id with
  | error e => cases h
  | ok id =>
    simp only [Except.map, Except.ok.injEq] at h
    exact (Table.find_some h).1

/-- What `findUnique` on users by id answers is stored. -/
theorem mem_of_findUserById {env : Env} {w : World} {id : Value} {r : UserRow}
    (he : (exec env w (.user (.findUniqueById id))).1 = .ok (some r)) : r ∈ w.users := by
  simp only [exec, UserOp.exec] at he
  exact mem_of_map_find he

/-- What `findUnique` on users by email answers is stored. -/
theorem mem_of_findUserByEmail {env : Env} {w : World} {email : String} {r : UserRow}
    (he : (exec env w (.user (.findUniqueByEmail email))).1 = .ok (some r)) : r ∈ w.users := by
  simp only [exec, UserOp.exec, Except.ok.injEq] at he
  exact (Table.find_some he).1

/-- What `findUnique` by token hash answers is stored under that hash. -/
theorem mem_of_findUniqueByRefreshToken {env : Env} {w : World} {h : Text} {r : DeviceSessionRow}
    (he : (exec env w (.session (.findUniqueByRefreshToken h))).1 = .ok (some r)) :
    r ∈ w.deviceSessions ∧ r.refreshToken = h := by
  simp only [exec, SessionOp.exec, Except.ok.injEq] at he
  obtain ⟨hr, hp⟩ := Table.find_some he
  exact ⟨hr, by simpa using hp⟩

/-- What `findUnique` by id answers is stored. -/
theorem mem_of_findUniqueById {env : Env} {w : World} {id : Value} {r : DeviceSessionRow}
    (he : (exec env w (.session (.findUniqueById id))).1 = .ok (some r)) :
    r ∈ w.deviceSessions := by
  simp only [exec, SessionOp.exec] at he
  exact mem_of_map_find he

/-- What `findMany` answers is stored. -/
theorem mem_of_findManyActive {env : Env} {w : World} {userId : Value}
    {rows : List DeviceSessionRow}
    (he : (exec env w (.session (.findManyActive userId))).1 = .ok rows) :
    ∀ r ∈ rows, r ∈ w.deviceSessions := by
  have hfilter : ∀ {p : DeviceSessionRow → Bool},
      ∀ r ∈ w.deviceSessions.rows.filter p, r ∈ w.deviceSessions :=
    fun r hr ↦ (List.mem_filter.mp hr).1
  cases userId with
  | undefined =>
    cases he
    exact hfilter
  | str s =>
    simp only [exec, SessionOp.exec] at he
    cases hu : uuidArgument env (.str s) with
    | error e =>
      rw [hu] at he
      cases he
    | ok id =>
      rw [hu] at he
      cases he
      exact hfilter
  | _ => cases he

/-- What `findMany` answers for a user whose id is in canonical form. -/
theorem exec_findManyActive {env : Env} {id : String} (h : env.parseUuid id = some id) (w : World) :
    exec env w (.session (.findManyActive (.str id))) =
      (.ok (w.deviceSessions.rows.filter fun r ↦ decide (r.userId = id) && r.active w.now), w) := by
  have huuid : uuidArgument env (.str id) = .ok id := by
    simp only [uuidArgument, h]
  simp only [exec, SessionOp.exec, huuid]
  rfl

/-- Only an upsert writes the sessions. -/
theorem exec_deviceSessions (env : Env) (w : World) {op : Op}
    (h : ∀ row, op ≠ .session (.upsert row)) :
    (exec env w op).2.deviceSessions = w.deviceSessions := by
  cases op with
  | session o =>
    cases o with
    | findUniqueById id => rfl
    | findUniqueByRefreshToken t => rfl
    | findManyActive userId => cases userId <;> rfl
    | upsert row => exact absurd rfl (h row)
  | jwtSign c =>
    simp only [exec]
    split <;> rfl
  | _ => rfl

/-- The generator only moves forward. -/
theorem exec_draws_le (env : Env) (w : World) (op : Op) : w.draws ≤ (exec env w op).2.draws := by
  cases op with
  | hasher o =>
    cases o with
    | hash password => exact Nat.le_succ _
    | verify pchstr plaintext =>
      simp only [exec, HasherOp.exec]
      split <;> exact Nat.le_refl _
  | system o =>
    cases o with
    | dateNow => exact Nat.le_refl _
    | randomUUID => exact Nat.le_succ _
    | randomBytes length => exact Nat.le_succ _
  | jwtSign c =>
    simp only [exec]
    split <;> exact Nat.le_succ _
  | _ => exact Nat.le_refl _

/-- No call moves the clock. -/
theorem exec_now (env : Env) (w : World) (op : Op) : (exec env w op).2.now = w.now := by
  cases op with
  | jwtSign c =>
    simp only [exec]
    split <;> rfl
  | _ => rfl

end Bankos
