import Bankos.Infra.World

/-!
# Repositories

`identity/src/modules/auth/repositories` over `identity/src/infrastructure/database/mapper.ts`:
the methods that the services call.
-/

namespace Bankos

open Js Jwt Effects Storage

namespace DatabaseMapper

/-- `mapper.ts:16–26`. -/
def toDomainUser (r : UserRow) : User :=
  .construct r.id r.email r.passwordHash r.isLocked r.failedLoginAttempts r.emailVerified false

/-- `mapper.ts:28–39`. -/
def toPrismaUser (u : User) : UserRow :=
  ⟨u.id, u.email, u.passwordHash, u.isLocked, u.failedLoginAttempts, u.emailVerified⟩

/-- `mapper.ts:41–51`. -/
def toDomainRole (r : RoleRow) : Role :=
  ⟨r.id, r.name, r.description, r.systemRole, r.parentId⟩

/-- `mapper.ts:53–63`. -/
def toDomainPermission (r : PermissionRow) : Permission :=
  ⟨r.id, r.name, r.resource, r.action, r.description⟩

/-- `mapper.ts:65–76`. -/
def toDomainDeviceSession (r : DeviceSessionRow) : DeviceSession :=
  .construct r.id r.userId r.refreshToken r.ipAddress r.userAgent r.expiresAt r.createdAt
    r.isRevoked

/-- `mapper.ts:78–90`. -/
def toPrismaDeviceSession (s : DeviceSession) : DeviceSessionRow :=
  ⟨s.id, s.userId, s.refreshToken, s.ipAddress, s.userAgent, s.isRevoked, s.expiresAt,
    s.createdAt⟩

end DatabaseMapper

open DatabaseMapper

/-- Make a call of a service. -/
abbrev request (op : Op) : Program op.Reply := Prog.perform (I := Api) op

/-- The methods of `interfaces/IUserRepository.ts` that the services call. -/
structure IUserRepository where
  findById : Value → Program (Option User)
  findByEmail : String → Program (Option User)
  save : User → Program Unit
  update : User → Program Unit
  findRoles : String → Program (List String)

namespace PrismaUserRepository

/-- `PrismaUserRepository.ts:9–15`. -/
def findById (id : Value) : Program (Option User) := do
  let record ← request (.user (.findUniqueById id))
  pure (record.map toDomainUser)

/-- `PrismaUserRepository.ts:17–23`. -/
def findByEmail (email : String) : Program (Option User) := do
  let record ← request (.user (.findUniqueByEmail email))
  pure (record.map toDomainUser)

/-- `exists`, `PrismaUserRepository.ts:25–28`. -/
def emailExists (email : String) : Program Bool := do
  let count ← request (.user (.count email))
  pure (decide (0 < count))

/-- `PrismaUserRepository.ts:30–42`. -/
def save (user : User) : Program Unit := request (.user (.create (toPrismaUser user)))

/-- The columns of `PrismaUserRepository.ts:48–53`. -/
def updateData (user : User) : UserData :=
  let prismaUser := toPrismaUser user
  ⟨prismaUser.passwordHash, prismaUser.isLocked, prismaUser.failedLoginAttempts,
    prismaUser.emailVerified⟩

/-- `PrismaUserRepository.ts:44–55`. -/
def update (user : User) : Program Unit := request (.user (.update user.id (updateData user)))

/-- `PrismaUserRepository.ts:57–68`. -/
def assignRole (userId roleName : String) : Program Unit := do
  let role ← request (.role (.findUniqueByName roleName))
  match role with
  | none => throw (.error ("Role " ++ roleName ++ " not found"))
  | some role => request (.role (.upsertUserRole ⟨userId, role.id⟩))

/-- `PrismaUserRepository.ts:70–85`: every error of the deletion is swallowed. -/
def removeRole (userId roleName : String) : Program Unit := do
  let role ← request (.role (.findUniqueByName roleName))
  match role with
  | none => pure ()
  | some role =>
    try request (.role (.deleteUserRole ⟨userId, role.id⟩)) catch _ => pure ()

/-- `PrismaUserRepository.ts:87–93`. -/
def findRoles (userId : String) : Program (List String) := do
  let userRoles ← request (.rbac (.findUserRoles userId))
  pure (userRoles.map (·.name))

end PrismaUserRepository

/-- The repository of `auth.routes.ts:51`. -/
def PrismaUserRepository : IUserRepository where
  findById := PrismaUserRepository.findById
  findByEmail := PrismaUserRepository.findByEmail
  save := PrismaUserRepository.save
  update := PrismaUserRepository.update
  findRoles := PrismaUserRepository.findRoles

/-- A repository whose `save` persists the user it is given, as `update` does. -/
def SavingUserRepository : IUserRepository :=
  { PrismaUserRepository with save := PrismaUserRepository.update }

namespace PrismaDeviceSessionRepository

/-- `PrismaDeviceSessionRepository.ts:9–13`. -/
def findById (id : Value) : Program (Option DeviceSession) := do
  let record ← request (.session (.findUniqueById id))
  pure (record.map toDomainDeviceSession)

/-- `PrismaDeviceSessionRepository.ts:15–21`. -/
def findByRefreshToken (hashedToken : Text) : Program (Option DeviceSession) := do
  let record ← request (.session (.findUniqueByRefreshToken hashedToken))
  pure (record.map toDomainDeviceSession)

/-- `PrismaDeviceSessionRepository.ts:23–34`. -/
def findActiveSessions (userId : Value) : Program (List DeviceSession) := do
  let records ← request (.session (.findManyActive userId))
  pure (records.map toDomainDeviceSession)

/-- `PrismaDeviceSessionRepository.ts:36–55`. -/
def save (session : DeviceSession) : Program Unit :=
  request (.session (.upsert (toPrismaDeviceSession session)))

end PrismaDeviceSessionRepository

namespace PrismaPasswordResetTokenRepository

/-- `PrismaPasswordResetTokenRepository.ts:8–23`. -/
def save (token : OneTimeToken) : Program Unit :=
  request (.resetToken (.upsert ⟨token.token, token.userId, token.isUsed, token.expiresAt⟩))

/-- `PrismaPasswordResetTokenRepository.ts:25–40`. -/
def findByToken (hashedToken : Text) : Program (Option OneTimeToken) := do
  let record ← request (.resetToken (.findUnique hashedToken))
  pure (record.map fun r ↦ PasswordResetToken.construct r.token r.userId r.expiresAt r.isUsed)

/-- `PrismaPasswordResetTokenRepository.ts:42–50`: every error is swallowed. -/
def delete (hashedToken : Text) : Program Unit :=
  try request (.resetToken (.delete hashedToken)) catch _ => pure ()

end PrismaPasswordResetTokenRepository

namespace PrismaEmailVerificationTokenRepository

/-- `PrismaEmailVerificationTokenRepository.ts:8–23`. -/
def save (token : OneTimeToken) : Program Unit :=
  request (.verificationToken (.upsert ⟨token.token, token.userId, token.isUsed, token.expiresAt⟩))

/-- `PrismaEmailVerificationTokenRepository.ts:25–40`. -/
def findByToken (hashedToken : Text) : Program (Option OneTimeToken) := do
  let record ← request (.verificationToken (.findUnique hashedToken))
  pure (record.map fun r ↦
    EmailVerificationToken.construct r.token r.userId r.expiresAt r.isUsed)

/-- `PrismaEmailVerificationTokenRepository.ts:42–50`. -/
def delete (hashedToken : Text) : Program Unit :=
  try request (.verificationToken (.delete hashedToken)) catch _ => pure ()

end PrismaEmailVerificationTokenRepository

namespace PrismaRoleRepository

/-- `PrismaRoleRepository.ts:9–19`. -/
def create (role : Role) : Program Unit :=
  request (.role (.create ⟨role.id, role.name, role.description, role.systemRole, role.parentId⟩))

/-- `PrismaRoleRepository.ts:33–35`. -/
def delete (id : String) : Program Unit := request (.role (.delete id))

/-- `PrismaRoleRepository.ts:37–45`. -/
def assignPermission (roleId permissionId : String) : Program Unit :=
  request (.role (.upsertRolePermission ⟨roleId, permissionId⟩))

/-- `PrismaRoleRepository.ts:47–59`: every error is swallowed. -/
def removePermission (roleId permissionId : String) : Program Unit :=
  try request (.role (.deleteRolePermission ⟨roleId, permissionId⟩)) catch _ => pure ()

/-- `PrismaRoleRepository.ts:61–67`. -/
def findPermissions (roleId : String) : Program (List String) := do
  let rolePermissions ← request (.rbac (.findRolePermissions roleId))
  pure (rolePermissions.map (·.name))

/-- `PrismaRoleRepository.ts:69–73`. -/
def findByName (name : String) : Program (Option Role) := do
  let record ← request (.role (.findUniqueByName name))
  pure (record.map toDomainRole)

/-- `PrismaRoleRepository.ts:75–79`. -/
def findById (id : String) : Program (Option Role) := do
  let record ← request (.role (.findUniqueById id))
  pure (record.map toDomainRole)

/-- `PrismaRoleRepository.ts:81–84`. -/
def findAll : Program (List Role) := do
  let records ← request (.rbac .findRoles)
  pure (records.map toDomainRole)

end PrismaRoleRepository

namespace PrismaPermissionRepository

/-- `PrismaPermissionRepository.ts:9–19`. -/
def create (permission : Permission) : Program Unit :=
  request (.permission (.create
    ⟨permission.id, permission.name, permission.resource, permission.action,
      permission.description⟩))

/-- `PrismaPermissionRepository.ts:42–46`. -/
def findByName (name : String) : Program (Option Permission) := do
  let record ← request (.permission (.findUniqueByName name))
  pure (record.map toDomainPermission)

end PrismaPermissionRepository

namespace PrismaAuditRepository

/-- `PrismaAuditRepository.ts:9–23`. -/
def save (row : AuditEventRow) : Program Unit := request (.auditCreate row)

end PrismaAuditRepository

/-! ### What is stored comes back -/

/-- A user that is loaded and written back unchanged writes the columns that were there. -/
@[simp] theorem toPrismaUser_toDomainUser (r : UserRow) : toPrismaUser (toDomainUser r) = r := rfl

/-- A session that is loaded and mapped back is the row that was there. -/
@[simp] theorem toPrismaDeviceSession_toDomainDeviceSession (r : DeviceSessionRow) :
    toPrismaDeviceSession (toDomainDeviceSession r) = r := rfl

@[simp] theorem toDomainUser_isLocked (r : UserRow) : (toDomainUser r).isLocked = r.isLocked := rfl

@[simp] theorem toDomainDeviceSession_id (r : DeviceSessionRow) :
    (toDomainDeviceSession r).id = r.id := rfl

@[simp] theorem toDomainDeviceSession_refreshToken (r : DeviceSessionRow) :
    (toDomainDeviceSession r).refreshToken = r.refreshToken := rfl

@[simp] theorem toDomainDeviceSession_isRevoked (r : DeviceSessionRow) :
    (toDomainDeviceSession r).isRevoked = r.isRevoked := rfl

/-- An active session that is loaded can be revoked, and has then one event. -/
theorem DeviceSessionRow.revoke_toDomain {r : DeviceSessionRow} (h : r.isRevoked = false)
    (reason : String) :
    (toDomainDeviceSession r).revoke reason = .ok { toDomainDeviceSession r with
      isRevoked := true
      domainEvents := [{ detail := .tokenRevoked r.id r.userId reason }] } := by
  simp [DeviceSession.revoke, toDomainDeviceSession, DeviceSession.construct, h]

end Bankos
