import Bankos.Infra.Jwt

/-!
# Errors and domain events

`identity/src/core/errors` and `identity/src/core/events`, with the errors that the
libraries raise. The date of an event is never read back and is left out.
-/

namespace Bankos

open Js Jwt

/-- What can be thrown. `InvalidStateError` extends `DomainError`. -/
inductive JsError where
  | domainError (message : String)
  | invalidStateError (message : String)
  | prismaError (code : String)
  | replyError (message : String)
  | jwtError (e : JwtError)
  | error (message : String)
  deriving DecidableEq, Repr

/-- The metadata the services attach to an event before they dispatch it. -/
structure Metadata where
  ipAddress : String
  userAgent : String
  deriving DecidableEq, Repr

/-- The object whose JSON text `requireAuth.ts:62`, `85` pass as the resource of a denial. -/
structure PolicyReport where
  key : String
  required : List String
  actual : Value
  deriving DecidableEq, Repr

/-- The event classes with the fields they are constructed from. -/
inductive EventClass where
  | userRegistered (userId email : String)
  | userLoggedIn (userId ipAddress userAgent : String)
  | userLocked (userId reason : String)
  | passwordChanged (userId : String)
  | tokenRevoked (tokenId userId reason : String)
  | emailVerified (userId : String)
  | passwordResetRequested (userId : String)
  | authorizationDenied (userId : Value) (requiredPolicy : String)
    (resource : Option PolicyReport)
  | roleCreated (roleId roleName : String)
  | roleAssignedToUser (userId roleId : String)
  | roleRemovedFromUser (userId roleId : String)
  | permissionCreated (permissionId resource action : String)
  | permissionAssigned (roleId permissionId : String)
  | permissionRemoved (roleId permissionId : String)
  deriving DecidableEq, Repr

/-- An event, `core/domain/IDomainEvent.ts`. -/
structure DomainEvent where
  detail : EventClass
  metadata : Option Metadata := none
  deriving DecidableEq, Repr

/-- The `eventName` of each class; `AuthorizationDenied` and the role events have the empty name. -/
def DomainEvent.eventName (e : DomainEvent) : String :=
  match e.detail with
  | .userRegistered .. => "UserRegistered"
  | .userLoggedIn .. => "UserLoggedIn"
  | .userLocked .. => "UserLocked"
  | .passwordChanged .. => "PasswordChanged"
  | .tokenRevoked .. => "TokenRevoked"
  | .emailVerified .. => "EmailVerified"
  | .passwordResetRequested .. => "PasswordResetRequested"
  | .authorizationDenied .. => ""
  | .roleCreated .. => ""
  | .roleAssignedToUser .. => ""
  | .roleRemovedFromUser .. => ""
  | .permissionCreated .. => ""
  | .permissionAssigned .. => ""
  | .permissionRemoved .. => ""

/-- The `userId` property of each class; `AuditEventHandler.ts:32–36` puts `system` in the place of
a property that is not there. -/
def DomainEvent.userId (e : DomainEvent) : Value :=
  match e.detail with
  | .userRegistered userId _ => .str userId
  | .userLoggedIn userId _ _ => .str userId
  | .userLocked userId _ => .str userId
  | .passwordChanged userId => .str userId
  | .tokenRevoked _ userId _ => .str userId
  | .emailVerified userId => .str userId
  | .passwordResetRequested userId => .str userId
  | .authorizationDenied userId _ _ => userId
  | .roleAssignedToUser userId _ => .str userId
  | .roleRemovedFromUser userId _ => .str userId
  | .roleCreated .. => .str "system"
  | .permissionCreated .. => .str "system"
  | .permissionAssigned .. => .str "system"
  | .permissionRemoved .. => .str "system"

/-- `event.metadata = { ipAddress, userAgent }` for each buffered event. -/
def withMetadata (events : List DomainEvent) (ipAddress userAgent : String) :
    List DomainEvent :=
  events.map fun e ↦ { e with metadata := some ⟨ipAddress, userAgent⟩ }

end Bankos
