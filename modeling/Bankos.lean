import Bankos.Base.Program
import Bankos.Base.Disturbances
import Bankos.Base.Pool
import Bankos.Base.Table
import Bankos.Base.Js
import Bankos.Infra.Jwt
import Bankos.Core.Events
import Bankos.Core.Entities
import Bankos.Infra.Env
import Bankos.Infra.World
import Bankos.Auth.Validators
import Bankos.Auth.Repositories
import Bankos.Auth.Adapters
import Bankos.Auth.Engine
import Bankos.Auth.Services
import Bankos.Auth.Guards
import Bankos.Auth.Server
import Bankos.Auth.Calls
import Bankos.Auth.Alone
import Bankos.Auth.Chains
import Bankos.Sessions.Ledger
import Bankos.Sessions.Services
import Bankos.Sessions.Runs
import Bankos.Sessions.Refresh
import Bankos.Sessions.Logout
import Bankos.Users.ResetPassword
import Bankos.Users.ResetRace
import Bankos.Users.Snapshots
import Bankos.Users.Updates
import Bankos.Users.Lockout
import Bankos.Tokens.Clock
import Bankos.Tokens.Blacklist
import Bankos.Tokens.Admission
import Bankos.Tokens.Minted
import Bankos.Base.Walk
import Bankos.Auth.Register
import Bankos.Base.Segments
import Bankos.Rbac.Matching
import Bankos.Rbac.Closure
import Bankos.Rbac.Tables
import Bankos.Rbac.Services
import Bankos.Rbac.Calls
import Bankos.Rbac.Forest
import Bankos.Rbac.Permissions
import Bankos.Rbac.Monotone
import Bankos.Rbac.Snapshot
import Bankos.Users.Registration
import Bankos.Sessions.Revocation
import Bankos.Sessions.Binding
import Bankos.Sessions.Issue
import Bankos.Sessions.History
import Bankos.Users.ResetCutoff
import Bankos.Base.Settings
import Bankos.Config.Gateway
import Bankos.Config.Identity
import Bankos.Tokens.Agreement
import Bankos.Gateway.Headers
import Bankos.Gateway.Retry
import Bankos.Base.Promises
import Bankos.Gateway.Attempts
import Bankos.Auth.Recovery
import Bankos.Auth.Controller
import Bankos.Users.Enumeration
import Bankos.Base.Throttle
import Bankos.Users.Attempts
import Bankos.Users.Policy
import Bankos.Users.VerifyEmail
import Bankos.Users.Mailbox
import Bankos.Users.Delivery
import Bankos.Rbac.Metrics
import Bankos.Sessions.Audit
import Bankos.Users.Reuse
import Bankos.Sessions.LogoutEffects
import Bankos.Sessions.RefreshFaults
import Bankos.Rbac.Removal
import Bankos.Sessions.RoundTrip
import Bankos.Infra.RateLimit
import Bankos.Infra.Limiters
import Bankos.Gateway.Breaker
import Bankos.Base.Shapes
import Bankos.Rbac.Validation
import Bankos.Gateway.RolesHeader
import Bankos.Base.Heap
import Bankos.Observability.Redaction
import Bankos.Observability.SharedMasking
import Bankos.Base.Replay
import Bankos.Users.EventTrail
import Bankos.Base.Middleware
import Bankos.Base.Images
import Bankos.Base.JsonText
import Bankos.Tokens.Jwks
import Bankos.Http.Exchange
import Bankos.Http.Identity
import Bankos.Http.Admission
import Bankos.Http.Server
import Bankos.Http.Calls
import Bankos.Http.Privileges
import Bankos.Base.Clients
import Bankos.Http.Credentials
import Bankos.Base.Pacts
import Bankos.Http.Pact
import Bankos.Http.Trail
import Bankos.Base.Interpret
import Bankos.Http.Gateway
import Bankos.Http.Passage
import Bankos.Http.Tiers
import Bankos.Http.Correlation
import Bankos.Http.Shut
import Bankos.Http.Blind
import Bankos.Base.Revalidation
import Bankos.Http.KeySet
import Bankos.Http.Rotation
