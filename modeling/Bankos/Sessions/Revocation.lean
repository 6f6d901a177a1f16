import Bankos.Sessions.Refresh
import Mathlib.Data.List.Induction

/-!
# Revocation is permanent

No service saves a stored session as unrevoked, so a revoked session stays revoked. A refresh reads
the flag of the session in the reply to its only lookup by token hash, and returns nothing when it
is set.
-/

namespace Bankos

open Js Jwt Effects Storage Prog DatabaseMapper

/-! ### What a refresh looks up -/

/-- The sessions that a request has found by token hashes, latest first. -/
def lookedUp (s : List DeviceSessionRow) :
    (op : Op) → Except JsError op.Reply → List DeviceSessionRow
  | .session (.findUniqueByRefreshToken _), .ok (some r) => r :: s
  | _, _ => s

/-- What requests find by token hashes, with no restriction of their calls. -/
abbrev lookups : Protocol Api JsError where
  Phase := List DeviceSessionRow
  allows _ _ := True
  next := lookedUp

/-- The calls that are no lookup by token hash. -/
def Op.besideLookups : Op → Prop
  | .session (.findUniqueByRefreshToken _) => False
  | _ => True

/-- Calls on anything but sessions are no lookups. -/
theorem Op.besideSessions.besideLookups {op : Op} (h : op.besideSessions) : op.besideLookups := by
  cases op with
  | session o => exact h.elim
  | _ => trivial

/-- Calls that look no session up leave what was found. -/
theorem lookedUp_beside {op : Op} (hop : op.besideLookups) (s : List DeviceSessionRow)
    (r : Except JsError op.Reply) : lookedUp s op r = s := by
  cases op with
  | session o =>
    cases o with
    | findUniqueByRefreshToken h => exact hop.elim
    | _ => rfl
  | _ => rfl

/-- No call takes away what was found. -/
theorem subset_lookedUp (s : List DeviceSessionRow) (op : Op) (r : Except JsError op.Reply) :
    s ⊆ lookedUp s op r := by
  by_cases hop : op.besideLookups
  · rw [lookedUp_beside hop]
    exact List.Subset.refl s
  · cases op with
    | session o =>
      cases o with
      | findUniqueByRefreshToken h =>
        rcases r with e | (_ | s')
        · exact List.Subset.refl s
        · exact List.Subset.refl s
        · exact List.subset_cons_self _ _
      | _ => exact absurd trivial hop
    | _ => exact absurd trivial hop

section Rules

variable {α β : Type} {s : List DeviceSessionRow}

/-- A program without a lookup finds nothing. -/
theorem ensures_finds {p : Program α} {Q : List DeviceSessionRow → α → Prop}
    (hp : p.Uses Op.besideLookups) (hQ : ∀ a, Q s a) : Ensures lookups s p Q :=
  hp.ensures_stay (fun _ hop ↦ ⟨trivial, lookedUp_beside hop s⟩) hQ

/-- A program without a lookup in front of a program. -/
theorem ensures_without {p : Program α} {f : α → Program β} {Q : List DeviceSessionRow → β → Prop}
    (hp : p.Uses Op.besideLookups) (hf : ∀ a, Ensures lookups s (f a) Q) :
    Ensures lookups s (p >>= f) Q :=
  hp.ensures_bind (fun _ hop ↦ ⟨trivial, lookedUp_beside hop s⟩) hf

end Rules

/-- Auxiliary calls are no lookups. -/
theorem uses_without {α : Type} {p : Program α} (hp : p.Uses Op.auxiliary) :
    p.Uses Op.besideLookups :=
  hp.mono fun _ h ↦ h.besideSessions.besideLookups

/-- The dispatch of events looks no session up. -/
theorem dispatch_without (events : List DomainEvent) : (dispatch events).Uses Op.besideLookups :=
  (dispatch_uses events).mono fun _ h ↦ (h.besideSessions (by simp)).besideLookups

/-- The rotation looks no session up. -/
theorem RefreshTokenService.rotate_finds {users : IUserRepository} (hu : users.Proper) (env : Env)
    (userId : Value) (ip ua : String) (session : DeviceSession) (user : User) (now : Nat) :
    (rotate env users userId ip ua session user now).Uses Op.besideLookups := by
  apply uses_bind (uses_done _ _)
  intro session
  apply uses_bind (uses_perform trivial)
  intro _
  rw [hu.findRoles]
  apply uses_bind (uses_without (PrismaUserRepository.findRoles_uses _))
  intro directRoles
  apply uses_bind (uses_without (AuthorizationEngine.resolveRoles_uses _))
  intro effectiveRoles
  apply uses_bind (uses_without (AuthorizationEngine.resolvePermissions_uses _))
  intro effectivePermissions
  apply uses_bind (uses_without SecureRandomGenerator.generateUUID_uses)
  intro newSessionId
  apply uses_bind (uses_without (generateTokens_uses ..))
  intro tokens
  apply uses_bind (uses_perform trivial)
  intro _
  exact uses_bind (dispatch_without _) fun _ ↦ trivial

/-- The replay branch returns nothing. -/
theorem RefreshTokenService.revokeAll_refuses (userId : Value) (s : List DeviceSessionRow)
    (Q : List DeviceSessionRow → LoginResponse → Prop) :
    Ensures lookups s (revokeAll userId) Q := by
  unfold revokeAll
  apply ensures_without
  · exact uses_bind (uses_perform trivial) fun _ ↦ trivial
  intro sessions
  apply ensures_without
  · apply uses_each
    intro s _
    apply uses_bind (uses_done _ _)
    intro s'
    exact uses_bind (uses_perform trivial) fun _ ↦ dispatch_without _
  intro _
  exact ensures_throw

/-- A refresh returns only if the session that it has found is not revoked. -/
theorem RefreshTokenService.execute_finds {users : IUserRepository} (hu : users.Proper) (env : Env)
    (token : Text) (ip ua : String) :
    Ensures lookups [] (execute env users token ip ua) fun s _ ↦ ∀ r ∈ s, r.isRevoked = false := by
  unfold execute
  apply ensures_without (uses_without (verified_uses env token))
  intro decoded
  apply Ensures.seq (Q := fun (s : List DeviceSessionRow) session ↦
    s = (session.map toPrismaDeviceSession).toList)
  · apply Ensures.bind
    apply ensures_perform trivial
    intro record
    apply ensures_pure
    cases record <;> rfl
  · rintro _ session rfl
    cases session with
    | none => exact ensures_throw
    | some session =>
      apply ensures_present (fun s ↦ s = [toPrismaDeviceSession session])
      · exact revokeAll_refuses _ _ _
      · exact ensures_finds (uses_without SystemClock.now_uses) fun _ ↦ rfl
      · rintro _ rfl
        exact ensures_finds ((hu.findById_uses _).mono fun op h ↦
          (h.besideSessions (by simp)).besideLookups) fun _ ↦ rfl
      · rintro _ user now rfl _ hrev
        apply ensures_finds (rotate_finds hu ..)
        intro tokens r hr
        rw [List.mem_singleton.mp hr]
        exact hrev

/-! ### Runs -/

section Runs

variable {ι : Type} [DecidableEq ι] {env : Env} {users : IUserRepository} {reqs : ι → Request}
  {w : World} {ok ok' : Server ι → ServerTurn ι → Prop} {p q : Server ι}

/-- The log tells what a request has found by token hashes. -/
theorem mem_lookups {log : List (Entry Api JsError ι)} {i : ι} {r : DeviceSessionRow} {h : Text}
    (he : ⟨i, .session (.findUniqueByRefreshToken h), .ok (some r)⟩ ∈ log) :
    r ∈ Pool.phase lookups [] log i := by
  induction log using List.reverseRecOn with
  | nil => cases he
  | append_singleton log e ih =>
    rw [Pool.phase_append]
    rcases List.mem_append.mp he with he | he
    · have hr := ih he
      split
      · exact subset_lookedUp _ _ _ hr
      · exact hr
    · rw [← List.mem_singleton.mp he, if_pos rfl]
      exact List.mem_cons_self

/-- The run: a refresh that has returned has found only sessions that were not revoked. -/
theorem found_of_returned (hu : users.Proper)
    (hq : Server.Reaches env ok (Server.start env users reqs w) q) {i : ι} {token : Text}
    {ip ua : String} (hi : reqs i = .refresh token ip ua) {a : Response} (ha : q.Returned i a)
    {h : Text} {r : DeviceSessionRow}
    (he : ⟨i, .session (.findUniqueByRefreshToken h), .ok (some r)⟩ ∈ q.log) :
    r.isRevoked = false := by
  have hserve : Ensures lookups [] (serve env users (reqs i))
      fun s _ ↦ ∀ r ∈ s, r.isRevoked = false := by
    rw [hi]
    exact ensures_respond (RefreshTokenService.execute_finds hu env token ip ua)
  exact hq.post_of_done hserve ha a rfl r (mem_lookups he)

/-- If the call finds the session `id` by a token hash, the session is revoked. -/
def findsRevoked (id : String) : (op : Op) → Except JsError op.Reply → Prop
  | .session (.findUniqueByRefreshToken _), .ok (some s) => s.id = id → s.isRevoked = true
  | _, _ => True

/-- A lookup in a world that stores the session as revoked. -/
theorem exec_findsRevoked {r : DeviceSessionRow} (hr : r ∈ w.deviceSessions)
    (hrev : r.isRevoked = true) (op : Op) : findsRevoked r.id op (exec env w op).1 := by
  cases op with
  | session o =>
    cases o with
    | findUniqueByRefreshToken h =>
      cases he : (exec env w (.session (.findUniqueByRefreshToken h))).1 with
      | error e => exact trivial
      | ok found =>
        cases found with
        | none => exact trivial
        | some s =>
          intro hid
          have hs := (mem_of_findUniqueByRefreshToken he).1
          rw [DeviceSessionTable.eq_of_id hs hr hid]
          exact hrev
    | _ => exact trivial
  | _ => exact trivial

/-- A failed call finds nothing. -/
theorem findsRevoked_error (id : String) (op : Op) (e : JsError) :
    findsRevoked id op (.error e) := by
  cases op with
  | session o => cases o <;> exact trivial
  | _ => exact trivial

/-- Revocation is permanent, in every interleaving: a session that is stored as revoked is stored
so in every later state, and no refresh that finds it from then on returns. -/
theorem revocation_permanent (env : Env) (users : IUserRepository) (hu : users.Proper)
    (reqs : ι → Request) (w : World) (hw : FreshUuids env w) (p : Server ι)
    (hp : Server.Reaches env anyTurn (Server.start env users reqs w) p) (r : DeviceSessionRow)
    (hr : r ∈ p.world.deviceSessions) (hrev : r.isRevoked = true) (q : Server ι)
    (hq : Server.Reaches env anyTurn p q) :
    (r ∈ q.world.deviceSessions ∧
        ∀ s ∈ q.world.deviceSessions, s.id = r.id → s.isRevoked = true) ∧
      ∀ i token ip ua, reqs i = .refresh token ip ua → ∀ h s,
        (⟨i, .session (.findUniqueByRefreshToken h), .ok (some s)⟩ : Entry Api JsError ι) ∈
          q.log.drop p.log.length → s.id = r.id → ∀ a, ¬ q.Returned i a := by
  have hstays : ∀ q', Server.Reaches env anyTurn p q' → r ∈ q'.world.deviceSessions :=
    fun q' hq' ↦ (Server.Reaches.advances hu hw hp hq').mem_of_revoked hr hrev
  refine ⟨⟨hstays q hq, ?_⟩, ?_⟩
  · intro s hs hid
    rw [DeviceSessionTable.eq_of_id hs (hstays q hq) hid]
    exact hrev
  · intro i token ip ua hi h s he hid a ha
    obtain ⟨later, hlog, hlater⟩ := hq.log_later (H := fun _ ↦ findsRevoked r.id)
      (fun q' _ op _ hq' _ _ ↦ exec_findsRevoked (hstays q' hq') hrev op)
      (fun _ _ e op _ _ _ _ ↦ findsRevoked_error r.id op e)
    rw [hlog, List.drop_left] at he
    have hfound := found_of_returned hu (hp.trans hq) hi ha
      (hlog ▸ List.mem_append_right _ he)
    rw [hlater _ he hid] at hfound
    cases hfound

end Runs

/-- `alice` logs out, and presents the refresh token of her login. -/
def Sample.logoutAndRefresh : Bool → Request
  | false => .logout ⟨tokens.accessToken, tokens.refreshToken⟩ "10.0.0.1" "browser"
  | true => .refresh tokens.refreshToken "10.0.0.1" "browser"

/-- The server in which the logout of `alice` has saved her session. -/
def Sample.loggedOut : Server Bool :=
  (Server.start Sample.env PrismaUserRepository logoutAndRefresh loggedIn).play (exec Sample.env)
    World.pass (List.replicate 4 (.act false))

/-- The session that the logout has ended. -/
def Sample.endedSession : DeviceSessionRow :=
  loggedOut.world.deviceSessions.rows.headD ⟨"", "", .plain "", "", "", false, 0, 0⟩

/-- The server in which the refresh has been refused after that. -/
def Sample.refused : Server Bool :=
  loggedOut.play (exec Sample.env) World.pass (List.replicate 2 (.act true))

/-- The case of a refresh after the logout. -/
theorem revocation_permanent_loggedOut :
    (Sample.endedSession ∈ Sample.refused.world.deviceSessions ∧
        ∀ s ∈ Sample.refused.world.deviceSessions, s.id = Sample.endedSession.id →
          s.isRevoked = true) ∧
      ∀ i token ip ua, Sample.logoutAndRefresh i = .refresh token ip ua → ∀ h s,
        (⟨i, .session (.findUniqueByRefreshToken h), .ok (some s)⟩ : Entry Api JsError Bool) ∈
          Sample.refused.log.drop Sample.loggedOut.log.length → s.id = Sample.endedSession.id →
        ∀ a, ¬ Sample.refused.Returned i a :=
  revocation_permanent Sample.env PrismaUserRepository PrismaUserRepository.proper
    Sample.logoutAndRefresh Sample.loggedIn Sample.freshUuids_loggedIn Sample.loggedOut
    (Pool.reaches_play_any _ _) Sample.endedSession (Table.mem_iff.mpr (by decide +kernel))
    (by decide +kernel) Sample.refused (Pool.reaches_play_any _ _)

end Bankos
