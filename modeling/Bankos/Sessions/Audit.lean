import Bankos.Base.Totals
import Bankos.Sessions.History
import Bankos.Users.Lockout

/-!
# The audit trail of a sequential run

A lock and a revocation are to leave a row in the audit log. A login that locks an account throws
before it dispatches the event, and a refresh dispatches the events of the new session instead of
those of the one it has revoked, so these two leave none. Everything else that sets a flag records
it once.
-/

namespace Bankos

open Js Jwt Effects Storage Prog DatabaseMapper

/-- The changes that are to be recorded. -/
inductive AuditKind where
  | userLocked
  | tokenRevoked
  deriving DecidableEq, Repr

/-- The `eventName` of `UserLockedEvent.ts` and `TokenRevokedEvent.ts`. -/
def AuditKind.eventType : AuditKind → String
  | userLocked => "UserLocked"
  | tokenRevoked => "TokenRevoked"

/-- How many audit rows of the kind a user has. -/
def World.audited (k : AuditKind) (userId : String) (w : World) : Nat :=
  w.auditEvents.rows.countP fun r ↦ decide (r.eventType = k.eventType ∧ r.userId = .str userId)

/-- How many flags of a user go up between two worlds: the lock of the user itself, or the
revocations of the sessions of the user. -/
def World.raised (k : AuditKind) (userId : String) (w w' : World) : Nat :=
  match k with
  | .userLocked =>
    w.users.raised (·.id) (·.isLocked) (fun r ↦ decide (r.id = userId)) w'.users
  | .tokenRevoked =>
    w.deviceSessions.raised (·.id) (·.isRevoked) (fun r ↦ decide (r.userId = userId))
      w'.deviceSessions

/-- The program of a call. -/
def SessionCall.program (env : Env) (c : SessionCall) : Program Response :=
  serve env PrismaUserRepository c.request

/-- How many flags of a user go up in a sequence of calls. -/
def timesRaised (env : Env) (w : World) (calls : List (Nat × SessionCall)) (k : AuditKind)
    (userId : String) : Nat :=
  totalAll (exec env) World.pass (SessionCall.program env) (World.raised k userId) w calls

/-- For every user, a sequence adds as many rows of either kind as flags go up. -/
def AuditExact (env : Env) (w : World) (calls : List (Nat × SessionCall)) : Prop :=
  ∀ k userId,
    (runAll (exec env) World.pass (SessionCall.program env) w calls).audited k userId =
      w.audited k userId + timesRaised env w calls k userId

/-- No call of the sequence fails. -/
def NoCallFails (env : Env) (w : World) (calls : List (Nat × SessionCall)) : Prop :=
  ∀ v ∈ visits (exec env) World.pass (SessionCall.program env) w calls,
    Unfailing env (v.2.program env) v.1

instance (env : Env) (w : World) (calls : List (Nat × SessionCall)) :
    Decidable (NoCallFails env w calls) :=
  inferInstanceAs (Decidable (∀ v ∈ visits (exec env) World.pass (SessionCall.program env) w calls,
    Unfailing env (v.2.program env) v.1))

/-! ### The calls that record nothing -/

/-- The login is the last wrong one that the user `u` has before the account is locked. -/
structure LoginRequest.Locks (env : Env) (w : World) (r : LoginRequest) (u : UserRow) : Prop where
  stored : u ∈ w.users
  addressed : r.To env u
  unlocked : u.isLocked = false
  last : 5 ≤ u.failedLoginAttempts + 1
  wrong : r.Wrong env u

/-- The token is that of the session `s`, which is neither revoked nor over, and its user is there
and not locked. -/
structure World.Exchanges (env : Env) (w : World) (token : Text) (s : DeviceSessionRow) : Prop where
  stored : s ∈ w.deviceSessions
  hash : s.refreshToken = env.sha256 token
  unrevoked : s.isRevoked = false
  live : w.now ≤ s.expiresAt
  claims : ∃ claims, JwtTokenService.verifyAt env token w.now = .ok claims ∧
    claims.sessionId = .str s.id ∧
      ∃ u ∈ w.users, uuidArgument env claims.sub = .ok u.id ∧ u.isLocked = false

/-- The call sets a flag of the user and does not record it. -/
def SessionCall.Drops (env : Env) (w : World) (k : AuditKind) (userId : String) :
    SessionCall → Prop
  | login r => k = .userLocked ∧ ∃ u, r.Locks env w u ∧ u.id = userId
  | refresh token _ _ => k = .tokenRevoked ∧ ∃ s, w.Exchanges env token s ∧ s.userId = userId
  | logout _ _ _ => False

/-! ### What a run records and raises -/

/-- The calls that set no flag and record nothing of the two kinds. -/
def Op.uneventful : Op → Prop
  | .user (.create _) => False
  | .user (.update _ data) => data.isLocked = false
  | .session (.upsert row) => row.isRevoked = false
  | .auditCreate row => ∀ k : AuditKind, row.eventType ≠ k.eventType
  | _ => True

section Calls

variable {env : Env}

/-- Users with one id are one user. -/
theorem users_by_id (w : World) : ∀ r ∈ w.users, ∀ s ∈ w.users, s.id = r.id → s = r :=
  fun _ hr _ hs h ↦ UserTable.eq_of_id hs hr h

/-- Sessions with one id are one session. -/
theorem sessions_by_id (w : World) :
    ∀ r ∈ w.deviceSessions, ∀ s ∈ w.deviceSessions, s.id = r.id → s = r :=
  fun _ hr _ hs h ↦ DeviceSessionTable.eq_of_id hs hr h

/-- Where neither table changes no flag goes up. -/
theorem World.raised_of_eq {w w' : World} (husers : w'.users = w.users)
    (hsessions : w'.deviceSessions = w.deviceSessions) (k : AuditKind) (userId : String) :
    World.raised k userId w w' = 0 := by
  cases k with
  | userLocked =>
    unfold raised
    rw [husers]
    exact Table.raised_self (users_by_id w) _
  | tokenRevoked =>
    unfold raised
    rw [hsessions]
    exact Table.raised_self (sessions_by_id w) _

/-- An update that writes an open lock locks nobody. -/
theorem UserTable.raised_write {t : UserTable} {id : String} {data : UserData}
    (h : data.isLocked = false) (userId : String) :
    t.raised (·.id) (·.isLocked) (fun r ↦ decide (r.id = userId)) (t.write id data) = 0 := by
  apply Table.raised_eq_zero
  intro r hr hdown s hs hid
  obtain ⟨r', hr', rfl⟩ := UserTable.mem_write.mp hs
  rw [(UserRow.write_keys id data r').1] at hid
  rw [UserTable.eq_of_id hr' hr hid]
  unfold UserRow.write
  split
  · exact h
  · exact hdown

/-- An update that writes the lock of an unlocked user locks that user. -/
theorem UserTable.raised_lock {t : UserTable} {u : UserRow} {data : UserData} (hu : u ∈ t)
    (hdown : u.isLocked = false) (h : data.isLocked = true) (userId : String) :
    t.raised (·.id) (·.isLocked) (fun r ↦ decide (r.id = userId)) (t.write u.id data) =
      if u.id = userId then 1 else 0 := by
  have hup : (u.write u.id data).isLocked = true := by
    unfold UserRow.write
    rw [if_pos rfl]
    exact h
  have hrest : ∀ s ∈ t, s ≠ u → (s.write u.id data).isLocked = s.isLocked := by
    intro s hs hne
    unfold UserRow.write
    rw [if_neg fun h ↦ hne (UserTable.eq_of_id hs hu h)]
  unfold UserTable.write
  rw [Table.raised_map_single (fun r hr s hs h ↦ UserTable.eq_of_id hs hr h)
    (fun s ↦ (UserRow.write_keys u.id data s).1) _ hu (by simp [UserRow.clash]) hdown hup hrest]
  simp only [decide_eq_true_eq]

/-- An upsert that revokes an active session revokes that session. -/
theorem DeviceSessionTable.raised_revoke {t : DeviceSessionTable} {d : DeviceSessionRow}
    (hd : d ∈ t) (hdown : d.isRevoked = false) (userId : String) :
    t.raised (·.id) (·.isRevoked) (fun r ↦ decide (r.userId = userId)) (t.revoke d.id) =
      if d.userId = userId then 1 else 0 := by
  have hup : (d.write d.id true).isRevoked = true := by
    unfold DeviceSessionRow.write
    rw [if_pos rfl]
  have hrest : ∀ s ∈ t, s ≠ d → (s.write d.id true).isRevoked = s.isRevoked := by
    intro s hs hne
    unfold DeviceSessionRow.write
    rw [if_neg fun h ↦ hne (DeviceSessionTable.eq_of_id hs hd h)]
  unfold DeviceSessionTable.revoke
  rw [Table.raised_map_single (fun r hr s hs h ↦ DeviceSessionTable.eq_of_id hs hr h)
    (fun s ↦ (DeviceSessionRow.write_keys d.id true s).1) _ hd (by simp [DeviceSessionRow.clash])
    hdown hup hrest]
  simp only [decide_eq_true_eq]

/-- An upsert of an active session revokes nothing. -/
theorem SessionOp.raised_upsert (users : UserTable) (now : Nat) (t : DeviceSessionTable)
    {row : DeviceSessionRow} (h : row.isRevoked = false) (p : DeviceSessionRow → Bool) :
    t.raised (·.id) (·.isRevoked) p (SessionOp.exec env users now t (.upsert row)).2 = 0 := by
  apply Table.raised_eq_zero
  intro r hr hdown s hs hid
  by_cases hknown : ∃ d ∈ t, d.id = row.id
  · obtain ⟨d, hd, hdid⟩ := hknown
    rw [SessionOp.exec_upsert_known env users now hd hdid] at hs
    dsimp only at hs
    obtain ⟨r', hr', rfl⟩ := Table.mem_map.mp hs
    rw [(DeviceSessionRow.write_keys _ _ r').1] at hid
    rw [DeviceSessionTable.eq_of_id hr' hr hid]
    unfold DeviceSessionRow.write
    split
    · exact h
    · exact hdown
  · have hnew : ∀ d ∈ t, d.id ≠ row.id := fun d hd hdid ↦ hknown ⟨d, hd, hdid⟩
    have hsame : s ∈ t → s.isRevoked = false := by
      intro hs
      rw [DeviceSessionTable.eq_of_id hs hr hid]
      exact hdown
    rcases SessionOp.exec_upsert_new env users now hnew with ⟨t', hexec, hinsert⟩ | ⟨e, hexec⟩
    · rw [hexec] at hs
      rcases (Table.mem_insert hinsert).mp hs with hs | rfl
      · exact hsame hs
      · exact h
    · rw [hexec] at hs
      exact hsame hs

/-- An uneventful call raises no flag. -/
theorem raised_exec {op : Op} (hop : op.uneventful) (w : World) (k : AuditKind) (userId : String) :
    World.raised k userId w (exec env w op).2 = 0 := by
  cases op with
  | user o =>
    cases o with
    | create data => exact hop.elim
    | update id data =>
      cases k with
      | userLocked =>
        rcases UserOp.exec_update env w.users id data with hexec | ⟨-, hexec⟩
        · simp only [World.raised, exec, hexec]
          exact UserTable.raised_write hop userId
        · simp only [World.raised, exec, hexec]
          exact Table.raised_self (users_by_id w) _
      | tokenRevoked => exact Table.raised_self (sessions_by_id w) _
    | _ => exact World.raised_of_eq rfl rfl k userId
  | session o =>
    cases o with
    | upsert row =>
      cases k with
      | userLocked => exact Table.raised_self (users_by_id w) _
      | tokenRevoked => exact SessionOp.raised_upsert w.users w.now w.deviceSessions hop _
    | findManyActive id => cases id <;> exact World.raised_of_eq rfl rfl k userId
    | _ => exact World.raised_of_eq rfl rfl k userId
  | jwtSign c =>
    simp only [exec]
    split <;> exact World.raised_of_eq rfl rfl k userId
  | _ => exact World.raised_of_eq rfl rfl k userId

/-- An audit event is appended, or refused. -/
theorem AuditEventRow.exec_cases (env : Env) (t : AuditEventTable) (row : AuditEventRow) :
    (∃ t', row.exec env t = (.ok (), t') ∧ t.insert row = some t') ∨
      ∃ e, row.exec env t = (.error e, t) := by
  unfold AuditEventRow.exec
  cases auditUserId env row.userId with
  | error e => exact .inr ⟨e, rfl⟩
  | ok _ =>
    cases hinsert : t.insert row with
    | some t' => exact .inl ⟨t', by simp, rfl⟩
    | none => exact .inr ⟨_, rfl⟩

/-- An audit event that is written is one more row of its kind and user. -/
theorem audited_auditCreate {w : World} {row : AuditEventRow}
    (hok : (exec env w (.auditCreate row)).1.isOk = true) (k : AuditKind) (userId : String) :
    (exec env w (.auditCreate row)).2.audited k userId = w.audited k userId +
      if row.eventType = k.eventType ∧ row.userId = .str userId then 1 else 0 := by
  rcases AuditEventRow.exec_cases env w.auditEvents row with
    ⟨t', hexec, hinsert⟩ | ⟨e, hexec⟩
  · simp only [World.audited, exec, hexec, Table.rows_insert hinsert, List.countP_append,
      List.countP_singleton, decide_eq_true_eq]
  · simp only [exec, hexec] at hok
    cases hok

/-- An uneventful call records nothing of the two kinds. -/
theorem audited_exec {op : Op} (hop : op.uneventful) (w : World) (k : AuditKind)
    (userId : String) : (exec env w op).2.audited k userId = w.audited k userId := by
  cases op with
  | auditCreate row =>
    rcases AuditEventRow.exec_cases env w.auditEvents row with
      ⟨t', hexec, hinsert⟩ | ⟨e, hexec⟩
    · simp only [World.audited, exec, hexec, Table.rows_insert hinsert, List.countP_append]
      simp [hop k]
    · simp only [World.audited, exec, hexec]
  | jwtSign c =>
    simp only [exec]
    split <;> rfl
  | _ => rfl

end Calls

/-- What a run from `w` adds to the audit log, and the flags that it raises. -/
structure Tally {α : Type} (env : Env) (p : Program α) (w : World)
    (rows flags : AuditKind → String → Nat) : Prop where
  rows : ∀ k userId,
    (p.run (exec env) w).2.audited k userId = w.audited k userId + rows k userId
  flags : ∀ k userId, p.total (exec env) (World.raised k userId) w = flags k userId

/-- One change of the kind, of the user. -/
def once : AuditKind → String → AuditKind → String → Nat
  | .userLocked, userId, .userLocked, userId' => if userId = userId' then 1 else 0
  | .tokenRevoked, userId, .tokenRevoked, userId' => if userId = userId' then 1 else 0
  | _, _, _, _ => 0

/-- One change counts for the event type of its kind and for its user. -/
theorem once_eq (k k' : AuditKind) (userId userId' : String) :
    once k userId k' userId' =
      if k.eventType = k'.eventType ∧ userId = userId' then 1 else 0 := by
  cases k <;> cases k' <;> simp [once, AuditKind.eventType]

/-- A call that drops one change raises one flag more than it records. -/
theorem once_drops {drops : Prop} {k k' : AuditKind} {userId userId' : String}
    (h : drops ↔ k' = k ∧ userId = userId') :
    (drops ∧ once k userId k' userId' = 0 + 1) ∨ (¬ drops ∧ once k userId k' userId' = 0) := by
  by_cases hdrops : drops
  · left
    obtain ⟨rfl, rfl⟩ := h.mp hdrops
    exact ⟨hdrops, by simp [once_eq]⟩
  · right
    refine ⟨hdrops, ?_⟩
    cases k <;> cases k' <;> simp_all [once]

namespace Tally

variable {α β : Type} {env : Env} {w w' : World} {p : Program α} {f : α → Program β}
  {rows flags rows' flags' : AuditKind → String → Nat}

/-- Uneventful calls record and raise nothing. -/
theorem uneventful (hp : p.Uses Op.uneventful) (w : World) : Tally env p w 0 0 where
  rows k userId := hp.run_keeps (J := fun w' ↦ w'.audited k userId = w.audited k userId + 0)
    (fun w' _ hop hw' ↦ (audited_exec hop w' k userId).trans hw') w rfl
  flags k userId := hp.total_eq_zero (fun w _ hop ↦ raised_exec hop w k userId) w

/-- A sequence whose first part returns. -/
theorem bind (hp : Tally env p w rows flags) (hrun : p.run (exec env) w = (.ok a, w'))
    (hf : Tally env (f a) w' rows' flags') :
    Tally env (p >>= f) w (rows + rows') (flags + flags') where
  rows k userId := by
    have hfirst := hp.rows k userId
    rw [hrun] at hfirst
    rw [run_bind_ok env w hrun, hf.rows, hfirst, Pi.add_apply, Pi.add_apply, Nat.add_assoc]
  flags k userId := by
    rw [total_bind, hrun, hp.flags]
    exact congrArg _ (hf.flags k userId)

/-- A sequence whose first part throws. -/
theorem throws (hp : Tally env p w rows flags) {e : JsError}
    (hrun : p.run (exec env) w = (.error e, w')) : Tally env (p >>= f) w rows flags where
  rows k userId := by
    have hfirst := hp.rows k userId
    rw [hrun] at hfirst
    rw [run_bind_error env w hrun, hfirst]
  flags k userId := by
    rw [total_bind, hrun, hp.flags]
    rfl

/-- Uneventful calls behind a program. -/
theorem before (hp : Tally env p w rows flags) (hf : ∀ a, (f a).Uses Op.uneventful) :
    Tally env (p >>= f) w rows flags := by
  cases h : p.run (exec env) w with
  | mk r w' =>
    cases r with
    | ok a =>
      have h := hp.bind h (uneventful (hf a) w')
      rwa [add_zero, add_zero] at h
    | error e => exact hp.throws h

/-- Uneventful calls that return, in front of a program. -/
theorem after (hp : p.Uses Op.uneventful) {a : α} (hrun : p.run (exec env) w = (.ok a, w'))
    (hf : Tally env (f a) w' rows flags) : Tally env (p >>= f) w rows flags := by
  have h := (uneventful hp w).bind hrun hf
  rwa [zero_add, zero_add] at h

end Tally

/-- A run records every flag that it raises. -/
def Records {α : Type} (env : Env) (p : Program α) (w : World) : Prop := ∃ n, Tally env p w n n

section Records

variable {α β : Type} {env : Env} {w w' : World} {p : Program α} {f : α → Program β}

/-- Uneventful calls raise nothing. -/
theorem records_uneventful (hp : p.Uses Op.uneventful) (w : World) : Records env p w :=
  ⟨0, .uneventful hp w⟩

/-- Uneventful calls that return, in front of a program. -/
theorem Records.after (hp : p.Uses Op.uneventful) {a : α} (hrun : p.run (exec env) w = (.ok a, w'))
    (hf : Records env (f a) w') : Records env (p >>= f) w := by
  obtain ⟨n, hn⟩ := hf
  exact ⟨n, .after hp hrun hn⟩

/-- Uneventful calls that throw. -/
theorem Records.throws (hp : p.Uses Op.uneventful) {e : JsError}
    (hrun : p.run (exec env) w = (.error e, w')) : Records env (p >>= f) w :=
  ⟨0, (Tally.uneventful hp w).throws hrun⟩

/-- What a program raises is recorded by the next one. -/
theorem Records.bind {n : AuditKind → String → Nat} {a : α} (hp : Tally env p w 0 n)
    (hrun : p.run (exec env) w = (.ok a, w')) (hf : Tally env (f a) w' n 0) :
    Records env (p >>= f) w := by
  have h := hp.bind hrun hf
  rw [zero_add, add_zero] at h
  exact ⟨n, h⟩

end Records

/-! ### Uneventful parts of the services -/

section Uneventful

variable {α : Type} {env : Env} {p : Program α}

/-- The areas whose calls are all uneventful. -/
def Area.uneventful : Area → Bool
  | .userWrite => false
  | .session => false
  | .audit => false
  | _ => true

/-- A program that stays in such areas is uneventful. -/
theorem uses_uneventful {areas : List Area} (hp : p.Uses (Op.within areas))
    (h : areas.all Area.uneventful = true) : p.Uses Op.uneventful := by
  apply hp.mono
  intro op hop
  have harea : ∀ a, op.area = some a → a.uneventful = true :=
    fun a ha ↦ List.all_eq_true.mp h a (hop a ha)
  cases op with
  | user o =>
    cases o with
    | create data => cases harea _ rfl
    | update id data => cases harea _ rfl
    | _ => trivial
  | session o => cases harea _ rfl
  | auditCreate row => cases harea _ rfl
  | _ => trivial

/-- Auxiliary calls are uneventful. -/
theorem Op.auxiliary.uneventful {op : Op} (h : op.auxiliary) : op.uneventful := by
  cases op <;> first | exact h.elim | trivial

/-- A program of auxiliary calls is uneventful. -/
theorem helper_uneventful (hp : p.Uses Op.auxiliary) : p.Uses Op.uneventful :=
  hp.mono fun _ h ↦ h.uneventful

/-- An update that does not lock is uneventful. -/
theorem PrismaUserRepository.update_uneventful {user : User} (h : user.isLocked = false) :
    (PrismaUserRepository.update user).Uses Op.uneventful := uses_perform h

/-- A session that is saved unrevoked raises nothing. -/
theorem PrismaDeviceSessionRepository.save_uneventful {session : DeviceSession}
    (h : session.isRevoked = false) :
    (PrismaDeviceSessionRepository.save session).Uses Op.uneventful := uses_perform h

/-- A session is looked up by its identifier. -/
theorem PrismaDeviceSessionRepository.findById_uneventful (id : Value) :
    (PrismaDeviceSessionRepository.findById id).Uses Op.uneventful :=
  uses_bind (uses_perform trivial) fun _ ↦ trivial

/-- A session is looked up by the hash of its token. -/
theorem PrismaDeviceSessionRepository.findByRefreshToken_uneventful (h : Text) :
    (PrismaDeviceSessionRepository.findByRefreshToken h).Uses Op.uneventful :=
  uses_bind (uses_perform trivial) fun _ ↦ trivial

/-- Dispatching events of other kinds. -/
theorem dispatch_uneventful {events : List DomainEvent}
    (h : ∀ e ∈ events, ∀ k : AuditKind, e.eventName ≠ k.eventType) :
    (dispatch events).Uses Op.uneventful := by
  apply (dispatch_records events).mono
  intro op hop
  cases op with
  | system o => exact trivial
  | auditCreate row =>
    obtain ⟨event, hevent, htype⟩ := hop
    intro k
    rw [htype]
    exact h event hevent k
  | _ => exact hop.elim

/-- Opening a session for a user without events of the two kinds. -/
theorem LoginService.openSession_uneventful (request : LoginRequest) {user : User}
    (h : ∀ e ∈ user.domainEvents, ∀ k : AuditKind, e.eventName ≠ k.eventType) :
    (openSession env PrismaUserRepository request user).Uses Op.uneventful := by
  apply issue_uses PrismaUserRepository.proper env fun _ h ↦ h.uneventful
  intro sessionId tokens
  apply uses_bind (helper_uneventful (expiresAt_uses ..))
  intro expiresAt
  apply uses_bind (helper_uneventful SystemClock.now_uses)
  intro createdAt
  apply uses_bind (PrismaDeviceSessionRepository.save_uneventful rfl)
  intro _
  refine uses_bind (dispatch_uneventful ?_) fun _ ↦ trivial
  intro e he k
  obtain ⟨e', he', rfl⟩ := List.mem_map.mp he
  exact h e' he' k

end Uneventful

/-! ### LoginService.ts -/

/-- One call that records nothing. -/
theorem tally_request {env : Env} {op : Op} {w w' : World} {flags : AuditKind → String → Nat}
    {reply : Except JsError op.Reply}
    (hrun : (request op).run (exec env) w = (reply, w')) (hrows : w'.auditEvents = w.auditEvents)
    (hflags : ∀ k userId, World.raised k userId w w' = flags k userId) :
    Tally env (request op) w 0 flags := by
  constructor
  · intro k userId
    rw [hrun]
    unfold World.audited
    rw [hrows]
    rfl
  · intro k userId
    rw [run_request] at hrun
    refine (total_perform (I := Api) _ _).trans ?_
    rw [hrun]
    exact hflags k userId

section Login

variable {env : Env} {w : World} {r : LoginRequest} {u : UserRow}

/-- Writing the lock of an unlocked user locks it. -/
theorem PrismaUserRepository.tally_update (hu : u ∈ w.users) (hunlocked : u.isLocked = false)
    {user : User} (hid : user.id = u.id) (hlocked : user.isLocked = true) :
    Tally env (update user) w 0 (once .userLocked u.id) := by
  apply tally_request (run_update env w hu hid.symm) rfl
  intro k userId
  cases k with
  | userLocked => exact UserTable.raised_lock hu hunlocked hlocked userId
  | tokenRevoked => exact Table.raised_self (sessions_by_id w) _

namespace LoginService

/-- A login to an unlocked user goes by the password. -/
theorem tally_checked (hu : u ∈ w.users) (hto : r.To env u) (hunlocked : u.isLocked = false)
    {rows flags : AuditKind → String → Nat}
    (hright : ¬ r.Wrong env u →
      Tally env (rightPassword env PrismaUserRepository r (toDomainUser u)) w rows flags)
    (hwrong : r.Wrong env u →
      Tally env (wrongPassword PrismaUserRepository (toDomainUser u)) w rows flags) :
    Tally env (execute env PrismaUserRepository r) w rows flags := by
  unfold execute
  dsimp only
  rw [if_pos hto.isValid]
  apply Tally.after (uses_uneventful (PrismaUserRepository.proper.findByEmail_uses _) rfl)
    (run_findByEmail env w _)
  rw [hto.email, UserTable.find_email hu]
  dsimp only [Option.map]
  rw [if_neg (by simpa using hunlocked)]
  apply Tally.after (uses_uneventful (Argon2PasswordHasher.verify_uses ..) rfl)
    (run_verify env w _ _)
  by_cases hpassword : r.Wrong env u
  · rw [if_neg (by exact fun h ↦ hpassword (of_decide_eq_true h))]
    exact hwrong hpassword
  · rw [if_pos (by exact decide_eq_true (not_not.mp hpassword))]
    exact hright hpassword

/-- The right password records and raises nothing of the two kinds. -/
theorem tally_rightPassword (hunlocked : u.isLocked = false) :
    Tally env (rightPassword env PrismaUserRepository r (toDomainUser u)) w 0 0 := by
  apply Tally.uneventful
  unfold rightPassword
  rw [User.recordLogin_unlocked hunlocked, done_ok_bind]
  apply uses_bind (PrismaUserRepository.update_uneventful hunlocked)
  intro _
  apply openSession_uneventful
  intro e he k
  rw [List.mem_singleton.mp he]
  cases k <;> exact of_decide_eq_true rfl

/-- One more failure locks an unlocked user when it is the fifth. -/
theorem incrementFailedAttempts_row (h : u.isLocked = false) :
    ((toDomainUser u).incrementFailedAttempts 5).isLocked =
      decide (5 ≤ u.failedLoginAttempts + 1) := (User.incrementFailedAttempts_unlocked h).2

/-- The last wrong password locks the user, and records nothing. -/
theorem tally_locks (h : r.Locks env w u) :
    Tally env (execute env PrismaUserRepository r) w 0 (once .userLocked u.id) := by
  apply tally_checked h.stored h.addressed h.unlocked
  · intro hright
    exact absurd h.wrong hright
  · intro _
    have hlocked := (incrementFailedAttempts_row h.unlocked).trans (decide_eq_true h.last)
    exact (PrismaUserRepository.tally_update h.stored h.unlocked
      (User.incrementFailedAttempts_spec (toDomainUser u) 5).1 hlocked).before
        fun _ ↦ uses_done _ _

/-- Any other login records and raises nothing of the two kinds. -/
theorem tally_of_not_locks (h : ∀ u, ¬ r.Locks env w u) :
    Tally env (execute env PrismaUserRepository r) w 0 0 := by
  have hrefuse : ∀ hash, Tally env (refuse env hash r.passwordRaw) w 0 0 := fun hash ↦
    .uneventful (uses_uneventful (refuse_uses ..) rfl) w
  by_cases hvalid : EmailValidator.isValid (EmailValidator.normalize env r.email) = true
  · cases hfind : w.users.find fun u ↦ decide (u.email = EmailValidator.normalize env r.email) with
    | none =>
      unfold execute
      dsimp only
      rw [if_pos hvalid]
      apply Tally.after (uses_uneventful (PrismaUserRepository.proper.findByEmail_uses _) rfl)
        (run_findByEmail env w _)
      rw [hfind]
      exact hrefuse _
    | some u =>
      obtain ⟨hu, hemail⟩ := Table.find_some hfind
      have hto : r.To env u := ⟨hvalid, (of_decide_eq_true hemail).symm⟩
      by_cases hlocked : u.isLocked = true
      · unfold execute
        dsimp only
        rw [if_pos hvalid]
        apply Tally.after (uses_uneventful (PrismaUserRepository.proper.findByEmail_uses _) rfl)
          (run_findByEmail env w _)
        rw [hfind]
        dsimp only [Option.map]
        rw [if_pos (by simpa using hlocked)]
        exact hrefuse _
      · have hunlocked : u.isLocked = false := by simpa using hlocked
        apply tally_checked hu hto hunlocked
        · intro _
          exact tally_rightPassword hunlocked
        · intro hwrong
          have hmore : ¬ (5 : Int) ≤ u.failedLoginAttempts + 1 :=
            fun hlast ↦ h u ⟨hu, hto, hunlocked, hlast, hwrong⟩
          have hdown := (incrementFailedAttempts_row hunlocked).trans (decide_eq_false hmore)
          exact .uneventful (uses_bind (PrismaUserRepository.update_uneventful hdown)
            fun _ ↦ uses_done _ _) w
  · unfold execute
    dsimp only
    rw [if_neg hvalid]
    exact hrefuse _

end LoginService
end Login

/-! ### RefreshTokenService.ts -/

section Refresh

variable {env : Env} {w : World} {d : DeviceSessionRow} {token : Text} {ip ua : String}

/-- Saving an active session as revoked revokes it. -/
theorem PrismaDeviceSessionRepository.tally_save (hd : d ∈ w.deviceSessions)
    (hdown : d.isRevoked = false) {session : DeviceSession} (hid : d.id = session.id)
    (hrev : session.isRevoked = true) :
    Tally env (save session) w 0 (once .tokenRevoked d.userId) := by
  apply tally_request (LogoutService.run_saveRevoked hd hid hrev) rfl
  intro k userId
  cases k with
  | userLocked => exact Table.raised_self (users_by_id w) _
  | tokenRevoked => exact DeviceSessionTable.raised_revoke hd hdown userId

namespace RefreshTokenService

/-- Exchanging a session revokes it, and records nothing. -/
theorem tally_rotate (hd : d ∈ w.deviceSessions) (hdown : d.isRevoked = false) (userId : Value)
    (user : User) (now : Nat) :
    Tally env (rotate env PrismaUserRepository userId ip ua (toDomainDeviceSession d) user now) w 0
      (once .tokenRevoked d.userId) := by
  unfold rotate
  rw [DeviceSessionRow.revoke_toDomain hdown, done_ok_bind]
  apply (PrismaDeviceSessionRepository.tally_save hd hdown rfl rfl).before
  intro _
  apply issue_uses PrismaUserRepository.proper env fun _ h ↦ h.uneventful
  intro newSessionId tokens
  apply uses_bind (PrismaDeviceSessionRepository.save_uneventful rfl)
  intro _
  refine uses_bind (dispatch_uneventful ?_) fun _ ↦ trivial
  intro e he
  cases he

/-- A refresh that exchanges a session revokes it, and records nothing. -/
theorem tally_exchanges (h : w.Exchanges env token d) :
    Tally env (execute env PrismaUserRepository token ip ua) w 0
      (once .tokenRevoked d.userId) := by
  obtain ⟨claims, hverify, hsession, u, hu, hsub, hunlocked⟩ := h.claims
  have hverified := run_verified env w token
  rw [hverify] at hverified
  unfold execute
  apply Tally.after (helper_uneventful (verified_uses env token)) hverified
  apply Tally.after (PrismaDeviceSessionRepository.findByRefreshToken_uneventful _)
    (run_findByRefreshToken env w _)
  unfold SecureRandomGenerator.hashString
  rw [← h.hash, DeviceSessionTable.find_refreshToken h.stored]
  have hfound := run_findUserById env w claims.sub
  rw [hsub] at hfound
  dsimp only at hfound
  rw [UserTable.find_id hu] at hfound
  have hlive : ¬ d.expiresAt < w.now := Nat.not_lt.mpr h.live
  dsimp only [Option.map]
  unfold present
  rw [if_neg (by simp),
    if_neg (by simp [h.unrevoked]),
    if_neg (by simp [hsession])]
  apply Tally.after (helper_uneventful SystemClock.now_uses) (run_now env w)
  rw [if_neg (by exact fun hover ↦ hlive (of_decide_eq_true hover))]
  apply Tally.after (uses_uneventful (PrismaUserRepository.proper.findById_uses _) rfl) hfound
  dsimp only [Option.map]
  rw [if_neg (by simp [hunlocked])]
  exact tally_rotate h.stored h.unrevoked _ _ _

/-- A token that passes every check has a session to exchange. -/
theorem exchanges_of_checks {claims : Claims} {id : String} {u : UserRow}
    (hverify : JwtTokenService.verifyAt env token w.now = .ok claims) (hd : d ∈ w.deviceSessions)
    (hhash : d.refreshToken = env.sha256 token)
    (hrevoked : ¬ (toDomainDeviceSession d).isRevoked = true)
    (hsession : ¬ .str (toDomainDeviceSession d).id ≠ claims.sessionId)
    (hlive : ¬ (toDomainDeviceSession d).isExpired w.now = true)
    (hsub : uuidArgument env claims.sub = .ok id)
    (huser : (w.users.find fun r ↦ decide (r.id = id)) = some u)
    (hlocked : ¬ (toDomainUser u).isLocked = true) : w.Exchanges env token d := by
  obtain ⟨hu, hid⟩ := Table.find_some huser
  have hid : u.id = id := of_decide_eq_true hid
  refine ⟨hd, hhash, ?_, ?_, claims, hverify, ?_, u, hu, ?_, ?_⟩
  · simpa using hrevoked
  · exact Nat.not_lt.mp fun hlt ↦ hlive (decide_eq_true hlt)
  · exact (not_not.mp hsession).symm
  · rw [hsub, hid]
  · simpa using hlocked

/-- What holds where a refresh ends, and goes back over each of its lookups, holds of a refresh that
exchanges nothing. -/
theorem execute_of_not_exchanges {motive : Program LoginResponse → Prop}
    (h : ∀ d, ¬ w.Exchanges env token d) (ends : ∀ r, motive (.done r))
    (verifies : ∀ f, (∀ claims, JwtTokenService.verifyAt env token w.now = .ok claims →
      motive (f claims)) → motive (verified env token >>= f))
    (looksUp : ∀ hash f, motive (f ((w.deviceSessions.find fun r ↦
      decide (r.refreshToken = hash)).map toDomainDeviceSession)) →
      motive (PrismaDeviceSessionRepository.findByRefreshToken hash >>= f))
    (looksAtClock : ∀ f, motive (f w.now) → motive (SystemClock.now >>= f))
    (looksForUser : ∀ sub f, (∀ id, uuidArgument env sub = .ok id →
      motive (f ((w.users.find fun r ↦ decide (r.id = id)).map toDomainUser))) →
      motive (PrismaUserRepository.findById sub >>= f)) :
    motive (execute env PrismaUserRepository token ip ua) := by
  unfold execute
  apply verifies
  intro claims hverify
  apply looksUp
  cases hfind : w.deviceSessions.find fun r ↦
      decide (r.refreshToken = SecureRandomGenerator.hashString env token) with
  | none => exact ends _
  | some d =>
    obtain ⟨hd, hhash⟩ := Table.find_some hfind
    have hhash : d.refreshToken = env.sha256 token := of_decide_eq_true hhash
    dsimp only [Option.map]
    unfold present
    rw [if_neg (by exact not_not.mpr hhash)]
    split
    · exact ends _
    · next hrevoked =>
      split
      · exact ends _
      · next hsession =>
        apply looksAtClock
        split
        · exact ends _
        · next hlive =>
          apply looksForUser
          intro id hsub
          cases huser : w.users.find fun r ↦ decide (r.id = id) with
          | none => exact ends _
          | some u =>
            dsimp only [Option.map]
            split
            · exact ends _
            · next hlocked =>
              exact absurd (exchanges_of_checks hverify hd hhash hrevoked hsession hlive hsub
                huser hlocked) (h d)

/-- Any other refresh records and raises nothing. -/
theorem tally_of_not_exchanges (h : ∀ d, ¬ w.Exchanges env token d) :
    Tally env (execute env PrismaUserRepository token ip ua) w 0 0 := by
  apply execute_of_not_exchanges (motive := fun p ↦ Tally env p w 0 0) h
  · exact fun r ↦ .uneventful (uses_done _ _) w
  · intro f hf
    have hverified := run_verified env w token
    cases hverify : JwtTokenService.verifyAt env token w.now with
    | error e =>
      rw [hverify] at hverified
      exact (Tally.uneventful (helper_uneventful (verified_uses env token)) w).throws hverified
    | ok claims =>
      rw [hverify] at hverified
      exact Tally.after (helper_uneventful (verified_uses env token)) hverified (hf claims hverify)
  · intro hash f hf
    exact Tally.after (PrismaDeviceSessionRepository.findByRefreshToken_uneventful _)
      (run_findByRefreshToken env w hash) hf
  · intro f hf
    exact Tally.after (helper_uneventful SystemClock.now_uses) (run_now env w) hf
  · intro sub f hf
    have hfound := run_findUserById env w sub
    cases hsub : uuidArgument env sub with
    | error e =>
      rw [hsub] at hfound
      exact (Tally.uneventful (uses_uneventful (PrismaUserRepository.proper.findById_uses _) rfl)
        w).throws hfound
    | ok id =>
      rw [hsub] at hfound
      exact Tally.after (uses_uneventful (PrismaUserRepository.proper.findById_uses _) rfl) hfound
        (hf id hsub)

end RefreshTokenService
end Refresh

/-! ### LogoutService.ts -/

section Logout

variable {env : Env} {w : World} {d : DeviceSessionRow} {r : LogoutRequest} {ip ua : String}

/-- An event of one of the two kinds that is handled is recorded once. -/
theorem AuditEventHandler.tally_handle {e : DomainEvent} {k : AuditKind} {userId : String}
    (hevent : e.eventName = k.eventType) (huser : e.userId = .str userId)
    (h : Unfailing env (handle e) w) : Tally env (handle e) w (once k userId) 0 := by
  unfold handle at h ⊢
  have hrest := (answers_bind.mp h).2
  rw [run_generateUUID] at hrest
  have hlast := (answers_bind.mp hrest).2
  rw [run_now] at hlast
  rcases hlast.1 with hok | hcheck
  · apply Tally.after (helper_uneventful SecureRandomGenerator.generateUUID_uses)
      (run_generateUUID env w)
    apply Tally.after (helper_uneventful SystemClock.now_uses) (run_now env _)
    constructor
    · intro k' userId'
      refine (audited_auditCreate hok k' userId').trans ?_
      rw [hevent, huser, once_eq]
      simp only [Value.str.injEq]
    · intro k' userId'
      exact (total_perform (I := Api) _ _).trans (World.raised_of_eq rfl rfl k' userId')
  · cases hcheck

/-- An event of one of the two kinds that is dispatched is recorded once. -/
theorem tally_dispatch {e : DomainEvent} {k : AuditKind} {userId : String}
    (hevent : e.eventName = k.eventType) (huser : e.userId = .str userId)
    (h : Unfailing env (dispatch [e]) w) : Tally env (dispatch [e]) w (once k userId) 0 := by
  rw [dispatch_single] at h ⊢
  have hhandle : Unfailing env (AuditEventHandler.handle e) w :=
    (answers_bind.mp (answers_bind.mp (answers_bind.mp h).1).1).1
  apply Tally.before _ fun _ ↦ uses_done _ _
  apply Tally.before _ fun _ ↦ uses_done _ _
  apply Tally.before _ fun _ ↦ uses_done _ _
  exact AuditEventHandler.tally_handle hevent huser hhandle

namespace LogoutService

/-- Ending a session records that it is revoked. -/
theorem records_endSession (hd : d ∈ w.deviceSessions)
    (h : Unfailing env (endSession env r ip ua (toDomainDeviceSession d)) w) :
    Records env (endSession env r ip ua (toDomainDeviceSession d)) w := by
  by_cases hrevoked : d.isRevoked = true
  · apply records_uneventful
    unfold endSession
    rw [if_pos (by exact hrevoked)]
    exact uses_done _ _
  by_cases hhash : d.refreshToken = env.sha256 r.refreshToken
  · have hdown : d.isRevoked = false := by simpa using hrevoked
    unfold endSession at h ⊢
    rw [if_neg (by exact hrevoked)] at h ⊢
    dsimp only at h ⊢
    rw [if_pos (by exact hhash), DeviceSessionRow.revoke_toDomain hdown, done_ok_bind] at h ⊢
    have hdispatch := (answers_bind.mp h).2
    rw [run_saveRevoked hd rfl rfl] at hdispatch
    apply Records.bind (PrismaDeviceSessionRepository.tally_save hd hdown rfl rfl)
      (run_saveRevoked hd rfl rfl)
    exact tally_dispatch rfl rfl hdispatch
  · apply records_uneventful
    unfold endSession
    rw [if_neg (by exact hrevoked)]
    dsimp only
    rw [if_neg (by exact hhash)]
    exact uses_done _ _

/-- A logout that does not fail records the session that it revokes. -/
theorem records_execute (h : Unfailing env (execute env r ip ua) w) :
    Records env (execute env r ip ua) w := by
  have hblacklist : (blacklistAccessToken env r.accessToken).Uses Op.uneventful :=
    uses_uneventful (blacklistAccessToken_uses env r.accessToken) rfl
  unfold execute at h ⊢
  obtain ⟨redis, ⟨-, hrun⟩ | ⟨-, e, hrun⟩⟩ := run_blacklist env r.accessToken w
  · have hrest := (answers_bind.mp h).2
    rw [hrun] at hrest
    dsimp only at hrest
    apply Records.after hblacklist hrun
    by_cases htruthy : (sessionId r).truthy = true
    · rw [if_pos htruthy] at hrest ⊢
      have hfound := run_findById env { w with redis := redis } (sessionId r)
      have hfind := PrismaDeviceSessionRepository.findById_uneventful (sessionId r)
      have hlast := (answers_bind.mp hrest).2
      cases hid : uuidArgument env (sessionId r) with
      | error e =>
        rw [hid] at hfound
        exact .throws hfind hfound
      | ok id =>
        rw [hid] at hfound
        dsimp only at hfound
        rw [hfound] at hlast
        apply Records.after hfind hfound
        cases hd : w.deviceSessions.find fun d ↦ decide (d.id = id) with
        | none => exact records_uneventful (uses_done _ _) _
        | some d =>
          rw [hd] at hlast
          exact records_endSession (Table.find_some hd).1 hlast
    · rw [if_neg htruthy]
      exact records_uneventful (uses_done _ _) _
  · exact .throws hblacklist hrun

end LogoutService
end Logout

/-! ### Sequences of calls -/

section Sequences

variable {env : Env} {w : World}

/-- Two users that a login locks are the same user. -/
theorem LoginRequest.Locks.unique {r : LoginRequest} {u u' : UserRow} (h : r.Locks env w u)
    (h' : r.Locks env w u') : u' = u :=
  UserTable.eq_of_email h'.stored h.stored (h'.addressed.email.symm.trans h.addressed.email)

/-- Two sessions that a refresh exchanges are the same session. -/
theorem World.Exchanges.unique {token : Text} {d d' : DeviceSessionRow}
    (h : w.Exchanges env token d) (h' : w.Exchanges env token d') : d' = d :=
  DeviceSessionTable.eq_of_refreshToken h'.stored h.stored (h'.hash.trans h.hash.symm)

/-- What a call records and what it drops is what it raises. -/
theorem SessionCall.tally (c : SessionCall) (h : Unfailing env (c.program env) w) :
    ∃ rows flags, Tally env (c.program env) w rows flags ∧ ∀ k userId,
      (c.Drops env w k userId ∧ flags k userId = rows k userId + 1) ∨
        (¬ c.Drops env w k userId ∧ flags k userId = rows k userId) := by
  cases c with
  | login r =>
    by_cases hlocks : ∃ u, r.Locks env w u
    · obtain ⟨u, hu⟩ := hlocks
      refine ⟨0, _, (LoginService.tally_locks hu).before fun _ ↦ uses_done _ _, fun k userId ↦ ?_⟩
      apply once_drops
      constructor
      · rintro ⟨hk, u', hu', hid⟩
        rw [hu.unique hu'] at hid
        exact ⟨hk, hid⟩
      · rintro ⟨hk, hid⟩
        exact ⟨hk, u, hu, hid⟩
    · have hnone : ∀ u, ¬ r.Locks env w u := fun u hu ↦ hlocks ⟨u, hu⟩
      refine ⟨0, 0, (LoginService.tally_of_not_locks hnone).before fun _ ↦ uses_done _ _,
        fun k userId ↦ .inr ⟨?_, rfl⟩⟩
      rintro ⟨-, u, hu, -⟩
      exact hnone u hu
  | refresh token ip ua =>
    by_cases hexchanges : ∃ d, w.Exchanges env token d
    · obtain ⟨d, hd⟩ := hexchanges
      refine ⟨0, _, (RefreshTokenService.tally_exchanges hd).before fun _ ↦ uses_done _ _,
        fun k userId ↦ ?_⟩
      apply once_drops
      constructor
      · rintro ⟨hk, d', hd', hid⟩
        rw [hd.unique hd'] at hid
        exact ⟨hk, hid⟩
      · rintro ⟨hk, hid⟩
        exact ⟨hk, d, hd, hid⟩
    · have hnone : ∀ d, ¬ w.Exchanges env token d := fun d hd ↦ hexchanges ⟨d, hd⟩
      refine ⟨0, 0, (RefreshTokenService.tally_of_not_exchanges hnone).before fun _ ↦ uses_done _ _,
        fun k userId ↦ .inr ⟨?_, rfl⟩⟩
      rintro ⟨-, d, hd, -⟩
      exact hnone d hd
  | logout r ip ua =>
    obtain ⟨n, hn⟩ := LogoutService.records_execute (answers_bind.mp h).1
    exact ⟨n, n, hn.before fun _ ↦ uses_done _ _, fun k userId ↦ .inr ⟨not_false, rfl⟩⟩

/-- A call adds to the audit log what it raises, but for what it drops. -/
theorem SessionCall.balance (c : SessionCall) (h : Unfailing env (c.program env) w) (k : AuditKind)
    (userId : String) [Decidable (c.Drops env w k userId)] :
    ((c.program env).run (exec env) w).2.audited k userId +
        (if c.Drops env w k userId then 1 else 0) =
      w.audited k userId + (c.program env).total (exec env) (World.raised k userId) w := by
  obtain ⟨rows, flags, htally, hdrops⟩ := c.tally h
  rw [htally.rows, htally.flags]
  rcases hdrops k userId with ⟨hdrop, hflags⟩ | ⟨hdrop, hflags⟩
  · rw [if_pos hdrop, hflags]
    omega
  · rw [if_neg hdrop, hflags]
    omega

end Sequences

/-- The audit trail, over a sequence of calls none of which fails: every lock and every revocation
is recorded exactly when no login locks an account and no refresh exchanges a session. -/
theorem auditExact_iff (env : Env) (w : World) (calls : List (Nat × SessionCall))
    (hcalls : NoCallFails env w calls) :
    AuditExact env w calls ↔
      ∀ v ∈ visits (exec env) World.pass (SessionCall.program env) w calls,
        ∀ k userId, ¬ v.2.Drops env v.1 k userId := by
  classical
  have hkind : ∀ k userId,
      ((runAll (exec env) World.pass (SessionCall.program env) w calls).audited k userId =
          w.audited k userId + timesRaised env w calls k userId ↔
        ∀ v ∈ visits (exec env) World.pass (SessionCall.program env) w calls,
          (if v.2.Drops env v.1 k userId then 1 else 0) = 0) := by
    intro k userId
    have hpass : ∀ ms v, World.audited k userId (World.pass ms v) = World.audited k userId v :=
      fun _ _ ↦ rfl
    apply runAll_eq_add_iff (World.audited k userId)
      (fun v (c : SessionCall) ↦ if c.Drops env v k userId then 1 else 0) hpass
    intro v hv
    exact v.2.balance (hcalls v hv) k userId
  constructor
  · intro hexact v hv k userId hdrops
    have hzero := (hkind k userId).mp (hexact k userId) v hv
    rw [if_pos hdrops] at hzero
    cases hzero
  · intro hnone k userId
    apply (hkind k userId).mpr
    intro v hv
    exact if_neg (hnone v hv k userId)

/-- `alice` logs in and out. -/
def Sample.loginAndLogout : List (Nat × SessionCall) :=
  [(0, .login login),
    (1000, .logout ⟨tokens.accessToken, tokens.refreshToken⟩ "10.0.0.1" "browser")]

/-- The case of a login and a logout. -/
theorem auditExact_iff_logout :
    AuditExact Sample.env Sample.registered Sample.loginAndLogout ↔
      ∀ v ∈ visits (exec Sample.env) World.pass (SessionCall.program Sample.env) Sample.registered
          Sample.loginAndLogout,
        ∀ k userId, ¬ v.2.Drops Sample.env v.1 k userId :=
  auditExact_iff Sample.env Sample.registered Sample.loginAndLogout (by decide +kernel)

/-- `alice` gives the wrong password five times. -/
def Sample.fiveWrong : List (Nat × SessionCall) :=
  wrongLogins.map fun i ↦ (1000, .login (logins i))

/-- `alice` logs in and exchanges her token. -/
def Sample.loginAndRefresh : List (Nat × SessionCall) :=
  [(0, .login login), (1000, .refresh tokens.refreshToken "10.0.0.1" "browser")]

/-- The lock after five wrong passwords is not recorded, and neither is the revocation of the
session that is exchanged. -/
theorem audit_drops_events :
    (NoCallFails Sample.env Sample.registered Sample.fiveWrong ∧
        ¬ AuditExact Sample.env Sample.registered Sample.fiveWrong) ∧
      NoCallFails Sample.env Sample.registered Sample.loginAndRefresh ∧
        ¬ AuditExact Sample.env Sample.registered Sample.loginAndRefresh := by
  refine ⟨⟨by decide +kernel, fun h ↦ ?_⟩, by decide +kernel, fun h ↦ ?_⟩
  · have hlocked := h .userLocked "alice"
    revert hlocked
    decide +kernel
  · have hrevoked := h .tokenRevoked "alice"
    revert hrevoked
    decide +kernel

end Bankos
