import Bankos.Auth.Alone

/-!
# Sessions that are saved and loaded

`PrismaDeviceSessionRepository.save` after any sequence of mutations of a session, with saves in
between. The upsert creates a row with all columns, and of a row that is there it writes the flag
only; `rotateToken` changes two columns that are then not written.
-/

namespace Bankos

open Js Jwt Effects Storage Prog DatabaseMapper

/-! ### What is done to a session -/

/-- A mutation of a session, or a save of it. -/
inductive SessionAct where
  | rotateToken (newHashedToken : Text) (newExpiresAt : Nat) (absoluteMaxExpiration : Option Nat)
  | revoke (reason : String)
  | save
  deriving DecidableEq, Repr

/-- A mutator that throws ends the program. -/
def ofMutator : Except JsError DeviceSession → Program DeviceSession
  | .ok s => pure s
  | .error e => throw e

/-- The program of one act. -/
def SessionAct.run : SessionAct → DeviceSession → Program DeviceSession
  | rotateToken token expiresAt max, s => ofMutator (s.rotateToken token expiresAt max)
  | revoke reason, s => ofMutator (s.revoke reason)
  | save, s => do
    PrismaDeviceSessionRepository.save s
    pure s

/-- The acts in their order. -/
def runActs : List SessionAct → DeviceSession → Program DeviceSession
  | [], s => pure s
  | act :: acts, s => do
    let s' ← act.run s
    runActs acts s'

/-- What `rotateToken` changes. -/
structure Lease where
  token : Text
  expiresAt : Nat
  deriving DecidableEq, Repr

/-- What nothing changes. -/
structure Particulars where
  id : String
  userId : String
  ipAddress : String
  userAgent : String
  createdAt : Nat
  deriving DecidableEq, Repr

/-- The lease of a session. -/
def DeviceSession.lease (s : DeviceSession) : Lease := ⟨s.refreshToken, s.expiresAt⟩

/-- The particulars of a session. -/
def DeviceSession.particulars (s : DeviceSession) : Particulars :=
  ⟨s.id, s.userId, s.ipAddress, s.userAgent, s.createdAt⟩

/-- The lease in a row. -/
def DeviceSessionRow.lease (r : DeviceSessionRow) : Lease := ⟨r.refreshToken, r.expiresAt⟩

/-- The particulars in a row. -/
def DeviceSessionRow.particulars (r : DeviceSessionRow) : Particulars :=
  ⟨r.id, r.userId, r.ipAddress, r.userAgent, r.createdAt⟩

/-- The lease after one act. -/
def SessionAct.lease : SessionAct → Lease → Lease
  | rotateToken token expiresAt max, _ => ⟨token, DeviceSession.slide expiresAt max⟩
  | revoke _, l => l
  | save, l => l

/-- The lease after the acts. -/
def leaseAfter (acts : List SessionAct) (l : Lease) : Lease :=
  acts.foldl (fun l act ↦ act.lease l) l

/-- The lease at the first save among the acts. -/
def leaseSaved : List SessionAct → Lease → Option Lease
  | [], _ => none
  | .save :: _, l => some l
  | act :: acts, l => leaseSaved acts (act.lease l)

/-! ### What is stored -/

/-- The row of a session. -/
def World.storedSession (w : World) (id : String) : Option DeviceSessionRow :=
  w.deviceSessions.find fun r ↦ decide (r.id = id)

/-- What the row of a session keeps once it is there. -/
def World.storedLease (w : World) (id : String) : Option (Particulars × Lease) :=
  (w.storedSession id).map fun r ↦ (r.particulars, r.lease)

section Stored

variable {env : Env} {w w' : World} {s s' : DeviceSession}

/-- A row is found under its id. -/
theorem storedSession_of_mem {r : DeviceSessionRow} (hr : r ∈ w.deviceSessions) :
    w.storedSession r.id = some r := DeviceSessionTable.find_id hr

/-- A row that was found is stored under the id. -/
theorem mem_of_storedSession {id : String} {r : DeviceSessionRow}
    (h : w.storedSession id = some r) : r ∈ w.deviceSessions ∧ r.id = id := by
  obtain ⟨hr, hid⟩ := Table.find_some h
  exact ⟨hr, by simpa using hid⟩

/-- After a save there is a row with the flag of the session: the one that was there, or one with
all that the session holds. -/
theorem storedSession_save
    (h : (PrismaDeviceSessionRepository.save s).run (exec env) w = (.ok (), w')) :
    ∃ r, w'.storedSession s.id = some r ∧ r.isRevoked = s.isRevoked ∧
      (r.particulars, r.lease) = (w.storedLease s.id).getD (s.particulars, s.lease) := by
  have hexec : exec env w (.session (.upsert (toPrismaDeviceSession s))) = (.ok (), w') := h
  unfold World.storedLease
  cases hfind : w.storedSession s.id with
  | some r =>
    obtain ⟨hr, hid⟩ := mem_of_storedSession hfind
    have hrow : r.id = (toPrismaDeviceSession s).id := hid
    simp only [exec, SessionOp.exec_upsert_known env w.users w.now hr hrow, Prod.mk.injEq,
      true_and] at hexec
    have hwritten : r.write s.id s.isRevoked = { r with isRevoked := s.isRevoked } := by
      unfold DeviceSessionRow.write
      rw [if_pos hid]
    have hmem : ({ r with isRevoked := s.isRevoked } : DeviceSessionRow) ∈ w'.deviceSessions := by
      rw [← hexec]
      exact List.mem_map.mpr ⟨r, hr, hwritten⟩
    refine ⟨{ r with isRevoked := s.isRevoked }, ?_, rfl, rfl⟩
    rw [← hid]
    exact storedSession_of_mem hmem
  | none =>
    have hnew : ∀ r ∈ w.deviceSessions, r.id ≠ (toPrismaDeviceSession s).id := by
      intro r hr
      exact of_decide_eq_false (Table.find_none.mp hfind r hr)
    rcases SessionOp.exec_upsert_new env w.users w.now hnew with ⟨t, ht, hinsert⟩ | ⟨e, he⟩
    · simp only [exec, ht, Prod.mk.injEq, true_and] at hexec
      have hmem : toPrismaDeviceSession s ∈ w'.deviceSessions := by
        rw [← hexec]
        exact (Table.mem_insert hinsert).mpr (.inr rfl)
      exact ⟨toPrismaDeviceSession s, storedSession_of_mem hmem, rfl, rfl⟩
    · simp only [exec, he, Prod.mk.injEq, reduceCtorEq, false_and] at hexec

/-- After a save the row keeps what it kept before, or what the session holds. -/
theorem storedLease_save
    (h : (PrismaDeviceSessionRepository.save s).run (exec env) w = (.ok (), w')) :
    w'.storedLease s.id = some ((w.storedLease s.id).getD (s.particulars, s.lease)) := by
  obtain ⟨r, hr, -, hkept⟩ := storedSession_save h
  unfold World.storedLease at hkept ⊢
  rw [hr, Option.map_some, hkept]

/-! ### Runs of acts -/

/-- A mutator that returns does nothing to the database. -/
theorem run_ofMutator {r : Except JsError DeviceSession}
    (h : (ofMutator r).run (exec env) w = (.ok s', w')) : r = .ok s' ∧ w = w' := by
  cases r with
  | error e =>
    simp only [ofMutator, throw_eq, run_done, Prod.mk.injEq, reduceCtorEq, false_and] at h
  | ok s =>
    simp only [ofMutator, pure_eq, run_done, Prod.mk.injEq, Except.ok.injEq] at h
    exact ⟨congrArg Except.ok h.1, h.2⟩

/-- One act that does not throw: the session keeps its particulars, and only the first save puts a
lease where there is none. -/
theorem run_act {act : SessionAct} (h : (act.run s).run (exec env) w = (.ok s', w')) :
    s'.particulars = s.particulars ∧ s'.lease = act.lease s.lease ∧
      w'.storedLease s.id = (w.storedLease s.id).or
        ((leaseSaved [act] s.lease).map fun l ↦ (s.particulars, l)) := by
  cases act with
  | rotateToken token expiresAt max =>
    obtain ⟨hrotate, rfl⟩ := run_ofMutator h
    obtain ⟨-, rfl⟩ := DeviceSession.rotateToken_ok hrotate
    refine ⟨rfl, rfl, ?_⟩
    simp [leaseSaved]
  | revoke reason =>
    obtain ⟨hrevoke, rfl⟩ := run_ofMutator h
    obtain ⟨-, rfl⟩ := DeviceSession.revoke_ok hrevoke
    refine ⟨rfl, rfl, ?_⟩
    simp [leaseSaved]
  | save =>
    simp only [SessionAct.run] at h
    rw [run_bind] at h
    rcases hsave : (PrismaDeviceSessionRepository.save s).run (exec env) w with ⟨_ | _, w₁⟩
    · rw [hsave] at h
      simp only [Prod.mk.injEq, reduceCtorEq, false_and] at h
    · rw [hsave] at h
      simp only [pure_eq, run_done, Prod.mk.injEq, Except.ok.injEq] at h
      obtain ⟨rfl, rfl⟩ := h
      refine ⟨rfl, rfl, ?_⟩
      rw [storedLease_save hsave]
      cases w.storedLease s.id <;> rfl

/-- The first save among the acts is the first act or one of the others. -/
theorem leaseSaved_cons (act : SessionAct) (acts : List SessionAct) (l : Lease) :
    leaseSaved (act :: acts) l = (leaseSaved [act] l).or (leaseSaved acts (act.lease l)) := by
  cases act <;> rfl

/-- A run of acts without a throw: what is stored in the end was there, or was put there by the
first save. -/
theorem run_runActs {acts : List SessionAct}
    (h : (runActs acts s).run (exec env) w = (.ok s', w')) :
    s'.particulars = s.particulars ∧ s'.lease = leaseAfter acts s.lease ∧
      w'.storedLease s.id = (w.storedLease s.id).or
        ((leaseSaved acts s.lease).map fun l ↦ (s.particulars, l)) := by
  induction acts generalizing s w with
  | nil =>
    simp only [runActs, pure_eq, run_done, Prod.mk.injEq, Except.ok.injEq] at h
    obtain ⟨rfl, rfl⟩ := h
    refine ⟨rfl, rfl, ?_⟩
    simp [leaseSaved]
  | cons act acts ih =>
    simp only [runActs] at h
    rw [run_bind] at h
    rcases hact : (act.run s).run (exec env) w with ⟨_ | s₁, w₁⟩
    · rw [hact] at h
      simp only [Prod.mk.injEq, reduceCtorEq, false_and] at h
    · rw [hact] at h
      obtain ⟨hparticulars, hlease, hstored⟩ := run_act hact
      obtain ⟨hparticulars', hlease', hstored'⟩ := ih h
      have hid : s₁.id = s.id := congrArg Particulars.id hparticulars
      refine ⟨hparticulars'.trans hparticulars, ?_, ?_⟩
      · rw [hlease', hlease]
        rfl
      · rw [← hid, hstored', hid, hstored, hlease, hparticulars, leaseSaved_cons act acts]
        cases w.storedLease s.id with
        | some kept => rfl
        | none => cases leaseSaved [act] s.lease <;> rfl

end Stored

/-! ### The round trip -/

/-- `findById` gives back the session, with all fields that a row holds and no events. -/
def RoundTrips (env : Env) (s : DeviceSession) (w : World) : Prop :=
  (PrismaDeviceSessionRepository.findById (.str s.id)).run (exec env) w =
    (.ok (some { s with domainEvents := [] }), w)

/-- A row that is there from the start has the particulars of the session and the lease that the
session has after the acts; a row that the first save creates has that lease. -/
def LeaseStands (w : World) (s : DeviceSession) (acts : List SessionAct) : Prop :=
  (∀ r, w.storedSession s.id = some r →
      r.particulars = s.particulars ∧ r.lease = leaseAfter acts s.lease) ∧
    (w.storedSession s.id = none →
      ∀ l, leaseSaved acts s.lease = some l → l = leaseAfter acts s.lease)

section RoundTrip

variable {env : Env} {w : World} {s : DeviceSession}

/-- What `findById` gives back. -/
theorem run_findSessionById {id : String} (hid : env.parseUuid id = some id) :
    (PrismaDeviceSessionRepository.findById (.str id)).run (exec env) w =
      (.ok ((w.storedSession id).map toDomainDeviceSession), w) := by
  have huuid : uuidArgument env (.str id) = .ok id := by
    simp only [uuidArgument, hid]
  unfold PrismaDeviceSessionRepository.findById
  rw [run_bind, run_perform]
  simp only [exec, SessionOp.exec, huuid]
  rfl

/-- A session comes back if and only if its row has its flag, its particulars and its lease. -/
theorem roundTrips_iff (hid : env.parseUuid s.id = some s.id) {r : DeviceSessionRow}
    (hr : w.storedSession s.id = some r) (hflag : r.isRevoked = s.isRevoked) :
    RoundTrips env s w ↔ r.particulars = s.particulars ∧ r.lease = s.lease := by
  unfold RoundTrips
  rw [run_findSessionById hid, hr]
  cases s
  cases r
  simp_all [toDomainDeviceSession, DeviceSession.construct, DeviceSessionRow.particulars,
    DeviceSession.particulars, DeviceSessionRow.lease, DeviceSession.lease]
  tauto

end RoundTrip

/-- Whatever is done to a session without a throw, and however often it is saved: after one more
save it is loaded with the same fields if and only if the lease of the stored row stands. -/
theorem save_findById_iff (env : Env) (w : World) (s : DeviceSession)
    (hid : env.parseUuid s.id = some s.id) (acts : List SessionAct) (s' : DeviceSession)
    (w' w'' : World) (hacts : (runActs acts s).run (exec env) w = (.ok s', w'))
    (hsave : (PrismaDeviceSessionRepository.save s').run (exec env) w' = (.ok (), w'')) :
    RoundTrips env s' w'' ↔ LeaseStands w s acts := by
  obtain ⟨hparticulars, hlease, hstored⟩ := run_runActs hacts
  have hids : s'.id = s.id := congrArg Particulars.id hparticulars
  obtain ⟨r, hr, hflag, hkept⟩ := storedSession_save hsave
  rw [roundTrips_iff (by rw [hids]; exact hid) hr hflag]
  rw [hids, hstored, hparticulars, hlease] at hkept
  rw [hparticulars, hlease]
  unfold LeaseStands
  unfold World.storedLease at hkept
  cases hfind : w.storedSession s.id with
  | some row =>
    simp only [hfind, Option.map_some, Option.some_or, Option.getD_some, Prod.mk.injEq] at hkept
    rw [hkept.1, hkept.2]
    simp
  | none =>
    cases hsaved : leaseSaved acts s.lease with
    | none =>
      simp only [hfind, hsaved, Option.map_none, Option.none_or, Option.getD_none, Prod.mk.injEq]
        at hkept
      simp [hkept.1, hkept.2]
    | some l =>
      simp only [hfind, hsaved, Option.map_none, Option.map_some, Option.none_or, Option.getD_some,
        Prod.mk.injEq] at hkept
      simp [hkept.1, hkept.2]

/-! ### A rotation that is not stored -/

namespace Sample

/-- A user with a stored session. -/
def sessionStored : World where
  users := .single ⟨"u1", "alice@example.com", "$$pw", false, 0, true⟩
  deviceSessions :=
    .single ⟨"s1", "u1", .plain "old", "127.0.0.1", "Mozilla", false, 1000, 0⟩

/-- The session of the user, as `findById` loads it. -/
def stored : DeviceSession :=
  .construct "s1" "u1" (.plain "old") "127.0.0.1" "Mozilla" 1000 0 false

/-- A session that is not stored yet. -/
def fresh : DeviceSession :=
  .construct "s2" "u1" (.plain "first") "127.0.0.1" "Mozilla" 1000 0 false

end Sample

/-- The case of a new session that is saved, revoked and saved again. -/
theorem save_findById_iff_revoked :
    ∃ s' w' w'', (runActs [.save, .revoke "logout"] Sample.fresh).run (exec Sample.env)
        Sample.sessionStored = (.ok s', w') ∧
      (PrismaDeviceSessionRepository.save s').run (exec Sample.env) w' = (.ok (), w'') ∧
      (RoundTrips Sample.env s' w'' ↔
        LeaseStands Sample.sessionStored Sample.fresh [.save, .revoke "logout"]) :=
  ⟨_, _, _, rfl, rfl, save_findById_iff Sample.env Sample.sessionStored Sample.fresh rfl
    [.save, .revoke "logout"] _ _ _ rfl rfl⟩

/-- A session is loaded, its token is rotated and it is saved: it is loaded with the old token. -/
theorem rotateToken_not_saved :
    ¬ ∀ (env : Env) (w : World) (s : DeviceSession) (acts : List SessionAct) (s' : DeviceSession)
        (w' w'' : World), env.parseUuid s.id = some s.id →
      (PrismaDeviceSessionRepository.findById (.str s.id)).run (exec env) w = (.ok (some s), w) →
      (runActs acts s).run (exec env) w = (.ok s', w') →
      (PrismaDeviceSessionRepository.save s').run (exec env) w' = (.ok (), w'') →
      RoundTrips env s' w'' := by
  intro h
  have htrip := h Sample.env Sample.sessionStored Sample.stored
    [.rotateToken (.plain "new") 2000 none] _ _ _ rfl rfl rfl rfl
  rw [roundTrips_iff rfl rfl rfl] at htrip
  exact absurd htrip.2 (by decide)

end Bankos
