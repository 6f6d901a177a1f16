import Bankos.Sessions.Binding
import Bankos.Users.Updates
import Mathlib.Data.Fintype.Basic
import Mathlib.Data.List.Induction
import Mathlib.Data.List.TakeWhile

/-!
# What a password reset cuts off

A reset writes the new hash, asks once for the active sessions of its user and revokes those that it
was given. A login that has checked the old hash, or a refresh that has passed its own checks, may
still be under way and save its session afterwards. While none does, and no session of the user has
ended unrevoked, nothing that the old password or an old token has opened survives the reset.
-/

namespace Bankos

open Js Jwt Effects Storage Prog DatabaseMapper

/-! ### What a request has done -/

/-- The hashes for which a password was found right, the ids of the users that were written, whether
the active sessions of a user were asked for, those that were given, and the ids of the sessions
that were saved as revoked. -/
structure CutTrace where
  checked : List String := []
  written : List String := []
  collected : Bool := false
  found : List DeviceSessionRow := []
  ended : List String := []

namespace CutTrace

/-- The trace after the reply to a call. -/
def next (s : CutTrace) : (op : Op) → Except JsError op.Reply → CutTrace
  | .hasher (.verify h _), .ok true => { s with checked := h :: s.checked }
  | .user (.update id _), .ok _ => { s with written := id :: s.written }
  | .session (.findManyActive _), .ok rows => { s with collected := true, found := rows ++ s.found }
  | .session (.upsert row), .ok _ =>
    if row.isRevoked then { s with ended := row.id :: s.ended } else s
  | _, _ => s

/-- A failed call leaves no trace. -/
theorem next_error (s : CutTrace) (op : Op) (e : JsError) : s.next op (.error e) = s := by
  cases op with
  | hasher o => cases o <;> rfl
  | user o => cases o <;> rfl
  | session o => cases o <;> rfl
  | _ => rfl

/-- A reset asks for the sessions of the user that it has written, and writes none afterwards. -/
def mayCall (s : CutTrace) : Op → Prop
  | .session (.findManyActive v) => ∃ id, s.written = [id] ∧ v = .str id
  | .user (.update _ _) => s.collected = false
  | _ => True

end CutTrace

/-- What requests do, with no restriction of their calls. -/
abbrev cutTrace : Protocol Api JsError where
  Phase := CutTrace
  allows _ _ := True
  next := CutTrace.next

/-- The discipline of a reset. -/
abbrev cutting : Protocol Api JsError := { cutTrace with allows := CutTrace.mayCall }

/-- The calls that leave no trace. -/
def Op.traceless : Op → Prop
  | .hasher (.verify _ _) => False
  | .user (.update _ _) => False
  | .session (.findManyActive _) => False
  | .session (.upsert _) => False
  | _ => True

/-- Calls beside passwords, sessions and writes of users leave none. -/
theorem Op.within.traceless {op : Op} {areas : List Area} (h : op.within areas)
    (hcheck : .passwordCheck ∉ areas) (hwrite : .userWrite ∉ areas) (hsession : .session ∉ areas) :
    op.traceless := by
  cases op with
  | hasher o =>
    cases o with
    | verify pchstr plaintext => exact absurd (h _ rfl) hcheck
    | hash password => trivial
  | user o =>
    cases o with
    | update id data => exact absurd (h _ rfl) hwrite
    | _ => trivial
  | session o => exact absurd (h _ rfl) hsession
  | _ => trivial

namespace CutTrace

variable {op : Op}

/-- Calls without a trace are not restricted. -/
theorem mayCall_of_traceless (h : op.traceless) (s : CutTrace) : s.mayCall op := by
  cases op with
  | user o =>
    cases o with
    | update id data => exact h.elim
    | _ => trivial
  | session o =>
    cases o with
    | findManyActive v => exact h.elim
    | _ => trivial
  | _ => trivial

/-- Calls without a trace leave the trace as it is. -/
theorem next_of_traceless (h : op.traceless) (s : CutTrace) (r : Except JsError op.Reply) :
    s.next op r = s := by
  cases op with
  | hasher o =>
    cases o with
    | verify pchstr plaintext => exact h.elim
    | hash password => rfl
  | user o =>
    cases o with
    | update id data => exact h.elim
    | _ => rfl
  | session o =>
    cases o with
    | findManyActive v => exact h.elim
    | upsert row => exact h.elim
    | _ => rfl
  | _ => rfl

/-- Calls without a trace are allowed, and leave the trace as it is. -/
theorem stays_of_traceless (h : op.traceless) (s : CutTrace) :
    s.mayCall op ∧ ∀ r, s.next op r = s :=
  ⟨mayCall_of_traceless h s, next_of_traceless h s⟩

end CutTrace

/-- Looking up a reset token leaves none. -/
theorem uses_findByToken (hashedToken : Text) :
    (PrismaPasswordResetTokenRepository.findByToken hashedToken).Uses Op.traceless := by
  unfold PrismaPasswordResetTokenRepository.findByToken
  apply uses_bind
  · exact ⟨trivial, fun _ ↦ trivial⟩
  · exact fun _ ↦ trivial

/-- Looking up a user leaves none. -/
theorem uses_findById (id : Value) : (SavingUserRepository.findById id).Uses Op.traceless := by
  change (PrismaUserRepository.findById id).Uses Op.traceless
  unfold PrismaUserRepository.findById
  apply uses_bind
  · exact ⟨trivial, fun _ ↦ trivial⟩
  · exact fun _ ↦ trivial

/-- Deleting a reset token leaves none. -/
theorem uses_delete (hashedToken : Text) :
    (PrismaPasswordResetTokenRepository.delete hashedToken).Uses Op.traceless := by
  unfold PrismaPasswordResetTokenRepository.delete
  apply uses_tryCatch
  · exact ⟨trivial, fun _ ↦ trivial⟩
  · exact fun _ ↦ trivial

section Rules

variable {α β : Type} {s : CutTrace}

/-- A program without a trace, at the end of a program. -/
theorem ensures_traceless_end {p : Program α} {Q : CutTrace → α → Prop}
    (hp : p.Uses Op.traceless) (hQ : ∀ a, Q s a) : Ensures cutting s p Q :=
  hp.ensures_stay (fun _ hop ↦ CutTrace.stays_of_traceless hop s) hQ

/-- A program without a trace, in front of a program. -/
theorem ensures_traceless {p : Program α} {f : α → Program β} {Q : CutTrace → β → Prop}
    (hp : p.Uses Op.traceless) (hf : ∀ a, Ensures cutting s (f a) Q) :
    Ensures cutting s (p >>= f) Q :=
  hp.ensures_bind (fun _ hop ↦ CutTrace.stays_of_traceless hop s) hf

/-- A helper in front of a program. -/
theorem ensures_helper {p : Program α} {f : α → Program β} {Q : CutTrace → β → Prop}
    (hp : p.Uses Op.auxiliary) (hf : ∀ a, Ensures cutting s (f a) Q) :
    Ensures cutting s (p >>= f) Q :=
  ensures_traceless
    (hp.mono fun _ h ↦ (h.within []).traceless (by simp) (by simp) (by simp)) hf

/-- The body of the loop of a reset. -/
def endSession (reason : String) (session : DeviceSession) : Program DeviceSession := do
  let session ← .done (session.revoke reason)
  PrismaDeviceSessionRepository.save session
  pure session

/-- One session is revoked and saved. -/
theorem ensures_endSession (reason : String) (session : DeviceSession) :
    Ensures cutting s (endSession reason session) fun s' _ ↦
      s' = { s with ended := session.id :: s.ended } := by
  apply Ensures.bind
  apply ensures_done
  intro session' hrevoke
  obtain ⟨-, rfl⟩ := DeviceSession.revoke_ok hrevoke
  apply Ensures.bind
  apply ensures_perform
  · trivial
  · intro _
    exact ensures_pure rfl

/-- Each of some sessions is revoked and saved. -/
theorem ensures_endSessions (reason : String) (sessions : List DeviceSession) :
    Ensures cutting s (each sessions (endSession reason)) fun s' _ ↦
      s'.found = s.found ∧ s'.collected = s.collected ∧ (∀ id ∈ s.ended, id ∈ s'.ended) ∧
        ∀ session ∈ sessions, session.id ∈ s'.ended := by
  induction sessions generalizing s with
  | nil => exact ensures_pure ⟨rfl, rfl, fun _ h ↦ h, fun _ h ↦ absurd h List.not_mem_nil⟩
  | cons session sessions ih =>
    apply (ensures_endSession reason session).seq
    rintro _ _ rfl
    apply ih.seq
    rintro s' _ ⟨hfound, hcollected, hended, hall⟩
    apply ensures_pure
    have hfirst : session.id ∈ s'.ended := hended _ List.mem_cons_self
    exact ⟨hfound, hcollected, fun id hid ↦ hended id (List.mem_cons_of_mem _ hid),
      List.forall_mem_cons.mpr ⟨hfirst, hall⟩⟩

end Rules

/-- The sessions that a reset is given are the ones that it revokes. -/
theorem ResetPasswordService.revokeSessions_cuts {s : CutTrace} {user : User}
    (hwritten : s.written = [user.id]) (hfound : s.found = []) :
    Ensures cutting s (revokeSessions user) fun s' _ ↦
      s'.collected = true ∧ ∀ row ∈ s'.found, row.id ∈ s'.ended := by
  apply Ensures.bind
  apply Ensures.bind
  apply ensures_perform
  · exact ⟨user.id, hwritten, rfl⟩
  · intro rows
    apply ensures_pure
    apply (ensures_endSessions "Password changed" _).mono
    rintro s' _ ⟨hfound', hcollected, -, hall⟩
    refine ⟨hcollected, fun row hrow ↦ ?_⟩
    have hrow : row ∈ rows := by
      rw [hfound'] at hrow
      change row ∈ rows ++ s.found at hrow
      rwa [hfound, List.append_nil] at hrow
    exact hall _ (List.mem_map.mpr ⟨row, hrow, rfl⟩)

/-- A reset that returns has asked for the sessions of its user and has revoked those it was
given. -/
theorem ResetPasswordService.execute_cuts (env : Env) (r : ResetPasswordRequest) :
    Ensures cutting {} (execute env SavingUserRepository r) fun s _ ↦
      s.collected = true ∧ ∀ row ∈ s.found, row.id ∈ s.ended := by
  unfold execute
  apply ensures_traceless (uses_findByToken _)
  intro resetToken
  cases resetToken with
  | none => exact ensures_throw
  | some resetToken =>
    dsimp only [redeem]
    apply ensures_helper SystemClock.now_uses
    intro now
    split
    · exact ensures_throw
    · split
      · exact ensures_throw
      · apply ensures_traceless (uses_findById _)
        intro user
        cases user with
        | none => exact ensures_throw
        | some user =>
          dsimp only [changePassword]
          apply ensures_helper (Argon2PasswordHasher.hash_uses ..)
          intro newPasswordHash
          apply ensures_traceless (uses_done _ _)
          intro user'
          apply Ensures.bind
          apply ensures_perform
          · exact rfl
          · intro _
            apply ensures_helper SystemClock.now_uses
            intro _
            apply ensures_traceless (uses_done _ _)
            intro _
            apply ensures_traceless (uses_delete _)
            intro _
            apply (revokeSessions_cuts rfl rfl).seq
            intro s' sessions hs'
            apply ensures_traceless_end
            · exact (dispatchEvents_uses r user' sessions).mono
                fun _ h ↦ h.traceless (by simp) (by simp) (by simp)
            · exact fun _ ↦ hs'

/-! ### Passwords are checked before sessions are created -/

/-- A password is checked only by a request that has created no session. -/
def Ledger.checksFirst (l : Ledger) : Op → Prop
  | .hasher (.verify _ _) => l.created = []
  | _ => True

/-- The discipline of checking passwords before sessions are created, over the ledgers. -/
abbrev checkingFirst : Protocol Api JsError := { sessionLedger with allows := Ledger.checksFirst }

section ChecksFirst

variable {α β : Type} {env : Env} {users : IUserRepository} {l : Ledger} {areas : List Area}

/-- Any call but a password check is allowed. -/
theorem Ledger.checksFirst_of_within {op : Op} (hop : op.within areas)
    (hcheck : .passwordCheck ∉ areas) (l : Ledger) : l.checksFirst op := by
  cases op with
  | hasher o =>
    cases o with
    | hash password => trivial
    | verify pchstr plaintext => exact absurd (hop _ rfl) hcheck
  | _ => trivial

/-- A program that checks no password. -/
theorem ensures_unchecked {p : Program α} (hp : p.Uses (Op.within areas))
    (hcheck : .passwordCheck ∉ areas) : Ensures checkingFirst l p fun _ _ ↦ True := by
  apply hp.ensures (P := checkingFirst) fun _ ↦ True
  · exact fun l _ _ hop ↦ ⟨Ledger.checksFirst_of_within hop hcheck l, fun _ ↦ trivial⟩
  · trivial

/-- A program that neither checks passwords nor creates sessions. -/
theorem ensures_uncreated {p : Program α} (hp : p.Uses (Op.within areas))
    (hcheck : .passwordCheck ∉ areas) (hsession : .session ∉ areas) (hl : l.created = []) :
    Ensures checkingFirst l p fun l' _ ↦ l'.created = [] := by
  apply hp.ensures (P := checkingFirst) fun l' ↦ l'.created = []
  · intro l' op hl' hop
    refine ⟨Ledger.checksFirst_of_within hop hcheck l', fun r ↦ ?_⟩
    have hwrites : (l'.next op r).created = l'.created := by
      apply (l'.next_writes r _).2
      rintro row rfl
      exact hsession (hop _ rfl)
    rwa [hwrites]
  · exact hl

/-- A password check. -/
theorem ensures_verify (pchstr plaintext : String) (hl : l.created = []) :
    Ensures checkingFirst l (Argon2PasswordHasher.verify env pchstr plaintext) fun _ _ ↦ True := by
  refine ⟨hl, fun r ↦ ?_⟩
  cases r with
  | ok b => exact fun _ _ ↦ trivial
  | error e => exact fun _ _ ↦ trivial

/-- A login checks one password, before it creates a session. -/
theorem LoginService.execute_checksFirst (hu : users.Proper) (r : LoginRequest) :
    Ensures checkingFirst {} (execute env users r) fun _ _ ↦ True := by
  have hrefuse : ∀ {l : Ledger} (hash), l.created = [] →
      Ensures checkingFirst l (refuse env hash r.passwordRaw) fun _ _ ↦ True :=
    fun hash hl ↦ (ensures_verify hash r.passwordRaw hl).seq fun _ _ _ ↦ ensures_throw
  have hright : ∀ user, (rightPassword env users r user).Uses
      (Op.within [.userWrite, .session, .audit]) := by
    intro user
    apply uses_bind (uses_done _ _)
    intro user
    apply uses_bind (uses_wider (hu.update_uses user) (by simp))
    intro _
    exact uses_wider (openSession_uses hu env r user) (by simp)
  have hwrong : ∀ user, (wrongPassword users user).Uses (Op.within [.userWrite]) :=
    fun user ↦ uses_bind (hu.update_uses _) fun _ ↦ trivial
  unfold execute
  dsimp only
  split
  · apply (ensures_uncreated (hu.findByEmail_uses _) (by simp) (by simp) rfl).seq
    intro l user hl
    cases user with
    | none => exact hrefuse _ hl
    | some user =>
      dsimp only
      split
      · exact hrefuse _ hl
      · apply (ensures_verify _ _ hl).seq
        intro l' valid _
        split
        · exact ensures_unchecked (hright user) (by simp)
        · exact ensures_unchecked (hwrong user) (by simp)
  · exact hrefuse _ rfl

/-- Every request checks passwords before it creates sessions. -/
theorem serve_checksFirst (hu : users.Proper) (req : Request) :
    Ensures checkingFirst {} (serve env users req) fun _ _ ↦ True := by
  cases req with
  | login r => exact ensures_respond (LoginService.execute_checksFirst hu r)
  | refresh token ip ua =>
    exact ensures_unchecked (serve_uses hu env (.refresh token ip ua)) (by simp [Request.areas])
  | logout r ip ua =>
    exact ensures_unchecked (serve_uses hu env (.logout r ip ua)) (by simp [Request.areas])
  | resetPassword r =>
    exact ensures_unchecked (serve_uses hu env (.resetPassword r)) (by simp [Request.areas])
  | verifyEmail r =>
    exact ensures_unchecked (serve_uses hu env (.verifyEmail r)) (by simp [Request.areas])
  | guarded guard req =>
    exact ensures_unchecked (serve_uses hu env (.guarded guard req)) (by simp [Request.areas])
  | gateway a =>
    exact ensures_unchecked (serve_uses hu env (.gateway a)) (by simp [Request.areas])

end ChecksFirst

/-! ### The reset among other requests -/

/-- The token that a call has signed. -/
def signedToken {ι : Type} : Entry Api JsError ι → Option Text
  | ⟨_, .jwtSign _, .ok token⟩ => some token
  | _ => none

section Log

variable {ι : Type} [DecidableEq ι]

/-- The request `i` has written a user. -/
def writesUser (i : ι) : Entry Api JsError ι → Bool
  | ⟨j, .user (.update _ _), .ok _⟩ => decide (j = i)
  | _ => false

/-- What the requests have done. -/
def Server.trace (q : Server ι) : ι → CutTrace := Pool.phase cutTrace {} q.log

omit [DecidableEq ι] in
/-- A call that fails signs nothing. -/
theorem signedToken_error {i : ι} {op : Op} (e : JsError) :
    signedToken (⟨i, op, .error e⟩ : Entry Api JsError ι) = none := by
  cases op <;> rfl

/-- What a request has saved as revoked, in its trace and in its ledger. -/
theorem CutTrace.ended_next {s : CutTrace} {l : Ledger} (h : s.ended = l.revoked.map (·.id))
    (op : Op) (r : Except JsError op.Reply) :
    (s.next op r).ended = (l.next op r).revoked.map (·.id) := by
  by_cases hup : ∃ row, op = .session (.upsert row)
  · obtain ⟨row, rfl⟩ := hup
    cases r with
    | error e => exact h
    | ok a =>
      cases hrow : row.isRevoked with
      | true => simp [next, Ledger.next, hrow, h]
      | false => simp [next, Ledger.next, hrow, h]
  · have hup : ∀ row, op ≠ .session (.upsert row) := fun row he ↦ hup ⟨row, he⟩
    rw [(l.next_writes r hup).1, ← h]
    unfold next
    split <;> first | rfl | exact absurd rfl (hup _)

/-- Everywhere in a run the two agree. -/
theorem Server.ended_trace (q : Server ι) (i : ι) :
    (q.trace i).ended = (q.ledger i).revoked.map (·.id) := by
  unfold trace ledger
  induction q.log using List.reverseRecOn with
  | nil => rfl
  | append_singleton log e ih =>
    rw [Pool.phase_append, Pool.phase_append]
    by_cases hwho : e.who = i
    · rw [if_pos hwho, if_pos hwho]
      exact CutTrace.ended_next ih e.op e.reply
    · rw [if_neg hwho, if_neg hwho]
      exact ih

/-- A call that adds to what was written writes a user. -/
theorem CutTrace.written_next (s : CutTrace) (i : ι) (op : Op) (r : Except JsError op.Reply) :
    (s.next op r).written = s.written ∨ writesUser i ⟨i, op, r⟩ = true := by
  cases op with
  | hasher o => cases o <;> rcases r with _ | (_ | _) <;> exact .inl rfl
  | user o =>
    cases o with
    | update id data =>
      cases r with
      | error e => exact .inl rfl
      | ok a => exact .inr (decide_eq_true rfl)
    | _ => exact .inl rfl
  | session o =>
    cases o with
    | findManyActive v => cases r <;> exact .inl rfl
    | upsert row =>
      cases r with
      | error e => exact .inl rfl
      | ok a => cases hrow : row.isRevoked <;> simp [next, hrow]
    | _ => exact .inl rfl
  | _ => exact .inl rfl

/-- A request that has written a user has done so by one of its calls. -/
theorem exists_writesUser {log : List (Entry Api JsError ι)} {i : ι}
    (h : (Pool.phase cutTrace {} log i).written ≠ []) : ∃ e ∈ log, writesUser i e = true := by
  induction log using List.reverseRecOn with
  | nil => exact absurd rfl h
  | append_singleton log e ih =>
    rw [Pool.phase_append] at h
    by_cases hwho : e.who = i
    · subst hwho
      rw [if_pos rfl] at h
      rcases CutTrace.written_next (Pool.phase cutTrace {} log e.who) e.who e.op e.reply with
        hsame | hwrites
      · change (CutTrace.next _ e.op e.reply).written ≠ [] at h
        rw [hsame] at h
        obtain ⟨e', he', hwrites⟩ := ih h
        exact ⟨e', List.mem_append_left _ he', hwrites⟩
      · exact ⟨e, List.mem_append_right _ (List.mem_singleton.mpr rfl), hwrites⟩
    · rw [if_neg hwho] at h
      obtain ⟨e', he', hwrites⟩ := ih h
      exact ⟨e', List.mem_append_left _ he', hwrites⟩

end Log

/-- A password reset among other requests: all requests, the world before any of them, the row of
the user there, and the name of the reset. -/
structure Cutoff (ι : Type) where
  reqs : ι → Request
  start : World
  user : UserRow
  reset : ι

/-- The request is a refresh of one of the tokens. -/
def Request.RefreshesOneOf (tokens : List Text) : Request → Prop
  | .refresh token _ _ => token ∈ tokens
  | _ => False

instance (tokens : List Text) : (req : Request) → Decidable (req.RefreshesOneOf tokens)
  | .refresh token _ _ => inferInstanceAs (Decidable (token ∈ tokens))
  | .login _ => isFalse not_false
  | .logout _ _ _ => isFalse not_false
  | .resetPassword _ => isFalse not_false
  | .verifyEmail _ => isFalse not_false
  | .guarded _ _ => isFalse not_false
  | .gateway _ => isFalse not_false

/-- The call asks for the active sessions of a user. -/
def Op.asksForSessions : Op → Bool
  | .session (.findManyActive _) => true
  | _ => false

/-- The session that a call saves. -/
def Op.savedSession : Op → Option DeviceSessionRow
  | .session (.upsert row) => some row
  | _ => none

namespace Cutoff

variable {ι : Type} [DecidableEq ι] (c : Cutoff ι) (q : Server ι)

/-- The tokens that were signed before the reset wrote its user. -/
def issuedBefore : List Text :=
  c.start.minted.map (·.token) ++
    (q.log.takeWhile fun e ↦ !writesUser c.reset e).filterMap signedToken

/-- The request has checked the hash that was stored before, or is a refresh of a token that was
signed before the reset wrote its user. -/
def OldRequest (i : ι) : Prop :=
  c.user.passwordHash ∈ (q.trace i).checked ∨ (c.reqs i).RefreshesOneOf (c.issuedBefore q)

/-- The session was there from the start, or such a request has created it. -/
def OldSession (id : String) : Prop :=
  (∃ r ∈ c.start.deviceSessions, r.id = id) ∨
    ∃ i, (∃ r ∈ (q.ledger i).created, r.id = id) ∧ c.OldRequest q i

/-- When the reset asks for the active sessions, no old session of the user has ended
unrevoked. -/
def AsksInTime : Prop :=
  ∀ r ∈ q.world.deviceSessions.rows, r.userId = c.user.id → r.isRevoked = false →
    c.OldSession q r.id → q.world.now < r.expiresAt

/-- No old request opens a session of the user once the reset has asked for the active sessions. -/
def OpensNone (i : ι) (row : DeviceSessionRow) : Prop :=
  (q.trace c.reset).collected = true → row.userId = c.user.id → row.isRevoked = false →
    ¬ c.OldRequest q i

/-- The condition on a turn: what the reset asks for is complete, and nothing is added to it. -/
def NothingEscapes (q : Server ι) : ServerTurn ι → Prop
  | .act i => (i = c.reset → (q.pending i).any Op.asksForSessions = true → c.AsksInTime q) ∧
      ∀ row ∈ (q.pending i).bind Op.savedSession, c.OpensNone q i row
  | _ => True

/-- No old session of the user is unrevoked. -/
def CutsOff : Prop :=
  ∀ r ∈ q.world.deviceSessions.rows, r.userId = c.user.id → c.OldSession q r.id →
    r.isRevoked = true

section Decidable

variable [Fintype ι]

instance (i : ι) : Decidable (c.OldRequest q i) := inferInstanceAs (Decidable (_ ∨ _))

instance (id : String) : Decidable (c.OldSession q id) :=
  inferInstanceAs (Decidable ((∃ r ∈ c.start.deviceSessions.rows, r.id = id) ∨
    ∃ i, (∃ r ∈ (q.ledger i).created, r.id = id) ∧ c.OldRequest q i))

instance : Decidable (c.AsksInTime q) :=
  inferInstanceAs (Decidable (∀ r ∈ q.world.deviceSessions.rows, _ → _ → _ → _))

instance (i : ι) (row : DeviceSessionRow) : Decidable (c.OpensNone q i row) :=
  inferInstanceAs (Decidable (_ → _ → _ → _))

instance : (t : ServerTurn ι) → Decidable (c.NothingEscapes q t)
  | .act i => inferInstanceAs (Decidable (
      (i = c.reset → (q.pending i).any Op.asksForSessions = true → c.AsksInTime q) ∧
        ∀ row ∈ (q.pending i).bind Op.savedSession, c.OpensNone q i row))
  | .fail _ _ => isTrue trivial
  | .pass _ => isTrue trivial

instance : Decidable (c.CutsOff q) :=
  inferInstanceAs (Decidable (∀ r ∈ q.world.deviceSessions.rows, _ → _ → _))

end Decidable

/-- Every unrevoked old session of the user is among those that the reset has been given. -/
def Contained : Prop :=
  (q.trace c.reset).collected = true → c.user.id ∈ (q.trace c.reset).written →
    ∀ r ∈ q.world.deviceSessions, r.userId = c.user.id → r.isRevoked = false →
      c.OldSession q r.id → ∃ row ∈ (q.trace c.reset).found, row.id = r.id

end Cutoff

/-! ### One turn -/

namespace CutTrace

variable {s : CutTrace} {op : Op}

/-- Only a request for the active sessions adds to what was found. -/
theorem found_next (h : ∀ v, op ≠ .session (.findManyActive v)) (s : CutTrace)
    (r : Except JsError op.Reply) :
    (s.next op r).found = s.found ∧ (s.next op r).collected = s.collected := by
  unfold next
  split
  · exact ⟨rfl, rfl⟩
  · exact ⟨rfl, rfl⟩
  · exact absurd rfl (h _)
  · split <;> exact ⟨rfl, rfl⟩
  · exact ⟨rfl, rfl⟩

/-- A reset writes no user once it has asked for the active sessions. -/
theorem written_next_of_mayCall (h : s.mayCall op) (hcollected : s.collected = true)
    (r : Except JsError op.Reply) : (s.next op r).written = s.written := by
  unfold next
  split
  · rfl
  · change s.collected = false at h
    rw [hcollected] at h
    cases h
  · rfl
  · split <;> rfl
  · rfl

/-- Only a password check adds to what was checked. -/
theorem checked_next (h : ∀ hash password, op ≠ .hasher (.verify hash password)) (s : CutTrace)
    (r : Except JsError op.Reply) : (s.next op r).checked = s.checked := by
  unfold next
  split
  · exact absurd rfl (h _ _)
  · rfl
  · rfl
  · split <;> rfl
  · rfl

/-- Asking for active sessions writes no user. -/
theorem written_of_asked (s : CutTrace) (v : Value) (r : Except JsError (List DeviceSessionRow)) :
    (s.next (.session (.findManyActive v)) r).written = s.written := by
  cases r <;> rfl

/-- A reset that has asked for the active sessions has written their user. -/
theorem written_of_collected (h : s.mayCall op)
    (hs : s.collected = true → ∃ id, s.written = [id]) (r : Except JsError op.Reply)
    (hcollected : (s.next op r).collected = true) : ∃ id, (s.next op r).written = [id] := by
  by_cases hasks : ∃ v, op = .session (.findManyActive v)
  · obtain ⟨v, rfl⟩ := hasks
    obtain ⟨id, hid, -⟩ := h
    cases r with
    | error e => exact ⟨id, hid⟩
    | ok rows => exact ⟨id, hid⟩
  · have hasks : ∀ v, op ≠ .session (.findManyActive v) := fun v he ↦ hasks ⟨v, he⟩
    rw [(found_next hasks s r).2] at hcollected
    rw [written_next_of_mayCall h hcollected r]
    exact hs hcollected

end CutTrace

namespace Cutoff

variable {ι : Type} [DecidableEq ι] {c : Cutoff ι} {q : Server ι} {i : ι} {op : Op}
  {r : Except JsError op.Reply} {next : Except JsError op.Reply → Program Response} {w : World}

/-- The tokens signed before the reset wrote its user are known once it has, and a call that signs
nothing adds none. -/
theorem issuedBefore_record
    (h : (q.trace c.reset).written ≠ [] ∨
      signedToken (⟨i, op, r⟩ : Entry Api JsError ι) = none) :
    c.issuedBefore (q.record i op r next w) = c.issuedBefore q := by
  unfold issuedBefore Pool.record
  dsimp only
  rw [List.takeWhile_append]
  split
  · next hall =>
    rcases h with hwritten | hnone
    · obtain ⟨e, he, hwrites⟩ := exists_writesUser hwritten
      have hall := List.takeWhile_eq_self_iff.mp
        ((List.takeWhile_prefix _).eq_of_length hall) e he
      rw [hwrites] at hall
      cases hall
    · have hself := (List.takeWhile_prefix _).eq_of_length hall
      rw [hself, List.filterMap_append]
      congr 1
      rw [List.takeWhile_cons]
      split
      · rw [List.takeWhile_nil, List.filterMap_cons, hnone, List.filterMap_nil, List.append_nil]
      · rw [List.filterMap_nil, List.append_nil]
  · rfl

/-- A request stays old or not while it checks no password and no token is signed in time. -/
theorem oldRequest_record {j : ι}
    (hchecked : j ≠ i ∨ ((q.trace i).next op r).checked = (q.trace i).checked)
    (h : (q.trace c.reset).written ≠ [] ∨
      signedToken (⟨i, op, r⟩ : Entry Api JsError ι) = none) :
    c.OldRequest (q.record i op r next w) j ↔ c.OldRequest q j := by
  have htrace : (Server.trace (q.record i op r next w) j).checked = (q.trace j).checked := by
    unfold Server.trace
    rw [Pool.phase_record]
    by_cases hj : j = i
    · subst hj
      rw [Function.update_self]
      exact hchecked.resolve_left fun h ↦ h rfl
    · rw [Function.update_of_ne hj]
  unfold OldRequest
  rw [issuedBefore_record h, htrace]

/-- A call that creates no session of an id makes none of that id old. -/
theorem oldSession_of_record {id : String}
    (hcreated : ∀ a ∈ ((q.ledger i).next op r).created, a.id = id → a ∈ (q.ledger i).created)
    (hchecked : (q.ledger i).created = [] ∨
      ((q.trace i).next op r).checked = (q.trace i).checked)
    (h : (q.trace c.reset).written ≠ [] ∨
      signedToken (⟨i, op, r⟩ : Entry Api JsError ι) = none)
    (hold : c.OldSession (q.record i op r next w) id) : c.OldSession q id := by
  rcases hold with hstart | ⟨j, ⟨row, hrow, hid⟩, hreq⟩
  · exact .inl hstart
  · have hmem : row ∈ (q.ledger j).created := by
      unfold Server.ledger at hrow
      rw [Pool.phase_record] at hrow
      by_cases hj : j = i
      · subst hj
        rw [Function.update_self] at hrow
        exact hcreated row hrow hid
      · rwa [Function.update_of_ne hj] at hrow
    refine .inr ⟨j, ⟨row, hmem, hid⟩, ?_⟩
    apply (oldRequest_record _ h).mp hreq
    by_cases hj : j = i
    · subst hj
      rcases hchecked with hnone | hchecked
      · rw [hnone] at hmem
        cases hmem
      · exact .inr hchecked
    · exact .inl hj

/-- What the reset has been given stays complete when no session becomes old or unrevoked. -/
theorem Contained.record (hc : c.Contained q)
    (hasks : i = c.reset → ((q.trace i).next op r).found = (q.trace i).found ∧
      ((q.trace i).next op r).collected = (q.trace i).collected)
    (hwrites : i = c.reset → (q.trace i).collected = true →
      ((q.trace i).next op r).written = (q.trace i).written)
    (hold : (q.trace c.reset).collected = true → ∀ s ∈ w.deviceSessions, s.userId = c.user.id →
      s.isRevoked = false → c.OldSession (q.record i op r next w) s.id →
      s ∈ q.world.deviceSessions ∧ c.OldSession q s.id) :
    c.Contained (q.record i op r next w) := by
  have htrace : (Server.trace (q.record i op r next w) c.reset).found = (q.trace c.reset).found ∧
      (Server.trace (q.record i op r next w) c.reset).collected = (q.trace c.reset).collected ∧
      ((q.trace c.reset).collected = true →
        (Server.trace (q.record i op r next w) c.reset).written = (q.trace c.reset).written) := by
    unfold Server.trace
    rw [Pool.phase_record]
    by_cases hi : c.reset = i
    · rw [hi, Function.update_self]
      exact ⟨(hasks hi.symm).1, (hasks hi.symm).2, hwrites hi.symm⟩
    · rw [Function.update_of_ne hi]
      exact ⟨rfl, rfl, fun _ ↦ rfl⟩
  obtain ⟨hfound, hcollected, hwritten⟩ := htrace
  unfold Contained
  rw [hfound, hcollected]
  intro hcol hmem s hs huser hrev holds
  rw [hwritten hcol] at hmem
  obtain ⟨hs', holds'⟩ := hold hcol s hs huser hrev holds
  exact hc hcol hmem s hs' huser hrev holds'

/-- A call that fails changes nothing. -/
theorem Contained.fail (hc : c.Contained q) (e : JsError)
    {next : Except JsError op.Reply → Program Response} :
    c.Contained (q.record i op (.error e) next q.world) := by
  have htrace : (q.trace i).next op (.error e) = q.trace i := CutTrace.next_error ..
  apply hc.record
  · rw [htrace]
    exact fun _ ↦ ⟨rfl, rfl⟩
  · rw [htrace]
    exact fun _ _ ↦ rfl
  · intro _ s hs _ _ hold
    refine ⟨hs, oldSession_of_record ?_ (.inr ?_) (.inr (signedToken_error e)) hold⟩
    · rw [Ledger.next_error]
      exact fun a ha _ ↦ ha
    · rw [htrace]

section Reached

variable {env : Env} {request : ResetPasswordRequest} {ok : Server ι → ServerTurn ι → Prop}

omit [DecidableEq ι] in
/-- The reset keeps to its discipline. -/
theorem serve_cuts (hreset : c.reqs c.reset = .resetPassword request) :
    Ensures cutting {} (serve env SavingUserRepository (c.reqs c.reset)) fun s _ ↦
      s.collected = true ∧ ∀ row ∈ s.found, row.id ∈ s.ended := by
  rw [hreset]
  exact ensures_respond (ResetPasswordService.execute_cuts env request)

/-- What the reset is about to do. -/
theorem mayCall_reached (hreset : c.reqs c.reset = .resetPassword request)
    (hq : Server.Reaches env ok (Server.start env SavingUserRepository c.reqs c.start) q)
    (hi : q.rest c.reset = .call op next) : (q.trace c.reset).mayCall op :=
  Pool.Reaches.allows (P := cutting) hq (serve_cuts hreset) hi

/-- A reset that has returned has revoked what it was given. -/
theorem cuts_reached (hreset : c.reqs c.reset = .resetPassword request)
    (hq : Server.Reaches env ok (Server.start env SavingUserRepository c.reqs c.start) q)
    {a : Response} (hret : q.Returned c.reset a) :
    (q.trace c.reset).collected = true ∧
      ∀ row ∈ (q.trace c.reset).found, row.id ∈ (q.trace c.reset).ended :=
  Pool.Reaches.post_of_done (P := cutting) hq (serve_cuts hreset) hret a rfl

/-- A reset that has asked for the active sessions has written a user. -/
theorem written_reached (hreset : c.reqs c.reset = .resetPassword request)
    (hq : Server.Reaches env ok (Server.start env SavingUserRepository c.reqs c.start) q)
    (hcollected : (q.trace c.reset).collected = true) : (q.trace c.reset).written ≠ [] := by
  have hkeeps := Pool.Reaches.phase_keeps (P := cutting)
    (J := fun s ↦ s.collected = true → ∃ id, s.written = [id]) hq (serve_cuts hreset)
    (fun h ↦ nomatch h)
    fun s op r hs hop ↦ CutTrace.written_of_collected hop hs r
  obtain ⟨id, hid⟩ := hkeeps hcollected
  change (q.trace c.reset).written = [id] at hid
  rw [hid]
  exact List.cons_ne_nil _ _

/-- A request that has created a session checks no password. -/
theorem checked_reached
    (hq : Server.Reaches env ok (Server.start env SavingUserRepository c.reqs c.start) q)
    (hi : q.rest i = .call op next) (r : Except JsError op.Reply) :
    (q.ledger i).created = [] ∨ ((q.trace i).next op r).checked = (q.trace i).checked := by
  by_cases hcheck : ∃ hash password, op = .hasher (.verify hash password)
  · obtain ⟨hash, password, rfl⟩ := hcheck
    exact .inl (Pool.Reaches.allows (P := checkingFirst) hq
      (serve_checksFirst SavingUserRepository.proper (c.reqs i)) hi)
  · exact .inr (CutTrace.checked_next (fun hash password he ↦ hcheck ⟨hash, password, he⟩) _ r)

end Reached

/-- Asking for active sessions makes no session old. -/
theorem oldSession_of_asked {v : Value} {r : Except JsError (List DeviceSessionRow)}
    {next : Except JsError (List DeviceSessionRow) → Program Response} {id : String}
    (hold : c.OldSession
      (q.record i (.session (.findManyActive v) : Op) r next w) id) : c.OldSession q id := by
  refine oldSession_of_record (fun a ha _ ↦ ?_) (.inr ?_) (.inr rfl) hold
  · cases r with
    | error e => exact ha
    | ok rows => exact ha
  · cases r with
    | error e => rfl
    | ok rows => rfl

/-- The reset is given every unrevoked old session when it asks in time. -/
theorem Contained.asks {env : Env} {v : Value}
    {next : Except JsError (List DeviceSessionRow) → Program Response}
    (hparse : env.parseUuid c.user.id = some c.user.id) (hc : c.Contained q)
    (hmay : i = c.reset → (q.trace i).mayCall (.session (.findManyActive v)))
    (hok : i = c.reset → c.AsksInTime q) :
    c.Contained (q.record i (.session (.findManyActive v) : Op)
      (exec env q.world (.session (.findManyActive v))).1 next
      (exec env q.world (.session (.findManyActive v))).2) := by
  have hsessions : (exec env q.world (.session (.findManyActive v))).2.deviceSessions =
      q.world.deviceSessions := exec_deviceSessions env q.world (by simp)
  by_cases hi : i = c.reset
  · obtain ⟨id, hwritten, rfl⟩ := hmay hi
    subst hi
    intro _ hmem s hs huser hrev hold
    change s ∈ (exec env q.world (.session (.findManyActive (.str id)))).2.deviceSessions at hs
    rw [hsessions] at hs
    have hlive : q.world.now < s.expiresAt := hok rfl s hs huser hrev (oldSession_of_asked hold)
    unfold Server.trace at hmem ⊢
    rw [Pool.phase_record, Function.update_self] at hmem ⊢
    have hid : c.user.id = id := by
      change c.user.id ∈ ((q.trace c.reset).next _ _).written at hmem
      rw [CutTrace.written_of_asked, hwritten] at hmem
      exact List.mem_singleton.mp hmem
    subst hid
    rw [exec_findManyActive hparse]
    have hactive : s.active q.world.now = true := by simp [DeviceSessionRow.active, hrev, hlive]
    have hfound : s ∈ q.world.deviceSessions.rows.filter fun r ↦
        decide (r.userId = c.user.id) && r.active q.world.now :=
      List.mem_filter.mpr ⟨hs, by simp [huser, hactive]⟩
    exact ⟨s, List.mem_append_left _ hfound, rfl⟩
  · apply hc.record
    · exact fun h ↦ absurd h hi
    · exact fun h ↦ absurd h hi
    · intro _ s hs _ _ hold
      rw [hsessions] at hs
      exact ⟨hs, oldSession_of_asked hold⟩

section Saves

variable {env : Env} {row : DeviceSessionRow} {r : Except JsError Unit}
  {next : Except JsError Unit → Program Response}

/-- Saving a session leaves the rest of a trace alone. -/
theorem trace_of_saved (s : CutTrace) (row : DeviceSessionRow) (r : Except JsError Unit) :
    (s.next (.session (.upsert row)) r).checked = s.checked ∧
      (s.next (.session (.upsert row)) r).written = s.written ∧
      (s.next (.session (.upsert row)) r).collected = s.collected ∧
      (s.next (.session (.upsert row)) r).found = s.found := by
  cases r with
  | error e => exact ⟨rfl, rfl, rfl, rfl⟩
  | ok a => cases hrow : row.isRevoked <;> simp [CutTrace.next, hrow]

/-- Saving a session makes no session of another id old. -/
theorem oldSession_of_saved {id : String}
    (hcreated : ∀ a ∈ ((q.ledger i).next (.session (.upsert row)) r).created, a.id = id →
      a ∈ (q.ledger i).created)
    (hold : c.OldSession (q.record i (.session (.upsert row) : Op) r next w) id) :
    c.OldSession q id :=
  oldSession_of_record hcreated (.inr (trace_of_saved _ row r).1) (.inr rfl) hold

/-- A session under a free identifier is old only if an old request saves it. -/
theorem not_oldSession_of_created (hacc : Accounted env q.world q.ledger)
    (hadv : c.start.deviceSessions.Advances q.world.deviceSessions)
    (hfree : ∀ s ∈ q.world.deviceSessions, s.id ≠ row.id) (hok : ¬ c.OldRequest q i) :
    ¬ c.OldSession (q.record i (.session (.upsert row) : Op) r next w) row.id := by
  have habsent : ∀ a : DeviceSessionRow, a.id = row.id →
      ¬ ∃ s ∈ q.world.deviceSessions, a.Later s := by
    rintro a ha ⟨s, hs, hlater⟩
    exact hfree s hs (hlater.keys.1.trans ha)
  rintro (⟨a, ha, hid⟩ | ⟨j, ⟨a, ha, hid⟩, hreq⟩)
  · exact habsent a hid (hadv a ha)
  · have hrequest : c.OldRequest q j :=
      (oldRequest_record (.inr (trace_of_saved _ row r).1) (.inr rfl)).mp hreq
    by_cases hj : j = i
    · rw [hj] at hrequest
      exact hok hrequest
    · unfold Server.ledger at ha
      rw [Pool.phase_record, Function.update_of_ne hj] at ha
      exact habsent a hid ((hacc.fits j).created a ha)

/-- A session that is saved once the reset has asked is not an old one. -/
theorem Contained.saves (hacc : Accounted env q.world q.ledger)
    (hadv : c.start.deviceSessions.Advances q.world.deviceSessions)
    (hallowed : (q.ledger i).allows (.session (.upsert row))) (hc : c.Contained q)
    (hok : c.OpensNone q i row) :
    c.Contained (q.record i (.session (.upsert row) : Op)
      (exec env q.world (.session (.upsert row))).1 next
      (exec env q.world (.session (.upsert row))).2) := by
  apply hc.record
  · intro _
    obtain ⟨-, -, hcollected, hfound⟩ := trace_of_saved (q.trace i) row
      (exec env q.world (.session (.upsert row))).1
    exact ⟨hfound, hcollected⟩
  · intro _ _
    exact (trace_of_saved (q.trace i) row _).2.1
  · intro hcol s hs huser hrev hold
    rcases hacc.upsert_cases hallowed with
      ⟨hact, hdrawn, t, he, hi⟩ | ⟨hrow, v, hv, -, he⟩ | ⟨e, he⟩
    · have hfree := (hacc.fits i).free row.id hdrawn
      rw [he] at hs hold
      rcases (Table.mem_insert hi).mp hs with hstored | rfl
      · refine ⟨hstored, oldSession_of_saved (fun a ha hid ↦ ?_) hold⟩
        simp only [Ledger.next, hact, Bool.false_eq_true, if_false] at ha
        rcases List.mem_cons.mp ha with rfl | ha
        · exact absurd hid.symm (hfree s hstored)
        · exact ha
      · exact absurd hold (not_oldSession_of_created hacc hadv hfree (hok hcol huser hrev))
    · rw [he] at hs hold
      obtain ⟨u, hu, rfl⟩ := DeviceSessionTable.mem_revoke.mp hs
      have hsame : u.write row.id true = u := by
        unfold DeviceSessionRow.write at hrev ⊢
        split at hrev
        · cases hrev
        · next hne => rw [if_neg hne]
      rw [hsame] at hold ⊢
      refine ⟨hu, oldSession_of_saved (fun a ha _ ↦ ?_) hold⟩
      simpa only [Ledger.next, hrow, if_true] using ha
    · rw [he] at hs hold
      refine ⟨hs, oldSession_of_saved (fun a ha _ ↦ ?_) hold⟩
      rwa [Ledger.next_error] at ha

end Saves

/-- Any other call opens no session, and makes none old once the reset has asked. -/
theorem Contained.other {env : Env} (hasks : ∀ v, op ≠ .session (.findManyActive v))
    (hsaves : ∀ row, op ≠ .session (.upsert row))
    (hchecked : (q.ledger i).created = [] ∨
      ((q.trace i).next op (exec env q.world op).1).checked = (q.trace i).checked)
    (hmay : i = c.reset → (q.trace i).mayCall op)
    (hwritten : (q.trace c.reset).collected = true → (q.trace c.reset).written ≠ [])
    (hc : c.Contained q) :
    c.Contained (q.record i op (exec env q.world op).1 next (exec env q.world op).2) := by
  apply hc.record
  · exact fun _ ↦ CutTrace.found_next hasks _ _
  · exact fun hi hcol ↦ CutTrace.written_next_of_mayCall (hmay hi) hcol _
  · intro hcol s hs _ _ hold
    rw [exec_deviceSessions env q.world hsaves] at hs
    refine ⟨hs, oldSession_of_record (fun a ha _ ↦ ?_) hchecked (.inl (hwritten hcol)) hold⟩
    rwa [((q.ledger i).next_writes _ hsaves).2] at ha

/-- One turn, as the condition allows it. -/
theorem Contained.act {env : Env} {request : ResetPasswordRequest}
    (hparse : env.parseUuid c.user.id = some c.user.id) (hfresh : FreshUuids env c.start)
    (hreset : c.reqs c.reset = .resetPassword request)
    (hq : Server.Reaches env c.NothingEscapes
      (Server.start env SavingUserRepository c.reqs c.start) q)
    (hok : c.NothingEscapes q (.act i)) (hi : q.rest i = .call op next) (hc : c.Contained q) :
    c.Contained (q.record i op (exec env q.world op).1 next (exec env q.world op).2) := by
  have hpending : q.pending i = some op := Pool.pending_of_rest hi
  have hmay : i = c.reset → (q.trace i).mayCall op := by
    rintro rfl
    exact mayCall_reached hreset hq hi
  by_cases hasks : ∃ v, op = .session (.findManyActive v)
  · obtain ⟨v, rfl⟩ := hasks
    have hasks := hok.1
    rw [hpending] at hasks
    exact hc.asks hparse hmay fun hreset ↦ hasks hreset rfl
  · by_cases hsaves : ∃ row, op = .session (.upsert row)
    · obtain ⟨row, rfl⟩ := hsaves
      have hproper := SavingUserRepository.proper
      have hstart : Server.Reaches env anyTurn
          (Server.start env SavingUserRepository c.reqs c.start)
          (Server.start env SavingUserRepository c.reqs c.start) := .refl
      apply hc.saves (Server.Reaches.accounted hproper hq hfresh)
        (Server.Reaches.advances hproper hfresh hstart hq) (Server.Reaches.allowed hproper hq hi)
      apply hok.2
      rw [hpending]
      rfl
    · exact hc.other (fun v he ↦ hasks ⟨v, he⟩) (fun row he ↦ hsaves ⟨row, he⟩)
        (checked_reached hq hi _) hmay (written_reached hreset hq)

/-- The run: whatever is old and unrevoked has been given to the reset. -/
theorem contained_reached {env : Env} {request : ResetPasswordRequest}
    (hparse : env.parseUuid c.user.id = some c.user.id) (hfresh : FreshUuids env c.start)
    (hreset : c.reqs c.reset = .resetPassword request)
    (hq : Server.Reaches env c.NothingEscapes
      (Server.start env SavingUserRepository c.reqs c.start) q) : c.Contained q := by
  apply hq.invariant (J := fun q : Server ι ↦ c.Contained q)
  · intro hcol
    cases hcol
  · exact fun q i op next hq hc hok hi ↦ hc.act hparse hfresh hreset hq hok hi
  · exact fun q i e op next _ hc _ _ ↦ hc.fail e
  · exact fun q t hc _ ↦ hc

end Cutoff

/-- A password reset cuts off the old credentials of its user: in every run in which nothing escapes
it, once it has returned, no session of the user that was there before, was opened by a login that
checked the old hash, or was opened by a refresh of a token signed before the reset wrote the new
hash, is unrevoked. -/
theorem reset_cuts_off {ι : Type} [DecidableEq ι] (env : Env) (c : Cutoff ι)
    (request : ResetPasswordRequest) (hreset : c.reqs c.reset = .resetPassword request)
    (hparse : env.parseUuid c.user.id = some c.user.id) (hfresh : FreshUuids env c.start)
    (q : Server ι) (hq : Server.Reaches env c.NothingEscapes
      (Server.start env SavingUserRepository c.reqs c.start) q)
    (huser : c.user.id ∈ (q.trace c.reset).written) (a : Response)
    (hret : q.Returned c.reset a) : c.CutsOff q := by
  intro r hr hrow hold
  by_contra hrev
  have hunrevoked : r.isRevoked = false := Bool.eq_false_iff.mpr hrev
  obtain ⟨hcollected, hended⟩ := Cutoff.cuts_reached hreset hq hret
  have hcontained := Cutoff.contained_reached hparse hfresh hreset hq
  obtain ⟨row, hfound, hid⟩ := hcontained hcollected huser r hr hrow hunrevoked hold
  have hmem : row.id ∈ (q.trace c.reset).ended := hended row hfound
  rw [Server.ended_trace] at hmem
  obtain ⟨s, hs, hsid⟩ := List.mem_map.mp hmem
  have hproper := SavingUserRepository.proper
  obtain ⟨hstored, hrevoked⟩ :=
    ((Server.Reaches.accounted hproper hq hfresh).fits c.reset).revoked s hs
  have hsame : s = r := DeviceSessionTable.eq_of_id hstored hr (hsid.trans hid)
  rw [hsame] at hrevoked
  exact hrev hrevoked

/-- The reset of `alice` beside a login with her old password. -/
def Sample.cutoff : Cutoff Bool where
  reqs := loginAndReset
  start := resetRequested
  user := alice
  reset := true

/-- The server over it before any turn. -/
def Sample.cutoffStart : Server Bool :=
  Server.start env SavingUserRepository cutoff.reqs cutoff.start

/-- The login is served to its end before the reset begins. -/
def Sample.loginThenReset : List (ServerTurn Bool) :=
  List.replicate 20 (.act false) ++ List.replicate 20 (.act true)

/-- The session of a login that has returned is revoked by the reset. -/
theorem reset_cuts_off_sequential :
    let q := Sample.cutoffStart.play (exec Sample.env) World.pass Sample.loginThenReset
    q.world.deviceSessions.rows.length = 1 ∧ Sample.cutoff.CutsOff q :=
  ⟨by decide +kernel, reset_cuts_off Sample.env Sample.cutoff Sample.reset rfl rfl
    (freshUuids_of_drawn (by decide +kernel)) _
    (Pool.reaches_play Sample.loginThenReset (by decide +kernel)) (by decide +kernel) .done
    (by decide +kernel)⟩

/-- The login checks the old password, the reset is served to its end, and then the login goes on
and saves its session. -/
def Sample.resetInsideLogin : List (ServerTurn Bool) :=
  List.replicate 2 (.act false) ++ List.replicate 20 (.act true) ++ List.replicate 20 (.act false)

/-- The session of a login in flight survives the reset. -/
theorem reset_does_not_cut_off :
    ¬ ∀ q : Server Bool, Server.Reaches Sample.env anyTurn Sample.cutoffStart q →
      Sample.alice.id ∈ (q.trace true).written → q.Returned true .done →
      Sample.cutoff.CutsOff q := by
  intro h
  have hcuts := h _ (Pool.reaches_play_any _ Sample.resetInsideLogin) (by decide +kernel)
    (by decide +kernel)
  revert hcuts
  decide +kernel

end Bankos
