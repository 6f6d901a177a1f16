import Bankos.Auth.Calls

/-!
# Snapshots of users

A service that changes a user loads the row, changes its copy and writes all mutable columns
back. A snapshot is what one request has been told about its user so far, and `snapshots` is the
protocol that says what each kind of request may write back after that.
-/

namespace Bankos

open Js Jwt Effects Storage Prog DatabaseMapper

/-- The row that a request has loaded, the answer to its password check, and how its calls on
users went. -/
structure Snapshot where
  loaded : Option UserRow := none
  valid : Option Bool := none
  wrote : Bool := false
  missed : Bool := false
  deriving DecidableEq

/-- The snapshot after the reply to a call. -/
def Snapshot.next (s : Snapshot) : (op : Op) → Except JsError op.Reply → Snapshot
  | .user (.findUniqueById _), .ok (some r) => { s with loaded := some r }
  | .user (.findUniqueById _), _ => { s with missed := true }
  | .user (.findUniqueByEmail _), .ok (some r) => { s with loaded := some r }
  | .user (.findUniqueByEmail _), _ => { s with missed := true }
  | .user (.update _ _), .ok _ => { s with wrote := true }
  | .user (.update _ _), .error _ => { s with missed := true }
  | .hasher (.verify _ _), .ok b => { s with valid := some b }
  | .hasher (.verify _ _), .error _ => { s with valid := some false }
  | _, _ => s

/-- The mutable columns of a row. -/
def UserRow.data (r : UserRow) : UserData :=
  ⟨r.passwordHash, r.isLocked, r.failedLoginAttempts, r.emailVerified⟩

/-- What a request writes back when it has loaded the row `r`: a login moves the counter and
the lock, a reset replaces the password hash, and a verification sets its flag. -/
def Request.writes (s : Snapshot) (r : UserRow) (data : UserData) : Request → Prop
  | .login _ => r.isLocked = false ∧
      (s.valid = some true ∧ data = { r.data with failedLoginAttempts := 0 } ∨
        s.valid = some false ∧ data = { r.data with
          isLocked := decide (5 ≤ r.failedLoginAttempts + 1)
          failedLoginAttempts := r.failedLoginAttempts + 1 })
  | .resetPassword _ => s.valid = none ∧ ∃ hash, data = { r.data with passwordHash := hash }
  | .verifyEmail _ => s.valid = none ∧ data = { r.data with emailVerified := true }
  | _ => False

/-- The calls on users that a request makes after the snapshot `s`. -/
def Request.userCall (env : Env) (req : Request) (s : Snapshot) : UserOp → Prop
  | .findUniqueById _ => ∀ r, req ≠ .login r
  | .findUniqueByEmail email => ∀ r, req = .login r → email = EmailValidator.normalize env r.email
  | .count _ => True
  | .create _ => False
  | .update id data =>
    s.wrote = false ∧ ∃ r, s.loaded = some r ∧ id = r.id ∧ req.writes s r data

/-- The calls that a request makes after the snapshot `s`: it checks at most one password. -/
def Request.mayCall (env : Env) (req : Request) (s : Snapshot) : Op → Prop
  | .user o => req.userCall env s o
  | .hasher (.verify _ _) => s.valid = none
  | _ => True

/-- What requests are told, with no restriction of their calls. -/
abbrev Snapshot.trace : Protocol Api JsError where
  Phase := Snapshot
  allows _ _ := True
  next := Snapshot.next

/-- The discipline of the user writes of one request. -/
abbrev snapshots (env : Env) (req : Request) : Protocol Api JsError :=
  { Snapshot.trace with allows := req.mayCall env }

/-- The areas whose calls leave a snapshot alone. -/
def Area.quiet : Area → Bool
  | .userRead => false
  | .userWrite => false
  | .passwordCheck => false
  | _ => true

/-! ### Rules -/

section Rules

variable {α β : Type} {env : Env} {req : Request} {s : Snapshot}
  {post : Snapshot → Except JsError α → Prop}

/-- Calls that are neither on users nor password checks are allowed and keep the snapshot. -/
theorem Request.mayCall_of_quiet {areas : List Area} (hquiet : areas.all Area.quiet = true)
    {op : Op} (hop : op.within areas) (s : Snapshot) :
    req.mayCall env s op ∧ ∀ r, s.next op r = s := by
  have harea : ∀ a, op.area = some a → a.quiet = true :=
    fun a ha ↦ List.all_eq_true.mp hquiet a (hop a ha)
  cases op with
  | user o =>
    cases o with
    | findUniqueById id => cases harea _ rfl
    | findUniqueByEmail email => cases harea _ rfl
    | count email => cases harea _ rfl
    | create data => cases harea _ rfl
    | update id data => cases harea _ rfl
  | hasher o =>
    cases o with
    | hash password => exact ⟨trivial, fun _ ↦ rfl⟩
    | verify pchstr plaintext => cases harea _ rfl
  | _ => exact ⟨trivial, fun _ ↦ rfl⟩

/-- A program that leaves users alone keeps the snapshot. -/
theorem obeys_quiet {p : Program α} {areas : List Area} (hp : p.Uses (Op.within areas))
    (hquiet : areas.all Area.quiet = true) :
    p.Obeys (snapshots env req) s fun s' _ ↦ s' = s :=
  hp.stays fun _ hop ↦ Request.mayCall_of_quiet hquiet hop s

/-- A program that leaves users alone, in front of a program. -/
theorem obeys_quiet_bind {p : Program β} {f : β → Program α} {areas : List Area}
    (hp : p.Uses (Op.within areas)) (hquiet : areas.all Area.quiet = true)
    (hf : ∀ b, (f b).Obeys (snapshots env req) s post) (herr : ∀ e, post s (.error e)) :
    (p >>= f).Obeys (snapshots env req) s post := by
  apply obeys_bind
  apply (obeys_quiet hp hquiet).mono
  rintro s' (e | b) rfl
  · exact herr e
  · exact hf b

/-- A helper in front of a program. -/
theorem obeys_auxiliary_bind {p : Program β} {f : β → Program α} (hp : p.Uses Op.auxiliary)
    (hf : ∀ b, (f b).Obeys (snapshots env req) s post) (herr : ∀ e, post s (.error e)) :
    (p >>= f).Obeys (snapshots env req) s post :=
  obeys_quiet_bind (uses_within hp []) rfl hf herr

/-- A password check in front of a program: what Argon2 throws counts as a refusal. -/
theorem obeys_check_bind {f : Bool → Program α} {pchstr plaintext : String}
    (hvalid : s.valid = none)
    (hf : ∀ b, (f b).Obeys (snapshots env req) { s with valid := some b } post) :
    (Argon2PasswordHasher.verify env pchstr plaintext >>= f).Obeys (snapshots env req) s post := by
  refine ⟨hvalid, fun r ↦ ?_⟩
  cases r with
  | ok b => exact hf b
  | error e => exact hf false

/-- A lookup of a user by its id, in front of a program. -/
theorem obeys_findById_bind {users : IUserRepository} (hu : users.Proper)
    {f : Option User → Program α} {id : Value} (hreq : ∀ r, req ≠ .login r)
    (hnone : (f none).Obeys (snapshots env req) { s with missed := true } post)
    (hsome : ∀ r, (f (some (toDomainUser r))).Obeys (snapshots env req)
      { s with loaded := some r } post)
    (herr : ∀ e, post { s with missed := true } (.error e)) :
    (users.findById id >>= f).Obeys (snapshots env req) s post := by
  rw [hu.findById]
  constructor
  · exact hreq
  · intro r
    rcases r with e | _ | r
    · exact herr e
    · exact hnone
    · exact hsome r

/-- A lookup of a user by its email, in front of a program. -/
theorem obeys_findByEmail_bind {users : IUserRepository} (hu : users.Proper)
    {f : Option User → Program α} {email : String}
    (hemail : ∀ r, req = .login r → email = EmailValidator.normalize env r.email)
    (hnone : (f none).Obeys (snapshots env req) { s with missed := true } post)
    (hsome : ∀ r, (f (some (toDomainUser r))).Obeys (snapshots env req)
      { s with loaded := some r } post)
    (herr : ∀ e, post { s with missed := true } (.error e)) :
    (users.findByEmail email >>= f).Obeys (snapshots env req) s post := by
  rw [hu.findByEmail]
  constructor
  · exact hemail
  · intro r
    rcases r with e | _ | r
    · exact herr e
    · exact hnone
    · exact hsome r

/-- A write of a changed copy of the loaded row, in front of a program. -/
theorem obeys_update_bind {user : User} {f : Unit → Program α} {r : UserRow}
    (hwrote : s.wrote = false) (hloaded : s.loaded = some r) (hid : user.id = r.id)
    (hdata : req.writes s r (PrismaUserRepository.updateData user))
    (hok : (f ()).Obeys (snapshots env req) { s with wrote := true } post)
    (herr : ∀ e, post { s with missed := true } (.error e)) :
    (PrismaUserRepository.update user >>= f).Obeys (snapshots env req) s post := by
  constructor
  · exact ⟨hwrote, r, hloaded, hid, hdata⟩
  · intro res
    cases res with
    | ok u => exact hok
    | error e => exact herr e

end Rules

/-! ### The services keep to the protocol -/

/-- How a login ends: unless a call on users went wrong, it found the user locked or it has
written, and it returns only after it found the user unlocked. -/
structure Snapshot.Settled {α : Type} (s : Snapshot) (result : Except JsError α) : Prop where
  counted : s.missed = true ∨ ∃ r, s.loaded = some r ∧ (r.isLocked = true ∨ s.wrote = true)
  admitted : ∀ a, result = .ok a → ∃ r, s.loaded = some r ∧ r.isLocked = false

/-- A login that threw after a call on users went wrong. -/
theorem Snapshot.Settled.of_missed {α : Type} {s : Snapshot} (h : s.missed = true) (e : JsError) :
    s.Settled (.error e : Except JsError α) :=
  ⟨.inl h, fun _ ha ↦ nomatch ha⟩

namespace LoginService

variable {users : IUserRepository} (hu : users.Proper) (env : Env) (r : LoginRequest)
include hu

omit hu in
/-- A refusal checks a password and throws. -/
theorem refuse_snapshots {req : Request} {s : Snapshot} (hash : String)
    {post : Snapshot → Except JsError LoginResponse → Prop} (hvalid : s.valid = none)
    (hpost : ∀ b e, post { s with valid := some b } (.error e)) :
    (refuse env hash r.passwordRaw).Obeys (snapshots env req) s post :=
  obeys_check_bind hvalid fun b ↦ hpost b _

/-- A login whose password was right clears the counter. -/
theorem rightPassword_snapshots {row : UserRow} (hrow : row.isLocked = false) :
    (rightPassword env users r (toDomainUser row)).Obeys (snapshots env (.login r))
      { loaded := some row, valid := some true } Snapshot.Settled := by
  unfold rightPassword
  rw [User.recordLogin_unlocked (u := toDomainUser row) hrow, done_ok_bind, hu.update]
  apply obeys_update_bind rfl rfl rfl
  · show row.isLocked = false ∧ _
    exact ⟨hrow, .inl ⟨rfl, rfl⟩⟩
  · apply (obeys_quiet (openSession_uses hu env r _) rfl).mono
    rintro s' result rfl
    exact ⟨.inr ⟨row, rfl, .inr rfl⟩, fun _ _ ↦ ⟨row, rfl, hrow⟩⟩
  · exact Snapshot.Settled.of_missed rfl

/-- A login whose password was wrong counts. -/
theorem wrongPassword_snapshots {row : UserRow} (hrow : row.isLocked = false) :
    (wrongPassword users (toDomainUser row)).Obeys (snapshots env (.login r))
      { loaded := some row, valid := some false } Snapshot.Settled := by
  unfold wrongPassword
  obtain ⟨hid, -, hhash, hverified⟩ := User.incrementFailedAttempts_spec (toDomainUser row) 5
  obtain ⟨hcount, hlock⟩ :=
    User.incrementFailedAttempts_unlocked (u := toDomainUser row) (n := 5) hrow
  have hdata : PrismaUserRepository.updateData ((toDomainUser row).incrementFailedAttempts 5) =
      { row.data with
        isLocked := decide (5 ≤ row.failedLoginAttempts + 1)
        failedLoginAttempts := row.failedLoginAttempts + 1 } := by
    simp only [PrismaUserRepository.updateData, toPrismaUser, hhash, hcount, hlock, hverified]
    rfl
  rw [hu.update]
  apply obeys_update_bind rfl rfl hid
  · show row.isLocked = false ∧ _
    exact ⟨hrow, .inr ⟨rfl, hdata⟩⟩
  · exact ⟨.inr ⟨row, rfl, .inr rfl⟩, fun _ ha ↦ nomatch ha⟩
  · exact Snapshot.Settled.of_missed rfl

/-- A login loads its user, checks the password and writes the counter and the lock. -/
theorem execute_snapshots :
    (execute env users r).Obeys (snapshots env (.login r)) {} fun s result ↦
      EmailValidator.isValid (EmailValidator.normalize env r.email) = true → s.Settled result := by
  unfold execute
  dsimp only
  split
  · apply obeys_findByEmail_bind hu
    · rintro r' ⟨⟩
      rfl
    · apply refuse_snapshots _ _ _ rfl
      intro b e _
      exact Snapshot.Settled.of_missed rfl e
    · intro row
      dsimp only
      split
      · next hlocked =>
        apply refuse_snapshots _ _ _ rfl
        intro b e _
        exact ⟨.inr ⟨row, rfl, .inl hlocked⟩, fun _ ha ↦ nomatch ha⟩
      · next hunlocked =>
        have hrow : row.isLocked = false := Bool.eq_false_iff.mpr hunlocked
        apply obeys_check_bind rfl
        intro b
        cases b with
        | true => exact (rightPassword_snapshots hu env r hrow).mono fun _ _ h _ ↦ h
        | false => exact (wrongPassword_snapshots hu env r hrow).mono fun _ _ h _ ↦ h
    · intro e _
      exact Snapshot.Settled.of_missed rfl e
  · next hinvalid =>
    apply refuse_snapshots _ _ _ rfl
    intro b e hvalid
    exact absurd hvalid hinvalid

end LoginService

/-- A password reset replaces the password hash of the user it has loaded. -/
theorem ResetPasswordService.execute_snapshots (env : Env) (r : ResetPasswordRequest) :
    (execute env SavingUserRepository r).Obeys (snapshots env (.resetPassword r)) {}
      fun _ _ ↦ True := by
  unfold execute
  apply obeys_quiet_bind (PrismaPasswordResetTokenRepository.findByToken_uses _) rfl
  · intro token
    cases token with
    | none => exact trivial
    | some token =>
      unfold redeem
      apply obeys_auxiliary_bind SystemClock.now_uses
      · intro now
        split
        · exact trivial
        · split
          · exact trivial
          · apply obeys_findById_bind SavingUserRepository.proper (by simp)
            · exact trivial
            · intro row
              unfold changePassword
              apply obeys_auxiliary_bind (Argon2PasswordHasher.hash_uses ..)
              · intro hash
                apply obeys_bind
                cases hchange : (toDomainUser row).changePassword hash with
                | error e => exact trivial
                | ok user =>
                  obtain ⟨-, hid, -, hhash, hlock, hcount, hverified⟩ :=
                    User.changePassword_ok hchange
                  apply obeys_update_bind rfl rfl hid
                  · show _ ∧ ∃ hash, PrismaUserRepository.updateData _ = _
                    refine ⟨rfl, hash, ?_⟩
                    simp only [PrismaUserRepository.updateData, toPrismaUser, hhash, hlock, hcount,
                      hverified]
                    rfl
                  · exact (obeys_quiet (afterSave_uses r _ token user) rfl).mono fun _ _ _ ↦ trivial
                  · exact fun _ ↦ trivial
              · exact fun _ ↦ trivial
            · exact fun _ ↦ trivial
      · exact fun _ ↦ trivial
  · exact fun _ ↦ trivial

/-- The verification of an email sets the flag of the user it has loaded. -/
theorem VerifyEmailService.execute_snapshots (env : Env) (r : VerifyEmailRequest) :
    (execute env SavingUserRepository r).Obeys (snapshots env (.verifyEmail r)) {}
      fun _ _ ↦ True := by
  unfold execute
  apply obeys_quiet_bind (PrismaEmailVerificationTokenRepository.findByToken_uses _) rfl
  · intro token
    cases token with
    | none => exact trivial
    | some token =>
      apply obeys_auxiliary_bind SystemClock.now_uses
      · intro now
        split
        · exact trivial
        · split
          · exact trivial
          · apply obeys_findById_bind SavingUserRepository.proper (by simp)
            · exact trivial
            · intro row
              obtain ⟨hid, -, hhash, hlock, hcount, hverified⟩ :=
                User.verifyEmail_spec (toDomainUser row)
              apply obeys_update_bind rfl rfl hid
              · show _ ∧ PrismaUserRepository.updateData _ = _
                constructor
                · rfl
                · simp only [PrismaUserRepository.updateData, toPrismaUser, hhash, hlock, hcount,
                    hverified]
                  rfl
              · exact (obeys_quiet (afterSave_uses r _ token) rfl).mono fun _ _ _ ↦ trivial
              · exact fun _ ↦ trivial
            · exact fun _ ↦ trivial
      · exact fun _ ↦ trivial
  · exact fun _ ↦ trivial

/-! ### All requests -/

/-- A request other than a login that neither writes users nor checks a password is allowed. -/
theorem obeys_otherRequest {α : Type} {env : Env} {req : Request} {p : Program α}
    {areas : List Area} (hp : p.Uses (Op.within areas)) (hwrite : .userWrite ∉ areas)
    (hcheck : .passwordCheck ∉ areas) (hreq : ∀ r, req ≠ .login r) (s : Snapshot) :
    p.Obeys (snapshots env req) s fun _ _ ↦ True := by
  apply hp.obeys (P := snapshots env req) (fun _ ↦ True)
  · intro s' op _ hop
    constructor
    · cases op with
      | user o =>
        cases o with
        | findUniqueById id => exact hreq
        | findUniqueByEmail email => exact fun r hr ↦ absurd hr (hreq r)
        | count email => exact trivial
        | create data => exact absurd (hop _ rfl) hwrite
        | update id data => exact absurd (hop _ rfl) hwrite
      | hasher o =>
        cases o with
        | hash password => exact trivial
        | verify pchstr plaintext => exact absurd (hop _ rfl) hcheck
      | _ => exact trivial
    · exact fun _ ↦ trivial
  · exact trivial

/-- Over the repository whose `save` persists, every request keeps to the protocol. -/
theorem serve_snapshots (env : Env) (req : Request) :
    (serve env SavingUserRepository req).Obeys (snapshots env req) {} fun _ _ ↦ True := by
  have hu := SavingUserRepository.proper
  have huses := serve_uses hu env req
  cases req with
  | login r =>
    apply obeys_bind
    apply (LoginService.execute_snapshots hu env r).mono
    rintro s (e | a) _
    · exact trivial
    · exact trivial
  | resetPassword r =>
    apply obeys_bind
    apply (ResetPasswordService.execute_snapshots env r).mono
    rintro s (e | a) _
    · exact trivial
    · exact trivial
  | verifyEmail r =>
    apply obeys_bind
    apply (VerifyEmailService.execute_snapshots env r).mono
    rintro s (e | a) _
    · exact trivial
    · exact trivial
  | refresh token ip ua =>
    exact obeys_otherRequest huses (by simp [Request.areas]) (by simp [Request.areas])
      (by simp) _
  | logout r ip ua =>
    exact obeys_otherRequest huses (by simp [Request.areas]) (by simp [Request.areas])
      (by simp) _
  | guarded guard req =>
    exact obeys_otherRequest huses (by simp [Request.areas]) (by simp [Request.areas])
      (by simp) _
  | gateway a =>
    exact obeys_otherRequest huses (by simp [Request.areas]) (by simp [Request.areas])
      (by simp) _

/-- A login of a well-formed email settles. -/
theorem serve_login_snapshots {users : IUserRepository} (hu : users.Proper) (env : Env)
    {r : LoginRequest}
    (hvalid : EmailValidator.isValid (EmailValidator.normalize env r.email) = true) :
    (serve env users (.login r)).Obeys (snapshots env (.login r)) {} Snapshot.Settled := by
  apply obeys_bind
  apply (LoginService.execute_snapshots hu env r).mono
  rintro s (e | a) h
  · exact ⟨(h hvalid).counted, fun _ ha ↦ nomatch ha⟩
  · exact ⟨(h hvalid).counted, fun _ _ ↦ (h hvalid).admitted a rfl⟩

/-- The user that a call updates. -/
def Op.updatedUser : Op → Option String
  | .user (.update id _) => some id
  | _ => none

/-- The user that request `i` is about to update. -/
def Server.updating {ι : Type} (q : Server ι) (i : ι) : Option String :=
  (q.pending i).bind Op.updatedUser

/-- The next call is an update. -/
theorem Server.updating_of_rest {ι : Type} {q : Server ι} {i : ι} {id : String} {data : UserData}
    {next : Except JsError Unit → Program Response}
    (hi : q.rest i = .call (.user (.update id data)) next) : q.updating i = some id := by
  rw [updating, Pool.pending_of_rest hi]
  rfl

/-- What each request has been told about its user. -/
def Server.snapshot {ι : Type} [DecidableEq ι] (q : Server ι) : ι → Snapshot :=
  Pool.phase Snapshot.trace {} q.log

/-- An answered call moves the snapshot of its own request. -/
theorem Server.snapshot_record {ι : Type} [DecidableEq ι] (q : Server ι) (i : ι) (op : Op)
    (r : Except JsError op.Reply) (next : Except JsError op.Reply → Program Response) (w : World) :
    Server.snapshot (q.record i op r next w) =
      Function.update q.snapshot i ((q.snapshot i).next op r) :=
  Pool.phase_record (P := Snapshot.trace) {} q i op r next w

end Bankos
