import Bankos.Auth.Recovery
import Bankos.Users.Registration

/-!
# Tokens that reach their owners

Three services store the hash of a drawn token. Two of them send the token itself to the owner of
the row, once; a registration sends nothing, so nobody ever learns the token of its row.
-/

namespace Bankos

open Js Jwt Effects Storage Prog DatabaseMapper

/-- A call of one of the three services that issue tokens. -/
inductive TokenCall where
  | register (r : RegisterUserRequest)
  | sendVerificationEmail (email : String)
  | forgotPassword (r : ForgotPasswordRequest)
  deriving DecidableEq, Repr

/-- The service that serves the call. -/
def TokenCall.program (env : Env) : TokenCall → Program Unit
  | register r => do
    let _ ← RegisterUserService.execute env r
    pure ()
  | sendVerificationEmail email => SendVerificationEmailService.execute env email
  | forgotPassword r => ForgotPasswordService.execute env r

/-- Whether the service has a mailer. -/
def TokenCall.mails : TokenCall → Bool
  | register _ => false
  | _ => true

/-! ### How a token is issued -/

/-- How far a call has come: the user that it has found or created, the token that it has drawn,
and whether it has stored the hash, sent the token, or had a call fail. -/
structure Issue where
  user : Option UserRow := none
  raw : Option String := none
  stored : Bool := false
  mailed : Bool := false
  failed : Bool := false

namespace Issue

/-- The issue after a call that was answered. -/
def answered (s : Issue) : (op : Op) → op.Reply → Issue
  | .user (.findUniqueByEmail _), user => { s with user := user }
  | .user (.create data), _ => { s with user := some data }
  | .system (.randomBytes _), raw => { s with raw := some raw }
  | .resetToken (.upsert _), _ => { s with stored := true }
  | .verificationToken (.upsert _), _ => { s with stored := true }
  | .mail _, _ => { s with mailed := true }
  | _, _ => s

/-- The row holds the hash of the drawn token for the user. -/
def Owns (env : Env) (s : Issue) (row : OneTimeTokenRow) : Prop :=
  ∃ raw u, s.raw = some raw ∧ s.user = some u ∧ row.token = env.sha256 (.plain raw) ∧
    row.userId = u.id

/-- The message takes the drawn token to the user. -/
def Sends (s : Issue) (m : Mail) : Prop :=
  s.raw = some m.token ∧ ∃ u, s.user = some u ∧ m.email = u.email

/-- The calls of the three services: one token is drawn, for a user that is known by then, and sent
at most once. -/
def allows (env : Env) (s : Issue) : Op → Prop
  | .user (.findUniqueByEmail _) => s.raw = none
  | .user (.count _) => True
  | .user (.create _) => s.raw = none
  | .role (.findUniqueByName _) => True
  | .role (.upsertUserRole _) => True
  | .hasher (.hash _) => True
  | .system (.randomBytes length) => length = 32 ∧ s.raw = none
  | .system _ => True
  | .resetToken (.upsert row) => s.Owns env row
  | .verificationToken (.upsert row) => s.Owns env row
  | .mail m => s.mailed = false ∧ s.Sends m
  | .auditCreate _ => True
  | _ => False

/-- A token that was drawn is stored, and sent if the service has a mailer. -/
def Closed (mails : Bool) (s : Issue) : Prop :=
  s.raw = none ∨ s.stored = true ∧ (mails = true → s.mailed = true)

/-- There is a reason to throw: a call failed, or no token is drawn. -/
def Excused (s : Issue) : Prop := s.failed = true ∨ s.raw = none

end Issue

/-- The course of a call that issues a token. -/
abbrev issue (env : Env) : Protocol Api JsError where
  Phase := Issue
  allows := Issue.allows env
  next s op r :=
    match r with
    | .ok a => s.answered op a
    | .error _ => { s with failed := true }

section Services

variable {env : Env} {s : Issue}

/-- One call that does not go on with the token. -/
theorem settles_aside {op : Op} (hop : s.allows env op) (h : ∀ a, s.answered op a = s) :
    Settles (issue env) s (request op) (fun s' _ ↦ s' = s) Issue.Excused :=
  settles_perform hop h fun _ ↦ .inl rfl

/-- One call that does not go on with the token, and what is made of its reply. -/
theorem settles_lookup {α : Type} {op : Op} {f : op.Reply → α} (hop : s.allows env op)
    (h : ∀ a, s.answered op a = s) :
    Settles (issue env) s (request op >>= fun r ↦ pure (f r)) (fun s' _ ↦ s' = s)
      Issue.Excused :=
  (settles_aside hop h).seq fun _ _ h ↦ settles_pure h

/-- Reading the clock leaves the issue as it is. -/
theorem now_aside :
    Settles (issue env) s SystemClock.now (fun s' _ ↦ s' = s) Issue.Excused :=
  settles_aside trivial fun _ ↦ rfl

/-- Drawing an identifier leaves the issue as it is. -/
theorem generateUUID_aside :
    Settles (issue env) s SecureRandomGenerator.generateUUID (fun s' _ ↦ s' = s) Issue.Excused :=
  settles_aside trivial fun _ ↦ rfl

/-- Hashing a password leaves the issue as it is. -/
theorem hash_aside (password : String) :
    Settles (issue env) s (Argon2PasswordHasher.hash env password) (fun s' _ ↦ s' = s)
      Issue.Excused :=
  settles_aside trivial fun _ ↦ rfl

/-- Counting the users of an email leaves the issue as it is. -/
theorem emailExists_aside (email : String) :
    Settles (issue env) s (PrismaUserRepository.emailExists email) (fun s' _ ↦ s' = s)
      Issue.Excused := settles_lookup trivial fun _ ↦ rfl

/-- Looking a role up leaves the issue as it is. -/
theorem findByName_aside (name : String) :
    Settles (issue env) s (PrismaRoleRepository.findByName name) (fun s' _ ↦ s' = s)
      Issue.Excused := settles_lookup trivial fun _ ↦ rfl

/-- The role that a registration has found is looked up again; no token is drawn yet. -/
theorem assignRole_aside (hraw : s.raw = none) (userId roleName : String) :
    Settles (issue env) s (PrismaUserRepository.assignRole userId roleName) (fun s' _ ↦ s' = s)
      Issue.Excused := by
  have hfind : Settles (issue env) s (request (.role (.findUniqueByName roleName)))
      (fun s' _ ↦ s' = s) Issue.Excused := settles_aside trivial fun _ ↦ rfl
  apply hfind.seq
  rintro _ role rfl
  cases role with
  | none => exact settles_throw (.inr hraw)
  | some role => exact settles_aside trivial fun _ ↦ rfl

/-- Events are dispatched aside. -/
theorem dispatch_aside (events : List DomainEvent) :
    Settles (issue env) s (dispatch events) (fun s' _ ↦ s' = s) Issue.Excused := by
  apply (dispatch_straight events).settles
  · apply (dispatch_records events).mono
    intro op hop
    cases op with
    | system o =>
      cases o with
      | randomBytes length => exact hop.elim
      | _ => exact ⟨trivial, fun _ ↦ rfl⟩
    | auditCreate row => exact ⟨trivial, fun _ ↦ rfl⟩
    | _ => exact hop.elim
  · exact fun _ _ ↦ .inl rfl

/-- The token is drawn. -/
theorem settles_draw (hraw : s.raw = none) :
    Settles (issue env) s (SecureRandomGenerator.generateToken 32)
      (fun s' raw ↦ s' = { s with raw := some raw }) Issue.Excused :=
  settles_perform ⟨rfl, hraw⟩ (fun _ ↦ rfl) fun _ ↦ .inl rfl

/-- A token is drawn and stored with the clock read in between, in front of a program. -/
theorem settles_stored {α : Type} {u : UserRow} {store : String → Nat → Program Unit}
    {next : String → Nat → Program α} {Q : Issue → α → Prop}
    (hstore : ∀ raw now, Settles (issue env) { user := some u, raw := some raw } (store raw now)
      (fun s' _ ↦ s' = ({ user := some u, raw := some raw, stored := true } : Issue)) Issue.Excused)
    (hnext : ∀ raw now, Settles (issue env) { user := some u, raw := some raw, stored := true }
      (next raw now) Q Issue.Excused) :
    Settles (issue env) { user := some u }
      (do
        let raw ← SecureRandomGenerator.generateToken 32
        let now ← SystemClock.now
        store raw now
        next raw now) Q Issue.Excused := by
  apply Settles.seq (settles_draw rfl)
  rintro _ raw rfl
  apply now_aside.seq
  rintro _ now rfl
  apply Settles.seq (hstore raw now)
  rintro _ _ rfl
  exact hnext raw now

/-- A request for a new password draws, stores and sends. -/
theorem ForgotPasswordService.issueToken_issues (r : ForgotPasswordRequest) (u : UserRow) :
    Settles (issue env) { user := some u } (issueToken env r (toDomainUser u))
      (fun s' _ ↦ s'.Closed true) Issue.Excused := by
  unfold issueToken
  dsimp only
  apply settles_stored
  · exact fun raw now ↦
      settles_perform ⟨raw, u, rfl, rfl, rfl, rfl⟩ (fun _ ↦ rfl) fun _ ↦ .inl rfl
  · intro raw now
    apply Settles.seq (Q := fun s' _ ↦
      s' = ({ user := some u, raw := some raw, stored := true, mailed := true } : Issue))
    · exact settles_perform ⟨rfl, rfl, u, rfl, rfl⟩ (fun _ ↦ rfl) fun _ ↦ .inl rfl
    · rintro _ _ rfl
      apply Obeys.mono (dispatch_aside _)
      rintro _ (e | _) h
      · exact h
      · rw [h]
        exact .inr ⟨rfl, fun _ ↦ rfl⟩

/-- A request for a verification mail draws, stores and sends. -/
theorem SendVerificationEmailService.issueToken_issues (u : UserRow) :
    Settles (issue env) { user := some u } (issueToken env (toDomainUser u))
      (fun s' _ ↦ s'.Closed true) Issue.Excused := by
  unfold issueToken
  dsimp only
  apply settles_stored
  · exact fun raw now ↦
      settles_perform ⟨raw, u, rfl, rfl, rfl, rfl⟩ (fun _ ↦ rfl) fun _ ↦ .inl rfl
  · exact fun raw now ↦
      settles_perform ⟨rfl, rfl, u, rfl, rfl⟩ (fun _ ↦ .inr ⟨rfl, fun _ ↦ rfl⟩) fun _ ↦ .inl rfl

/-- A registration draws and stores. -/
theorem RegisterUserService.issueToken_issues (r : RegisterUserRequest) {user : User}
    {u : UserRow} (hid : user.id = u.id) :
    Settles (issue env) { user := some u } (issueToken env r user)
      (fun s' _ ↦ s'.Closed false) Issue.Excused := by
  unfold issueToken
  dsimp only
  apply settles_stored
  · exact fun raw now ↦
      settles_perform ⟨raw, u, rfl, rfl, rfl, hid⟩ (fun _ ↦ rfl) fun _ ↦ .inl rfl
  · intro raw now
    apply Settles.seq (dispatch_aside _)
    rintro _ _ rfl
    exact settles_pure (.inr ⟨rfl, fun h ↦ by cases h⟩)

/-- A user is found by its email. -/
theorem settles_findByEmail (email : String) :
    Settles (issue env) {} (PrismaUserRepository.findByEmail email)
      (fun s' user ↦ ∃ record : Option UserRow, user = record.map toDomainUser ∧
        s' = { user := record }) Issue.Excused := by
  apply Settles.seq (Q := fun s' (record : Option UserRow) ↦ s' = ({ user := record } : Issue))
  · exact settles_perform rfl (fun _ ↦ rfl) fun _ ↦ .inl rfl
  · rintro _ record rfl
    exact settles_pure ⟨record, rfl, rfl⟩

/-- A request for a new password that ends has closed its issue. -/
theorem ForgotPasswordService.execute_issues (r : ForgotPasswordRequest) :
    Settles (issue env) {} (execute env r) (fun s' _ ↦ s'.Closed true) Issue.Excused := by
  unfold execute
  dsimp only
  split
  · exact settles_throw (.inr rfl)
  · apply Settles.seq (settles_findByEmail _)
    rintro _ _ ⟨record, rfl, rfl⟩
    cases record with
    | none => exact settles_pure (.inl rfl)
    | some u => exact issueToken_issues r u

/-- A request for a verification mail that ends has closed its issue. -/
theorem SendVerificationEmailService.execute_issues (email : String) :
    Settles (issue env) {} (execute env email) (fun s' _ ↦ s'.Closed true) Issue.Excused := by
  apply Settles.seq (settles_findByEmail _)
  rintro _ _ ⟨record, rfl, rfl⟩
  cases record with
  | none => exact settles_pure (.inl rfl)
  | some u =>
    dsimp only [Option.map_some]
    split
    · exact settles_pure (.inl rfl)
    · exact issueToken_issues u

/-- A registration that ends has closed its issue. -/
theorem RegisterUserService.execute_issues (r : RegisterUserRequest) :
    Settles (issue env) {} (execute env r) (fun s' _ ↦ s'.Closed false) Issue.Excused := by
  unfold execute
  dsimp only
  split
  · exact settles_throw (.inr rfl)
  · split
    · exact settles_throw (.inr rfl)
    · apply (emailExists_aside _).seq
      rintro _ emailExists rfl
      split
      · exact settles_throw (.inr rfl)
      · apply (findByName_aside _).seq
        rintro _ defaultRole rfl
        cases defaultRole with
        | none => exact settles_throw (.inr rfl)
        | some defaultRole =>
          apply (hash_aside _).seq
          rintro _ passwordHash rfl
          apply generateUUID_aside.seq
          rintro _ id rfl
          apply Settles.seq (Q := fun s' _ ↦ s' = ({ user := some ⟨id,
            EmailValidator.normalize env r.email, passwordHash, false, 0, false⟩ } : Issue))
          · exact settles_perform rfl (fun _ ↦ rfl) fun _ ↦ .inl rfl
          · rintro _ _ rfl
            apply (assignRole_aside rfl _ _).seq
            rintro _ _ rfl
            exact issueToken_issues r rfl

/-- Every call keeps to the course, and has a reason when it throws. -/
theorem TokenCall.program_issues (c : TokenCall) :
    Settles (issue env) {} (c.program env) (fun s' _ ↦ s'.Closed c.mails) Issue.Excused := by
  cases c with
  | register r =>
    apply Settles.seq (RegisterUserService.execute_issues r)
    intro _ _ h
    exact settles_pure h
  | sendVerificationEmail email => exact SendVerificationEmailService.execute_issues email
  | forgotPassword r => exact ForgotPasswordService.execute_issues r

end Services

/-! ### What each call of an issue changes -/

/-- Nothing that an issue knows is lost once its token is drawn. -/
structure Issue.Extends (s s' : Issue) : Prop where
  raw : s.raw ≠ none → s'.raw = s.raw
  user : s.raw ≠ none → s'.user = s.user
  stored : s.stored = true → s'.stored = true
  mailed : s.mailed = true → s'.mailed = true

/-- The token of the row that the call stores. -/
def Op.storesToken : Op → Option OneTimeTokenRow
  | .resetToken (.upsert row) => some row
  | .verificationToken (.upsert row) => some row
  | _ => none

section Step

variable {env : Env} {s : Issue} {op : Op}

/-- What an answer does to an issue. -/
inductive Issue.Advance (s : Issue) : (op : Op) → Except JsError op.Reply → Issue → Prop
  | failed {op : Op} (e : JsError) : Advance s op (.error e) { s with failed := true }
  | aside {op : Op} (a : op.Reply) : Advance s op (.ok a) s
  | found (email : String) (user : Option UserRow) :
      Advance s (.user (.findUniqueByEmail email)) (.ok user) { s with user := user }
  | created (data : UserRow) :
      Advance s (.user (.create data)) (.ok ()) { s with user := some data }
  | drawn (length : Nat) (raw : String) :
      Advance s (.system (.randomBytes length)) (.ok raw) { s with raw := some raw }
  | stored {op : Op} {row : OneTimeTokenRow} (h : op.storesToken = some row) (a : op.Reply) :
      Advance s op (.ok a) { s with stored := true }
  | mailed (m : Mail) : Advance s (.mail m) (.ok ()) { s with mailed := true }

/-- The course advances by the answer. -/
theorem Issue.advance_next (env : Env) (s : Issue) (op : Op) (r : Except JsError op.Reply) :
    s.Advance op r ((issue env).next s op r) := by
  cases r with
  | error e => exact .failed e
  | ok a =>
    cases op with
    | user o =>
      cases o with
      | findUniqueByEmail email => exact .found email a
      | create data => exact .created data
      | _ => exact .aside a
    | system o =>
      cases o with
      | randomBytes length => exact .drawn length a
      | _ => exact .aside a
    | resetToken o =>
      cases o with
      | upsert row => exact .stored rfl a
      | _ => exact .aside a
    | verificationToken o =>
      cases o with
      | upsert row => exact .stored rfl a
      | _ => exact .aside a
    | mail m => exact .mailed m
    | _ => exact .aside a

/-- An allowed call extends the issue. -/
theorem Issue.extends_next (hop : s.allows env op) (r : Except JsError op.Reply) :
    s.Extends ((issue env).next s op r) := by
  have hadvance := s.advance_next env op r
  generalize (issue env).next s op r = s' at hadvance ⊢
  cases hadvance with
  | failed e => exact ⟨fun _ ↦ rfl, fun _ ↦ rfl, id, id⟩
  | aside a => exact ⟨fun _ ↦ rfl, fun _ ↦ rfl, id, id⟩
  | found email user => exact ⟨fun _ ↦ rfl, fun h ↦ absurd hop h, id, id⟩
  | created data => exact ⟨fun _ ↦ rfl, fun h ↦ absurd hop h, id, id⟩
  | drawn length raw => exact ⟨fun h ↦ absurd hop.2 h, fun _ ↦ rfl, id, id⟩
  | stored h a => exact ⟨fun _ ↦ rfl, fun _ ↦ rfl, fun _ ↦ rfl, id⟩
  | mailed m => exact ⟨fun _ ↦ rfl, fun _ ↦ rfl, id, fun _ ↦ rfl⟩

/-- A row goes on to hold the hash of the drawn token. -/
theorem Issue.Owns.extend {s' : Issue} {row : OneTimeTokenRow} (h : s.Owns env row)
    (hext : s.Extends s') : s'.Owns env row := by
  obtain ⟨raw, u, hraw, huser, htoken, hid⟩ := h
  have hdrawn : s.raw ≠ none := by simp [hraw]
  exact ⟨raw, u, (hext.raw hdrawn).trans hraw, (hext.user hdrawn).trans huser, htoken, hid⟩

/-- A message goes on to take the drawn token to the user. -/
theorem Issue.Sends.extend {s' : Issue} {m : Mail} (h : s.Sends m) (hext : s.Extends s') :
    s'.Sends m := by
  obtain ⟨hraw, u, huser, hemail⟩ := h
  have hdrawn : s.raw ≠ none := by simp [hraw]
  exact ⟨(hext.raw hdrawn).trans hraw, u, (hext.user hdrawn).trans huser, hemail⟩

/-- An allowed call that stores a token stores the drawn one. -/
theorem Issue.owns_of_allows (hop : s.allows env op) {row : OneTimeTokenRow}
    (h : op.storesToken = some row) : s.Owns env row := by
  cases op with
  | resetToken o =>
    cases o with
    | upsert row' =>
      cases h
      exact hop
    | _ => exact hop.elim
  | verificationToken o =>
    cases o with
    | upsert row' =>
      cases h
      exact hop
    | _ => exact hop.elim
  | _ => cases h

/-- Only a call that stores a token marks it as stored. -/
theorem Issue.storesToken_of_next {r : Except JsError op.Reply} (hs : s.stored ≠ true)
    (h : ((issue env).next s op r).stored = true) : ∃ row, op.storesToken = some row := by
  have hadvance := s.advance_next env op r
  generalize (issue env).next s op r = s' at hadvance h
  cases hadvance with
  | stored hrow a => exact ⟨_, hrow⟩
  | _ => exact absurd h hs

/-- Only a message marks the token as sent. -/
theorem Issue.mail_of_next {r : Except JsError op.Reply} (hs : s.mailed ≠ true)
    (h : ((issue env).next s op r).mailed = true) : ∃ m, op = .mail m := by
  have hadvance := s.advance_next env op r
  generalize (issue env).next s op r = s' at hadvance h
  cases hadvance with
  | mailed m => exact ⟨m, rfl⟩
  | _ => exact absurd h hs

/-- The token that an issue knows is the one it knew or the next one of the generator. -/
theorem Issue.raw_of_next (hop : s.allows env op) (w : World) {raw : String}
    (h : ((issue env).next s op (exec env w op).1).raw = some raw) :
    s.raw = some raw ∨ raw = env.randomHex 32 w.draws ∧ w.draws < (exec env w op).2.draws := by
  have hadvance := s.advance_next env op (exec env w op).1
  generalize (issue env).next s op (exec env w op).1 = s' at hadvance h
  generalize hr : (exec env w op).1 = r at hadvance
  cases hadvance with
  | drawn length drawn =>
    obtain ⟨rfl, -⟩ := hop
    have hdrawn : env.randomHex 32 w.draws = drawn := Except.ok.inj hr
    rw [hdrawn]
    exact .inr ⟨(Option.some.inj h).symm, Nat.lt_succ_self _⟩
  | _ => exact .inl h

/-- The user that an issue knows is the one it knew or one that is stored. -/
theorem Issue.user_of_next (w : World) {u : UserRow}
    (h : ((issue env).next s op (exec env w op).1).user = some u) :
    s.user = some u ∨ u ∈ (exec env w op).2.users := by
  have hadvance := s.advance_next env op (exec env w op).1
  generalize (issue env).next s op (exec env w op).1 = s' at hadvance h
  generalize hr : (exec env w op).1 = r at hadvance
  cases hadvance with
  | found email user =>
    have huser : user = some u := h
    rw [huser] at hr
    exact .inr (mem_of_findUserByEmail hr)
  | created data =>
    have hdata : data = u := Option.some.inj h
    simp only [exec, UserOp.exec] at hr ⊢
    cases hi : w.users.insert data with
    | none =>
      rw [hi] at hr
      cases hr
    | some t => exact .inr ((Table.mem_insert hi).mpr (.inr hdata.symm))
  | _ => exact .inl h

/-- No user goes, and none is changed. -/
theorem Issue.users_of_allows (hop : s.allows env op) {w : World} {u : UserRow}
    (hu : u ∈ w.users) : u ∈ (exec env w op).2.users := by
  by_cases harea : op.area = some .userWrite
  · cases op with
    | user o =>
      cases o with
      | create data =>
        simp only [exec, UserOp.exec]
        cases hi : w.users.insert data with
        | none => exact hu
        | some t => exact (Table.mem_insert hi).mpr (.inl hu)
      | update id data => exact hop.elim
      | _ => exact hu
    | role o => cases o <;> cases harea
    | hasher o => cases o <;> cases harea
    | resetToken o => cases o <;> cases harea
    | verificationToken o => cases harea
    | auditCreate row => cases harea
    | system o => cases harea
    | mail m => cases harea
    | _ => exact hop.elim
  · rw [exec_users env w harea]
    exact hu

/-- A call that is answered is no failure. -/
theorem Issue.failed_next {r : Except JsError op.Reply} (hr : r.isOk = true) :
    ((issue env).next s op r).failed = s.failed := by
  have hadvance := s.advance_next env op r
  generalize (issue env).next s op r = s' at hadvance ⊢
  cases hadvance with
  | failed e => cases hr
  | _ => rfl

end Step

/-! ### Runs -/

/-- Calls of the three services, named by `ι`, in flight over one world. -/
abbrev Issuers (ι : Type) := Pool Api JsError ι Unit World

section Runs

variable {ι : Type} [DecidableEq ι]

namespace Issuers

/-- The calls before they start. -/
def start (env : Env) (calls : ι → TokenCall) (w : World) : Issuers ι :=
  Pool.start w fun i ↦ (calls i).program env

/-- No call of the infrastructure fails. -/
def everyCallAnswered (env : Env) (q : Issuers ι) : ServerTurn ι → Prop
  | .act i => ∀ op ∈ q.pending i, (exec env q.world op).1.isOk = true
  | .fail _ _ => False
  | .pass _ => True

instance (env : Env) (q : Issuers ι) : (t : ServerTurn ι) → Decidable (everyCallAnswered env q t)
  | .act i => inferInstanceAs
      (Decidable (∀ op ∈ q.pending i, (exec env q.world op).1.isOk = true))
  | .fail _ _ => isFalse not_false
  | .pass _ => isTrue trivial

/-- The pool `q` comes out of `p` without a failing call. -/
abbrev Reaches (env : Env) (p q : Issuers ι) : Prop :=
  Pool.Reaches (exec env) World.pass (everyCallAnswered env) p q

/-- How far `i` has come. -/
def issueOf (env : Env) (q : Issuers ι) (i : ι) : Issue := Pool.phase (issue env) {} q.log i

/-- What the log tells of the tokens: nothing has failed, every token was drawn by one call, for a
user that is stored, every stored row and every message is about the token and the user of its own
call, and no two messages hold one token. -/
structure Ledger (env : Env) (q : Issuers ι) : Prop where
  sound : ∀ i, (q.issueOf env i).failed = false
  drawn : ∀ i raw, (q.issueOf env i).raw = some raw →
    ∃ n < q.world.draws, raw = env.randomHex 32 n
  apart : ∀ i j raw, (q.issueOf env i).raw = some raw → (q.issueOf env j).raw = some raw → i = j
  owner : ∀ i u, (q.issueOf env i).user = some u → u ∈ q.world.users
  draws : ∀ i raw, (⟨i, .system (.randomBytes 32), .ok raw⟩ : Entry Api JsError ι) ∈ q.log →
    (q.issueOf env i).raw = some raw
  rows : ∀ e ∈ q.log, ∀ row, e.op.storesToken = some row → (q.issueOf env e.who).Owns env row
  mails : ∀ e ∈ q.log, ∀ m, e.op = .mail m →
    (q.issueOf env e.who).Sends m ∧ (q.issueOf env e.who).mailed = true
  once : q.log.Pairwise fun e e' ↦ ∀ m m', e.op = .mail m → e'.op = .mail m' → m.token ≠ m'.token

variable {env : Env} {q : Issuers ι}

section Record

variable {i : ι} {op : Op} {r : Except JsError op.Reply}
  {next : Except JsError op.Reply → Program Unit} {w' : World}

/-- An answer advances the issue of its call. -/
theorem issueOf_record_self :
    issueOf env (q.record i op r next w') i = (issue env).next (q.issueOf env i) op r := by
  unfold issueOf
  rw [Pool.phase_record, Function.update_self]

/-- An answer leaves the issues of the other calls. -/
theorem issueOf_record_of_ne {j : ι} (hj : j ≠ i) :
    issueOf env (q.record i op r next w') j = q.issueOf env j := by
  unfold issueOf
  rw [Pool.phase_record, Function.update_of_ne hj]

/-- Nothing that an issue knows is lost. -/
theorem extends_record (hop : (q.issueOf env i).allows env op) (j : ι) :
    (q.issueOf env j).Extends (issueOf env (q.record i op r next w') j) := by
  by_cases hj : j = i
  · subst hj
    rw [issueOf_record_self]
    exact Issue.extends_next hop r
  · rw [issueOf_record_of_ne hj]
    exact ⟨fun _ ↦ rfl, fun _ ↦ rfl, id, id⟩

/-- A token that is known after an answer was known before, or `i` has just drawn it. -/
theorem raw_record
    (hraw : ∀ raw, ((issue env).next (q.issueOf env i) op r).raw = some raw →
      (q.issueOf env i).raw = some raw ∨
        raw = env.randomHex 32 q.world.draws ∧ q.world.draws < w'.draws) {j : ι} {raw : String}
    (hj : (issueOf env (q.record i op r next w') j).raw = some raw) :
    (q.issueOf env j).raw = some raw ∨
      j = i ∧ raw = env.randomHex 32 q.world.draws ∧ q.world.draws < w'.draws := by
  by_cases hji : j = i
  · subst hji
    rw [issueOf_record_self] at hj
    exact (hraw raw hj).imp_right fun h ↦ ⟨rfl, h⟩
  · rw [issueOf_record_of_ne hji] at hj
    exact .inl hj

/-- The log grows by the answer. -/
theorem mem_log_record {e : Entry Api JsError ι} (he : e ∈ (q.record i op r next w').log) :
    e ∈ q.log ∨ e = ⟨i, op, r⟩ := by
  rcases List.mem_append.mp he with he | he
  · exact .inl he
  · exact .inr (List.mem_singleton.mp he)

/-- The next token of the generator is not known yet. -/
theorem Ledger.undrawn (hq : q.Ledger env) (hinj : Function.Injective (env.randomHex 32)) (j : ι) :
    (q.issueOf env j).raw ≠ some (env.randomHex 32 q.world.draws) := by
  intro hj
  obtain ⟨n, hn, he⟩ := hq.drawn j _ hj
  have hsame := hinj he
  omega

/-- Each token still belongs to one call once another has been drawn. -/
theorem Ledger.apart_record (hq : q.Ledger env) (hinj : Function.Injective (env.randomHex 32))
    (hraw : ∀ raw, ((issue env).next (q.issueOf env i) op r).raw = some raw →
      (q.issueOf env i).raw = some raw ∨
        raw = env.randomHex 32 q.world.draws ∧ q.world.draws < w'.draws) {j k : ι} {raw : String}
    (hj : (issueOf env (q.record i op r next w') j).raw = some raw)
    (hk : (issueOf env (q.record i op r next w') k).raw = some raw) : j = k := by
  rcases raw_record hraw hj with hj | ⟨hji, hj, -⟩
  · rcases raw_record hraw hk with hk | ⟨-, rfl, -⟩
    · exact hq.apart j k raw hj hk
    · exact absurd hj (hq.undrawn hinj j)
  · rcases raw_record hraw hk with hk | ⟨hki, -, -⟩
    · rw [hj] at hk
      exact absurd hk (hq.undrawn hinj k)
    · rw [hji, hki]

/-- No two messages hold one token once another message is sent. -/
theorem Ledger.once_record (hq : q.Ledger env) (hop : (q.issueOf env i).allows env op) :
    (q.record i op r next w').log.Pairwise fun e e' ↦
      ∀ m m', e.op = .mail m → e'.op = .mail m' → m.token ≠ m'.token := by
  apply List.pairwise_append.mpr
  refine ⟨hq.once, List.pairwise_singleton _ _, ?_⟩
  intro e he e' he' m m' hm hm' hsame
  rw [List.mem_singleton.mp he'] at hm'
  cases hm'
  -- one token in two messages is a token of one call, which has sent its message already
  obtain ⟨⟨hraw, -⟩, hmailed⟩ := hq.mails e he m hm
  rw [hsame] at hraw
  rw [hq.apart _ _ _ hraw hop.2.1, hop.1] at hmailed
  cases hmailed

/-- An answered call keeps the ledger. -/
theorem Ledger.record (hq : q.Ledger env) (hinj : Function.Injective (env.randomHex 32))
    (hop : (q.issueOf env i).allows env op) (hr : r.isOk = true)
    (hraw : ∀ raw, ((issue env).next (q.issueOf env i) op r).raw = some raw →
      (q.issueOf env i).raw = some raw ∨
        raw = env.randomHex 32 q.world.draws ∧ q.world.draws < w'.draws)
    (huser : ∀ u, ((issue env).next (q.issueOf env i) op r).user = some u →
      (q.issueOf env i).user = some u ∨ u ∈ w'.users)
    (hdraws : q.world.draws ≤ w'.draws) (husers : ∀ u ∈ q.world.users, u ∈ w'.users) :
    Ledger env (q.record i op r next w') where
  sound j := by
    by_cases hj : j = i
    · subst hj
      rw [issueOf_record_self, Issue.failed_next hr]
      exact hq.sound j
    · rw [issueOf_record_of_ne hj]
      exact hq.sound j
  drawn j raw hj := by
    rcases raw_record hraw hj with hj | ⟨-, rfl, hlt⟩
    · obtain ⟨n, hn, he⟩ := hq.drawn j raw hj
      exact ⟨n, Nat.lt_of_lt_of_le hn hdraws, he⟩
    · exact ⟨q.world.draws, hlt, rfl⟩
  apart j k raw := hq.apart_record hinj hraw
  owner j u hj := by
    by_cases hji : j = i
    · subst hji
      rw [issueOf_record_self] at hj
      rcases huser u hj with hj | hj
      · exact husers u (hq.owner j u hj)
      · exact hj
    · rw [issueOf_record_of_ne hji] at hj
      exact husers u (hq.owner j u hj)
  draws j raw hj := by
    rcases mem_log_record hj with hj | hj
    · have hdrawn := hq.draws j raw hj
      rw [(extends_record hop j).raw (by simp [hdrawn]), hdrawn]
    · cases hj
      rw [issueOf_record_self]
      rfl
  rows e he row hrow := by
    rcases mem_log_record he with he | rfl
    · exact (hq.rows e he row hrow).extend (extends_record hop e.who)
    · exact (Issue.owns_of_allows hop hrow).extend (extends_record hop i)
  mails e he m hm := by
    rcases mem_log_record he with he | rfl
    · obtain ⟨hsends, hmailed⟩ := hq.mails e he m hm
      have hextends : (q.issueOf env e.who).Extends
          (issueOf env (q.record i op r next w') e.who) := extends_record hop e.who
      exact ⟨hsends.extend hextends, hextends.mailed hmailed⟩
    · cases hm
      refine ⟨hop.2.extend (extends_record hop i), ?_⟩
      rw [issueOf_record_self]
      cases r with
      | ok _ => rfl
      | error e => cases hr
  once := hq.once_record hop

end Record

/-- The calls keep to their course. -/
theorem allows_of_reaches {calls : ι → TokenCall} {w : World}
    (hq : Issuers.Reaches env (start env calls w) q) {i : ι} {op : Op}
    {next : Except JsError op.Reply → Program Unit} (hi : q.rest i = .call op next) :
    (q.issueOf env i).allows env op :=
  Pool.Reaches.allows hq (TokenCall.program_issues (calls i)) hi

/-- The run: whatever the interleaving, as long as no call fails. -/
theorem ledger_of_reaches (hinj : Function.Injective (env.randomHex 32)) {calls : ι → TokenCall}
    {w : World} (hq : Issuers.Reaches env (start env calls w) q) : q.Ledger env := by
  apply Pool.Reaches.invariant hq (J := fun q : Issuers ι ↦ q.Ledger env)
  · constructor
    · exact fun _ ↦ rfl
    · rintro _ _ ⟨⟩
    · rintro _ _ _ ⟨⟩
    · rintro _ _ ⟨⟩
    · exact fun _ _ h ↦ absurd h List.not_mem_nil
    · exact fun _ h ↦ absurd h List.not_mem_nil
    · exact fun _ h ↦ absurd h List.not_mem_nil
    · exact List.Pairwise.nil
  · intro q i op next hreach hJ hok hi
    have hop := allows_of_reaches hreach hi
    apply hJ.record hinj hop
    · exact hok op (Pool.pending_of_rest hi)
    · exact fun raw ↦ Issue.raw_of_next hop q.world
    · exact fun u ↦ Issue.user_of_next q.world
    · exact exec_draws_le env q.world op
    · exact fun u ↦ Issue.users_of_allows hop
  · exact fun q i e op next _ _ hok _ ↦ hok.elim
  · exact fun q t hJ _ ↦
      ⟨hJ.sound, hJ.drawn, hJ.apart, hJ.owner, hJ.draws, hJ.rows, hJ.mails, hJ.once⟩

/-! ### What is delivered -/

/-- The message is addressed to the email, and the hash of its token is the token of the row. -/
def delivers (env : Env) (email : String) (row : OneTimeTokenRow) : Op → Bool
  | .mail m => decide (m.email = email ∧ env.sha256 (.plain m.token) = row.token)
  | _ => false

/-- Only a message delivers. -/
theorem delivers_iff {env : Env} {email : String} {row : OneTimeTokenRow} {op : Op} :
    delivers env email row op = true ↔
      ∃ m, op = .mail m ∧ m.email = email ∧ env.sha256 (.plain m.token) = row.token := by
  unfold delivers
  split
  · next m =>
    rw [decide_eq_true_eq]
    constructor
    · intro h
      exact ⟨m, rfl, h⟩
    · rintro ⟨_, ⟨⟩, h⟩
      exact h
  · next hop =>
    refine iff_of_false Bool.false_ne_true ?_
    rintro ⟨m, rfl, -⟩
    exact hop m rfl

/-- No two messages deliver one row. -/
theorem Ledger.countP_delivers (h : q.Ledger env)
    (hsha : Function.Injective fun s ↦ env.sha256 (.plain s)) {email : String}
    {row : OneTimeTokenRow} {e : Entry Api JsError ι} (he : e ∈ q.log)
    (hdelivers : delivers env email row e.op = true) :
    (q.log.countP fun e ↦ delivers env email row e.op) = 1 := by
  apply countP_eq_one he hdelivers
  apply h.once.imp
  rintro a b hab ⟨ha, hb⟩
  obtain ⟨m, ham, -, hhash⟩ := delivers_iff.mp ha
  obtain ⟨m', hbm, -, hhash'⟩ := delivers_iff.mp hb
  exact hab m m' ham hbm (hsha (hhash.trans hhash'.symm))

/-- The row that `i` has stored is delivered: exactly one message to its owner has a token with its
hash, and the row does not hold the token that `i` has drawn. -/
structure Delivered (env : Env) (q : Issuers ι) (i : ι) (row : OneTimeTokenRow) : Prop where
  mailed : ∃ u ∈ q.world.users, u.id = row.userId ∧
    (q.log.countP fun e ↦ delivers env u.email row e.op) = 1
  hashed : ∀ raw, (⟨i, .system (.randomBytes 32), .ok raw⟩ : Entry Api JsError ι) ∈ q.log →
    row.token ≠ .plain raw

/-- The call is not the one with which a registration stores a token, and the token that it draws,
if it draws one, is not its own digest. -/
structure Harmless (env : Env) (calls : ι → TokenCall) (e : Entry Api JsError ι) : Prop where
  mails : ∀ row, e.op.storesToken = some row → (calls e.who).mails = true
  draws : ∀ i raw, e = ⟨i, .system (.randomBytes 32), .ok raw⟩ →
    env.sha256 (.plain raw) ≠ .plain raw

/-- The call `i` has ended. -/
def Ended (q : Issuers ι) (i : ι) : Prop := (q.result i).isSome = true

instance (q : Issuers ι) (i : ι) : Decidable (q.Ended i) :=
  inferInstanceAs (Decidable ((q.result i).isSome = true))

variable {calls : ι → TokenCall} {w : World}

/-- A registration sends no message. -/
theorem no_mail (hq : Issuers.Reaches env (start env calls w) q) :
    ∀ e ∈ q.log, ∀ m, e.op = .mail m → (calls e.who).mails = true := by
  have hcalls : ∀ (q : Issuers ι) i op next, Issuers.Reaches env (start env calls w) q →
      q.rest i = .call op next → ∀ m, op = .mail m → (calls i).mails = true := by
    rintro q i _ next hreach hi m rfl
    cases hc : calls i with
    | register r =>
      have huses : ((calls i).program env).Uses (RegisterUserService.calls env r) := by
        rw [hc]
        exact uses_bind ((RegisterUserService.execute_calls env r).mono fun _ h ↦ h.2.2)
          fun _ ↦ trivial
      exact (hreach.uses_call huses hi).elim
    | sendVerificationEmail email => rfl
    | forgotPassword r => rfl
  exact Pool.Reaches.log_invariant hq
    (H := fun i (op : Op) _ ↦ ∀ m, op = .mail m → (calls i).mails = true)
    (fun _ h ↦ absurd h List.not_mem_nil) (fun q i op next hreach _ ↦ hcalls q i op next hreach)
    fun _ _ _ _ _ _ hok ↦ hok.elim

/-- A call that has ended and has drawn a token has stored it, and sent it if it has a mailer. -/
theorem closed_of_ended (hq : Issuers.Reaches env (start env calls w) q)
    (hledger : q.Ledger env) {i : ι} (hi : q.Ended i) (hraw : (q.issueOf env i).raw ≠ none) :
    (q.issueOf env i).stored = true ∧
      ((calls i).mails = true → (q.issueOf env i).mailed = true) := by
  unfold Ended Pool.result at hi
  cases hrest : q.rest i with
  | call op next =>
    rw [hrest] at hi
    cases hi
  | done r =>
    have hpost := Pool.Reaches.post_of_done hq (TokenCall.program_issues (calls i)) hrest
    cases r with
    | error e =>
      rcases hpost with hfailed | hnone
      · have hsound := hledger.sound i
        unfold issueOf at hsound
        rw [hfailed] at hsound
        cases hsound
      · exact absurd hnone hraw
    | ok _ =>
      rcases hpost with hnone | hclosed
      · exact absurd hnone hraw
      · exact hclosed

/-- A message with the token of a row comes from the call that has stored the row. -/
theorem Ledger.who_mailed (h : q.Ledger env)
    (hsha : Function.Injective fun s ↦ env.sha256 (.plain s)) {e e' : Entry Api JsError ι}
    {row : OneTimeTokenRow} {m : Mail} (he : e ∈ q.log)
    (hrow : e.op.storesToken = some row) (he' : e' ∈ q.log) (hm : e'.op = .mail m)
    (hhash : env.sha256 (.plain m.token) = row.token) : e'.who = e.who := by
  obtain ⟨raw, u, hraw, -, htoken, -⟩ := h.rows e he row hrow
  have hsame : m.token = raw := hsha (hhash.trans htoken)
  apply h.apart e'.who e.who raw _ hraw
  rw [← hsame]
  exact (h.mails e' he' m hm).1.1

/-- A call that has ended has stored the digest of the token that it has drawn. -/
theorem exists_row_of_ended (hq : Issuers.Reaches env (start env calls w) q)
    (hledger : q.Ledger env) {i : ι} {raw : String} (hi : q.Ended i)
    (hraw : (q.issueOf env i).raw = some raw) :
    ∃ e ∈ q.log, e.who = i ∧
      ∃ row, e.op.storesToken = some row ∧ row.token = env.sha256 (.plain raw) := by
  obtain ⟨hstored, -⟩ := closed_of_ended hq hledger hi (by simp [hraw])
  obtain ⟨e, he, rfl, s, hs, hnext⟩ :=
    Pool.exists_of_phase (P := issue env) (J := fun s ↦ s.stored = true) (by simp) hstored
  obtain ⟨row, hrow⟩ := Issue.storesToken_of_next hs hnext
  obtain ⟨raw', u, hraw', -, htoken, -⟩ := hledger.rows e he row hrow
  rw [hraw] at hraw'
  refine ⟨e, he, rfl, row, hrow, ?_⟩
  rw [htoken, Option.some.inj hraw']

/-- A call with a mailer that has ended has sent the token that it has drawn to its user. -/
theorem exists_mail_of_ended (hq : Issuers.Reaches env (start env calls w) q)
    (hledger : q.Ledger env) {i : ι} {raw : String} {u : UserRow} (hi : q.Ended i)
    (hmails : (calls i).mails = true) (hraw : (q.issueOf env i).raw = some raw)
    (huser : (q.issueOf env i).user = some u) :
    ∃ e ∈ q.log, ∃ m, e.op = .mail m ∧ m.email = u.email ∧ m.token = raw := by
  have hmailed := (closed_of_ended hq hledger hi (by simp [hraw])).2 hmails
  obtain ⟨e, he, rfl, s, hs, hnext⟩ :=
    Pool.exists_of_phase (P := issue env) (J := fun s ↦ s.mailed = true) (by simp) hmailed
  obtain ⟨m, hm⟩ := Issue.mail_of_next hs hnext
  obtain ⟨⟨hmraw, u', hmuser, hemail⟩, -⟩ := hledger.mails e he m hm
  rw [hraw] at hmraw
  rw [huser] at hmuser
  refine ⟨e, he, m, hm, ?_, (Option.some.inj hmraw).symm⟩
  rw [hemail, Option.some.inj hmuser]

/-- In every run without a failing call: every row that a call has stored, when it ends, is
delivered, if and only if no registration among them has stored a token and no token that they have
drawn is its own digest. -/
theorem tokens_delivered_iff (env : Env)
    (hsha : Function.Injective fun s ↦ env.sha256 (.plain s))
    (hdraws : Function.Injective (env.randomHex 32)) (calls : ι → TokenCall) (w : World)
    (q : Issuers ι) (hq : Issuers.Reaches env (start env calls w) q) :
    (∀ e ∈ q.log, q.Ended e.who → ∀ row, e.op.storesToken = some row →
        q.Delivered env e.who row) ↔
      ∀ e ∈ q.log, q.Ended e.who → Harmless env calls e := by
  have hledger := ledger_of_reaches hdraws hq
  constructor
  · intro hdelivered e he hended
    constructor
    · intro row hrow
      obtain ⟨u, -, -, hcount⟩ := (hdelivered e he hended row hrow).mailed
      have hpos : 0 < q.log.countP fun e ↦ delivers env u.email row e.op := by
        rw [hcount]
        exact Nat.one_pos
      obtain ⟨e', he', hdelivers⟩ := List.countP_pos_iff.mp hpos
      obtain ⟨m, hm, -, hhash⟩ := delivers_iff.mp hdelivers
      rw [← hledger.who_mailed hsha he hrow he' hm hhash]
      exact no_mail hq e' he' m hm
    · rintro i raw rfl hdigest
      have hraw := hledger.draws i raw he
      obtain ⟨e', he', rfl, row, hrow, htoken⟩ := exists_row_of_ended hq hledger hended hraw
      apply (hdelivered e' he' hended row hrow).hashed raw he
      rw [htoken, hdigest]
  · intro hharmless e he hended row hrow
    obtain ⟨raw, u, hraw, huser, htoken, hid⟩ := hledger.rows e he row hrow
    constructor
    · refine ⟨u, hledger.owner e.who u huser, hid.symm, ?_⟩
      obtain ⟨e', he', m, hm, hemail, hsame⟩ := exists_mail_of_ended hq hledger hended
        ((hharmless e he hended).mails row hrow) hraw huser
      apply hledger.countP_delivers hsha he'
      apply delivers_iff.mpr
      exact ⟨m, hm, hemail, by rw [htoken, hsame]⟩
    · intro raw' hdraw
      have hraw' := hledger.draws e.who raw' hdraw
      rw [hraw] at hraw'
      rw [htoken, Option.some.inj hraw']
      exact (hharmless _ hdraw hended).draws e.who raw' rfl

omit [DecidableEq ι] in
/-- A run without messages delivers nothing. -/
theorem not_delivered (hq : (q.log.all fun e ↦ e.op.area ≠ some .mail) = true) (i : ι)
    (row : OneTimeTokenRow) : ¬ q.Delivered env i row := by
  rintro ⟨⟨u, -, -, hcount⟩, -⟩
  have hnone : (q.log.countP fun e ↦ delivers env u.email row e.op) = 0 := by
    apply List.countP_eq_zero.mpr
    intro e he hdelivers
    obtain ⟨m, hm, -⟩ := delivers_iff.mp hdelivers
    have harea := List.all_eq_true.mp hq e he
    rw [hm] at harea
    cases harea
  rw [hcount] at hnone
  cases hnone

end Issuers
end Runs

/-- `alice` asks for a new password and for a verification mail. -/
def Sample.mailCalls : Nat → TokenCall
  | 0 => .forgotPassword ⟨"alice@bank.example", "10.0.0.1", "browser"⟩
  | _ => .sendVerificationEmail "alice@bank.example"

/-- Both calls take turns, and the first one writes its audit event at the end. -/
def Sample.mailTurns : List (ServerTurn Nat) :=
  [.act 0, .act 1, .act 0, .act 1, .act 0, .act 1, .act 0, .act 1, .act 0, .act 1] ++
    List.replicate 3 (.act 0)

/-- The calls of `mailCalls` after the turns of `mailTurns`. -/
def Sample.mailRun : Issuers Nat :=
  (Issuers.start env mailCalls registered).play (exec env) World.pass mailTurns

namespace Issuers

/-- Both tokens of `alice` are delivered. -/
theorem tokens_delivered_iff_alice :
    Sample.mailRun.Ended 0 ∧ Sample.mailRun.Ended 1 ∧
      ∀ e ∈ Sample.mailRun.log, Sample.mailRun.Ended e.who → ∀ row, e.op.storesToken = some row →
        Sample.mailRun.Delivered Sample.env e.who row := by
  refine ⟨by decide +kernel, by decide +kernel, ?_⟩
  apply (tokens_delivered_iff Sample.env _ _ Sample.mailCalls Sample.registered Sample.mailRun
    (Pool.reaches_play Sample.mailTurns (by decide +kernel))).mpr
  · intro e _ _
    constructor
    · intro _ _
      match e.who with
      | 0 => rfl
      | _ + 1 => rfl
    · intro _ raw _ hdigest
      have hlength := congrArg String.length (Text.plain.inj hdigest)
      simp at hlength
  · intro s t hst
    exact (String.append_right_inj "sha256-").mp (Text.plain.inj hst)
  · intro m n hmn
    have hlength := congrArg String.length hmn
    simpa [Sample.env] using hlength

/-- A registration alone. -/
def registerAlone : Issuers Unit :=
  (start Sample.env (fun _ ↦
      .register ⟨"bob@bank.example", "Correct-horse-2", "10.0.0.2", "browser"⟩) Sample.opened).play
    (exec Sample.env) World.pass (List.replicate 13 (.act ()))

/-- The verification token of a registration is sent to nobody. -/
theorem registration_token_not_delivered :
    ¬ ∀ e ∈ registerAlone.log, registerAlone.Ended e.who → ∀ row, e.op.storesToken = some row →
      registerAlone.Delivered Sample.env e.who row := by
  intro h
  have hstored : (registerAlone.log.any fun e ↦ e.op.storesToken.isSome) = true := by
    decide +kernel
  obtain ⟨e, he, hrow⟩ := List.any_eq_true.mp hstored
  obtain ⟨row, hrow⟩ := Option.isSome_iff_exists.mp hrow
  have hended : registerAlone.Ended () := by decide +kernel
  exact not_delivered (by decide +kernel) e.who row (h e he hended row hrow)

end Issuers
end Bankos
