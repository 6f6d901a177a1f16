import Bankos.Users.Registration
import Mathlib.Data.List.Pairwise
import Mathlib.Data.List.TakeWhile

/-!
# One account for each mailbox

A registration stores its email in normal form, which is valid, and nothing else changes an email.
So the unique constraint on the stored email is one on the mailbox: of all registrations of one
mailbox, however they interleave, one creates its user and the others are rejected before they write
anything.
-/

namespace Bankos

open Js Jwt Effects Storage Prog

/-! ### Emails in normal form -/

/-- What the documentation says of the two string functions: trimming takes away white space only,
and what is in lower case stays so. -/
structure Env.NormalStrings (env : Env) : Prop where
  trim_of_no_space : ∀ s : String, (∀ c ∈ s.toList, isSpace c = false) → env.trim s = s
  toLowerCase_idempotent : ∀ s, env.toLowerCase (env.toLowerCase s) = env.toLowerCase s

/-- The email is valid and in normal form. -/
structure EmailValidator.Canonical (env : Env) (email : String) : Prop where
  fixed : normalize env email = email
  valid : isValid email = true

/-- A valid email has no white space. -/
theorem EmailValidator.no_space_of_isValid {email : String} (h : isValid email = true) :
    ∀ c ∈ email.toList, isSpace c = false := by
  have hplain : ∀ c, plain c = true → isSpace c = false := by
    intro c hc
    unfold plain at hc
    rw [Bool.and_eq_true, Bool.not_eq_true'] at hc
    exact hc.1
  unfold isValid at h
  split at h
  · next domain hdrop =>
    simp only [Bool.and_eq_true, List.all_eq_true] at h
    intro c hc
    rw [← List.takeWhile_append_dropWhile (p := plain) (l := email.toList), hdrop] at hc
    rcases List.mem_append.mp hc with hc | hc
    · exact hplain c (List.mem_takeWhile_imp hc)
    · rcases List.mem_cons.mp hc with rfl | hc
      · rfl
      · exact hplain c (h.1.2 c hc)
  · cases h

/-- A normal form that is valid is canonical. -/
theorem EmailValidator.canonical_normalize {env : Env} (hs : env.NormalStrings) {email : String}
    (h : isValid (normalize env email) = true) : Canonical env (normalize env email) where
  fixed := by
    have htrim := hs.trim_of_no_space _ (no_space_of_isValid h)
    unfold normalize at htrim ⊢
    rw [htrim, hs.toLowerCase_idempotent]
  valid := h

/-! ### The lookup of a login -/

/-- `LoginService.ts:30–39`: the user of an email, as far as the email is valid. -/
def LoginService.lookup (env : Env) (userRepository : IUserRepository) (email : String) :
    Program (Option User) :=
  let normalizedEmail := EmailValidator.normalize env email
  if EmailValidator.isValid normalizedEmail then userRepository.findByEmail normalizedEmail
  else pure none

/-- A login starts with its lookup. -/
theorem LoginService.execute_eq_lookup (env : Env) (userRepository : IUserRepository)
    (request : LoginRequest) :
    execute env userRepository request = (do
      let user ← lookup env userRepository request.email
      match user with
      | none => refuse env DUMMY_HASH request.passwordRaw
      | some user =>
        if user.isLocked then refuse env user.passwordHash request.passwordRaw
        else do
          let isValidPassword ←
            Argon2PasswordHasher.verify env user.passwordHash request.passwordRaw
          if isValidPassword then rightPassword env userRepository request user
          else wrongPassword userRepository user) := by
  unfold execute lookup
  dsimp only
  split <;> rfl

/-- The stored emails are canonical. -/
def World.CanonicalEmails (env : Env) (w : World) : Prop :=
  ∀ r ∈ w.users, EmailValidator.Canonical env r.email

section World

variable {env : Env} {w : World}

/-- Two users never share a mailbox. -/
theorem World.CanonicalEmails.distinct (hw : w.CanonicalEmails env) :
    w.users.rows.Pairwise fun r s ↦
      EmailValidator.normalize env r.email ≠ EmailValidator.normalize env s.email := by
  apply w.users.distinct.imp_of_mem
  intro r s hr hs hclash hsame
  rw [(hw r hr).fixed, (hw s hs).fixed] at hsame
  simp [UserRow.clash, hsame] at hclash

/-- A login finds the user whose email is the normal form of what was entered. -/
theorem LoginService.lookup_iff (hw : w.CanonicalEmails env) (email : String) {r : UserRow}
    (hr : r ∈ w.users) :
    ((lookup env PrismaUserRepository email).run (exec env) w).1 =
        .ok (some (DatabaseMapper.toDomainUser r)) ↔
      EmailValidator.normalize env email = r.email := by
  unfold lookup
  dsimp only
  constructor
  · intro h
    split at h
    · have hfind : (w.users.find fun u ↦ decide (u.email = EmailValidator.normalize env email)).map
          DatabaseMapper.toDomainUser = some (DatabaseMapper.toDomainUser r) := Except.ok.inj h
      obtain ⟨u, hu, hsame⟩ := Option.map_eq_some_iff.mp hfind
      have hemail : u.email = r.email := congrArg User.email hsame
      rw [← hemail]
      exact (of_decide_eq_true (Table.find_some hu).2).symm
    · cases Except.ok.inj h
  · intro h
    rw [h, if_pos (hw r hr).valid]
    change Except.ok ((w.users.find fun u ↦ decide (u.email = r.email)).map _) = _
    rw [UserTable.find_email hr]
    rfl

end World

/-! ### What a registration creates -/

/-- A registration that has not created its user does not return. -/
theorem RegisterUserService.execute_told (env : Env) (r : RegisterUserRequest) :
    (execute env r).Told (fun (op : Op) (reply : Except JsError op.Reply) ↦
      op.createdUser reply = false) fun _ ↦ False := by
  unfold execute
  dsimp only
  split
  · exact told_throw
  · split
    · exact told_throw
    · apply told_then
      intro emailExists
      split
      · exact told_throw
      · apply told_then
        intro defaultRole
        cases defaultRole with
        | none => exact told_throw
        | some defaultRole =>
          unfold createUser
          apply told_then
          intro passwordHash
          apply told_then
          intro id
          apply Told.seq (R := fun _ ↦ False)
          · apply told_perform
            intro _ hcreated
            cases hcreated
          · exact fun _ h ↦ h.elim

/-- A call that creates no user, of those that a registration makes, leaves the users alone. -/
theorem exec_users_of_calls {env : Env} {r : RegisterUserRequest} {op : Op}
    (hop : RegisterUserService.calls env r op) (w : World)
    (h : op.createdUser (exec env w op).1 = false) : (exec env w op).2.users = w.users := by
  by_cases harea : op.area = some .userWrite
  · cases op with
    | user o =>
      cases o with
      | create data =>
        simp only [exec, UserOp.exec] at h ⊢
        cases hi : w.users.insert data with
        | none => rfl
        | some t =>
          rw [hi] at h
          cases h
      | update id data => exact hop.elim
      | findUniqueById id => rfl
      | findUniqueByEmail email => rfl
      | count email => rfl
    | role o => cases o <;> cases harea
    | hasher o => cases o <;> cases harea
    | verificationToken o => cases harea
    | auditCreate row => cases harea
    | system o => cases harea
    | _ => exact hop.elim
  · exact exec_users env w harea

/-- The call stores no user, user role or verification token in a world that answers so. -/
def Op.StoresNothing (env : Env) (op : Op) (reply : Except JsError op.Reply) : Prop :=
  ∀ w, (exec env w op).1 = reply → (exec env w op).2.users = w.users ∧
    (exec env w op).2.userRoles = w.userRoles ∧
    (exec env w op).2.emailVerificationTokens = w.emailVerificationTokens

/-- A registration stores nothing until it creates its user. -/
theorem RegisterUserService.storesNothing {env : Env} {r : RegisterUserRequest} {op : Op}
    {reply : Except JsError op.Reply} (hop : calls env r op) (habout : ¬ op.aboutCreatedUser)
    (hcreated : op.createdUser reply = false) : op.StoresNothing env reply := by
  rintro w rfl
  refine ⟨exec_users_of_calls hop w hcreated, ?_⟩
  cases op with
  | user o =>
    cases o with
    | create data => cases hi : w.users.insert data <;> simp [exec, UserOp.exec, hi]
    | count email => exact ⟨rfl, rfl⟩
    | _ => exact hop.elim
  | role o =>
    cases o with
    | findUniqueByName name => exact ⟨rfl, rfl⟩
    | upsertUserRole row => exact absurd trivial habout
    | _ => exact hop.elim
  | verificationToken o =>
    cases o with
    | upsert row => exact absurd trivial habout
    | _ => exact hop.elim
  | auditCreate row => simp [exec]
  | hasher o => cases o <;> exact ⟨rfl, rfl⟩
  | system o => cases o <;> exact ⟨rfl, rfl⟩
  | _ => exact hop.elim

/-! ### Runs -/

section Runs

variable {ι : Type} [DecidableEq ι]

/-- The mailbox that `i` registers. -/
def mailbox (env : Env) (reqs : ι → RegisterUserRequest) (i : ι) : String :=
  EmailValidator.normalize env (reqs i).email

/-- The registrations before they start. -/
def Identity.registrations (env : Env) (reqs : ι → RegisterUserRequest) (w : World) : Identity ι :=
  Identity.start env PrismaUserRepository (fun i ↦ .register (reqs i)) w

/-- The users that are stored and those that have been created: every stored email is canonical,
every user that was created is stored, and no two were created for one mailbox. -/
structure Identity.Mailboxes (env : Env) (reqs : ι → RegisterUserRequest) (q : Identity ι) :
    Prop where
  canonical : q.world.CanonicalEmails env
  stored : ∀ e ∈ q.log, e.op.createdUser e.reply = true →
    ∃ r ∈ q.world.users, r.email = mailbox env reqs e.who
  apart : q.log.Pairwise fun e e' ↦ e.op.createdUser e.reply = true →
    e'.op.createdUser e'.reply = true → mailbox env reqs e.who ≠ mailbox env reqs e'.who

variable {env : Env} {reqs : ι → RegisterUserRequest} {w : World} {q : Identity ι}
  {ok : Identity ι → ServerTurn ι → Prop}

/-- A call that creates no user and leaves the users alone. -/
theorem Identity.Mailboxes.stay (hq : q.Mailboxes env reqs) {i : ι} {op : Op}
    {reply : Except JsError op.Reply} {next : Except JsError op.Reply → Program Outcome}
    {w' : World} (hcreated : op.createdUser reply = false) (husers : w'.users = q.world.users) :
    Identity.Mailboxes env reqs (q.record i op reply next w') where
  canonical r hr := by
    apply hq.canonical r
    rw [← husers]
    exact hr
  stored e he hcreates := by
    rcases List.mem_append.mp he with he | he
    · obtain ⟨r, hr, hemail⟩ := hq.stored e he hcreates
      refine ⟨r, ?_, hemail⟩
      change r ∈ w'.users
      rw [husers]
      exact hr
    · rw [List.mem_singleton.mp he, hcreated] at hcreates
      cases hcreates
  apart := by
    apply List.pairwise_append.mpr
    refine ⟨hq.apart, List.pairwise_singleton _ _, ?_⟩
    intro e _ e' he' _ hcreates
    rw [List.mem_singleton.mp he', hcreated] at hcreates
    cases hcreates

/-- A user is created for a mailbox that has none. -/
theorem Identity.Mailboxes.create (hq : q.Mailboxes env reqs) (hs : env.NormalStrings) {i : ι}
    {data : UserRow} {reply : Except JsError Unit} {next : Except JsError Unit → Program Outcome}
    {t : UserTable} (hi : q.world.users.insert data = some t)
    (hemail : data.email = mailbox env reqs i)
    (hvalid : EmailValidator.isValid (mailbox env reqs i) = true) :
    Identity.Mailboxes env reqs
      (q.record i (.user (.create data)) reply next { q.world with users := t }) where
  canonical r hr := by
    rcases (Table.mem_insert hi).mp hr with hr | rfl
    · exact hq.canonical r hr
    · rw [hemail]
      exact EmailValidator.canonical_normalize hs hvalid
  stored e he hcreates := by
    rcases List.mem_append.mp he with he | he
    · obtain ⟨r, hr, hsame⟩ := hq.stored e he hcreates
      exact ⟨r, (Table.mem_insert hi).mpr (.inl hr), hsame⟩
    · rw [List.mem_singleton.mp he]
      exact ⟨data, (Table.mem_insert hi).mpr (.inr rfl), hemail⟩
  apart := by
    apply List.pairwise_append.mpr
    refine ⟨hq.apart, List.pairwise_singleton _ _, ?_⟩
    intro e he e' he' hcreates _ hsame
    rw [List.mem_singleton.mp he'] at hsame
    obtain ⟨r, hr, hr'⟩ := hq.stored e he hcreates
    -- the insertion found no row with this email
    have hfree : UserRow.clash r data = false := by
      apply Table.insert_isSome.mp _ r hr
      rw [hi]
      rfl
    have hclash : r.email = data.email := by rw [hr', hsame, hemail]
    simp [UserRow.clash, hclash] at hfree

/-- The next call of the registration `i` is one of the calls of a registration, and its mailbox
is valid. -/
theorem registrations_calls (hq : Identity.Reaches env ok (Identity.registrations env reqs w) q)
    {i : ι} {op : Op} {next : Except JsError op.Reply → Program Outcome}
    (hi : q.rest i = .call op next) :
    EmailValidator.isValid (mailbox env reqs i) = true ∧
      RegisterUserService.calls env (reqs i) op := by
  have huses : ((Activity.register (reqs i)).run env PrismaUserRepository).Uses fun op ↦
      EmailValidator.isValid (mailbox env reqs i) = true ∧
        RegisterUserService.calls env (reqs i) op := by
    refine uses_bind ?_ fun _ ↦ uses_done _ _
    exact (RegisterUserService.execute_calls env (reqs i)).mono fun op hop ↦ ⟨hop.1, hop.2.2⟩
  exact hq.uses_call huses hi

/-- The run: whatever the interleaving, and whatever fails. -/
theorem registrations_mailboxes (hs : env.NormalStrings) (hw : w.CanonicalEmails env)
    (hq : Identity.Reaches env ok (Identity.registrations env reqs w) q) :
    q.Mailboxes env reqs := by
  apply hq.invariant (J := fun q : Identity ι ↦ q.Mailboxes env reqs)
  · exact ⟨hw, fun e he ↦ absurd he List.not_mem_nil, List.Pairwise.nil⟩
  · intro q i op next hreach hJ _ hi
    obtain ⟨hvalid, hop⟩ := registrations_calls hreach hi
    cases hcreated : op.createdUser (exec env q.world op).1 with
    | false => exact hJ.stay hcreated (exec_users_of_calls hop q.world hcreated)
    | true =>
      cases op with
      | user o =>
        cases o with
        | create data =>
          simp only [exec, UserOp.exec] at hcreated ⊢
          cases hinsert : q.world.users.insert data with
          | none =>
            rw [hinsert] at hcreated
            cases hcreated
          | some t => exact hJ.create hs hinsert hop hvalid
        | _ => cases hcreated
      | _ => cases hcreated
  · intro q i e op next _ hJ _ _
    apply hJ.stay _ rfl
    cases op with
    | user o => cases o <;> rfl
    | _ => rfl
  · exact fun q t hJ _ ↦ ⟨hJ.canonical, hJ.stored, hJ.apart⟩

/-- Of two registrations of one mailbox, at most one has created its user. -/
theorem Identity.Mailboxes.loser (hq : q.Mailboxes env reqs) {i j : ι}
    (hij : j ≠ i) (hsame : mailbox env reqs j = mailbox env reqs i)
    (hj : q.hasCreatedUser j = true) : q.hasCreatedUser i = false := by
  rw [← Bool.not_eq_true]
  intro hi
  unfold hasCreatedUser at hi hj
  obtain ⟨e, he, hwho⟩ := List.any_eq_true.mp hj
  obtain ⟨e', he', hwho'⟩ := List.any_eq_true.mp hi
  rw [Bool.and_eq_true, decide_eq_true_eq] at hwho hwho'
  have hne : e ≠ e' := by
    rintro rfl
    exact hij (hwho.1.symm.trans hwho'.1)
  have hsymm : Std.Symm fun e e' : Entry Api JsError ι ↦ e.op.createdUser e.reply = true →
      e'.op.createdUser e'.reply = true → mailbox env reqs e.who ≠ mailbox env reqs e'.who :=
    ⟨fun _ _ h hb ha ↦ (h ha hb).symm⟩
  have hapart := hq.apart.forall he he' hne hwho.2 hwho'.2
  rw [hwho.1, hwho'.1] at hapart
  exact hapart hsame

/-- What becomes of a registration that has not created its user. -/
structure Identity.Rejected (env : Env) (q : Identity ι) (i : ι) : Prop where
  nothing : ∀ e ∈ q.log, e.who = i → e.op.StoresNothing env e.reply
  ended : ∀ outcome, q.result i = some outcome → ∃ e, outcome = .error e

/-- A registration that has not created its user has stored nothing, and has not returned. -/
theorem rejected_of_not_created
    (hq : Identity.Reaches env ok (Identity.registrations env reqs w) q) {i : ι}
    (hi : q.hasCreatedUser i = false) : q.Rejected env i := by
  have hcreated : ∀ e ∈ q.log, e.who = i → e.op.createdUser e.reply = false := by
    intro e he hwho
    rw [← Bool.not_eq_true]
    intro hcreates
    have hcreated : q.hasCreatedUser i = true := by
      apply List.any_eq_true.mpr
      exact ⟨e, he, by rw [hwho, hcreates]; simp⟩
    rw [hi] at hcreated
    cases hcreated
  constructor
  · intro e he hwho
    have hcalls := hq.log_invariant (H := fun i op _ ↦ RegisterUserService.calls env (reqs i) op)
      (fun e he ↦ absurd he List.not_mem_nil)
      (fun q i op next hreach _ hi ↦ (registrations_calls hreach hi).2)
      (fun q i _ op next hreach _ hi ↦ (registrations_calls hreach hi).2) e he
    apply RegisterUserService.storesNothing hcalls _ (hcreated e he hwho)
    intro habout
    have huser := user_before_writes (r := reqs i) (i := i) rfl hq e he hwho habout
    rw [user_phase] at huser
    rw [Identity.hasCreatedUser, huser] at hi
    cases hi
  · intro outcome hout
    have htold := hq.told (i := i)
      (H := fun (op : Op) (reply : Except JsError op.Reply) ↦ op.createdUser reply = false)
      (Q := fun _ ↦ False)
      ((RegisterUserService.execute_told env (reqs i)).seq fun _ h ↦ h.elim) hcreated
    unfold Pool.result at hout
    split at hout
    · next result hdone =>
      rw [hdone] at htold
      cases Option.some.inj hout
      cases outcome with
      | ok a => exact (htold a rfl).elim
      | error e => exact ⟨e, rfl⟩
    · cases hout

/-- One account for each mailbox: no two users share one, every stored email is valid and in normal
form, a login finds the user whose email is the normal form of what was entered, and a registration
stores nothing and is rejected, when its turns come, if another one has created a user for its
mailbox. -/
structure Identity.OneAccountPerMailbox (env : Env) (reqs : ι → RegisterUserRequest)
    (q : Identity ι) : Prop where
  distinct : q.world.users.rows.Pairwise fun r s ↦
    EmailValidator.normalize env r.email ≠ EmailValidator.normalize env s.email
  canonical : ∀ r ∈ q.world.users, EmailValidator.normalize env r.email = r.email ∧
    EmailValidator.isValid r.email = true
  lookup : ∀ email, ∀ r ∈ q.world.users,
    ((LoginService.lookup env PrismaUserRepository email).run (exec env) q.world).1 =
        .ok (some (DatabaseMapper.toDomainUser r)) ↔
      EmailValidator.normalize env email = r.email
  loser : ∀ i j, j ≠ i → mailbox env reqs j = mailbox env reqs i → q.hasCreatedUser j = true →
    q.Rejected env i
  rejects : ∀ i j, j ≠ i → mailbox env reqs j = mailbox env reqs i → q.hasCreatedUser j = true →
    ∃ e, (Pool.finish (exec env) i (q.rest i) q).result i = some (.error e)

/-- However registrations interleave, and whatever fails, there is one account for each mailbox. By
`LoginService.execute_eq_lookup` the lookup of the statement is the one that a login starts with. -/
theorem one_account_per_mailbox (env : Env) (hs : env.NormalStrings)
    (reqs : ι → RegisterUserRequest) (w : World) (hw : w.CanonicalEmails env) (q : Identity ι)
    (hq : Identity.Reaches env (fun _ _ ↦ True) (Identity.registrations env reqs w) q) :
    q.OneAccountPerMailbox env reqs where
  distinct := (registrations_mailboxes hs hw hq).canonical.distinct
  canonical r hr :=
    have hcanonical := (registrations_mailboxes hs hw hq).canonical r hr
    ⟨hcanonical.fixed, hcanonical.valid⟩
  lookup email _ hr :=
    LoginService.lookup_iff (registrations_mailboxes hs hw hq).canonical email hr
  loser i j hij hsame hj :=
    rejected_of_not_created hq ((registrations_mailboxes hs hw hq).loser hij hsame hj)
  rejects i j hij hsame hj := by
    have hturns : Identity.Reaches env (fun _ _ ↦ True) q
        (Pool.finish (exec env) i (q.rest i) q) :=
      Pool.reaches_finish i (q.rest i) rfl fun _ ↦ trivial
    have hfinish := hq.trans hturns
    have hdone := Pool.rest_finish (exec env) i (q.rest i) q rfl
    -- the other registration has still created its user when this one has finished
    obtain ⟨later, hlog, -⟩ := hturns.log_later (H := fun _ _ _ ↦ True)
      (fun _ _ _ _ _ _ _ ↦ trivial) fun _ _ _ _ _ _ _ _ ↦ trivial
    have hj' : Identity.hasCreatedUser (Pool.finish (exec env) i (q.rest i) q) j = true := by
      unfold Identity.hasCreatedUser at hj ⊢
      rw [hlog, List.any_append, hj, Bool.true_or]
    have hrejected := rejected_of_not_created hfinish
      ((registrations_mailboxes hs hw hfinish).loser hij hsame hj')
    have hresult : (Pool.finish (exec env) i (q.rest i) q).result i =
        some ((q.rest i).run (exec env) q.world).1 := by
      unfold Pool.result
      rw [hdone]
    obtain ⟨e, he⟩ := hrejected.ended _ hresult
    exact ⟨e, by rw [hresult, he]⟩

end Runs

/-- Two registrations of one mailbox. -/
def Sample.twice : Nat → RegisterUserRequest
  | 0 => ⟨"bob@bank.example", "Correct-horse-2", "10.0.0.2", "browser"⟩
  | _ => ⟨"bob@bank.example", "Correct-horse-3", "10.0.0.3", "browser"⟩

/-- Both find the email free, and then both go on to create the user. -/
def Sample.raceToCreate : List (ServerTurn Nat) :=
  [.act 0, .act 1, .act 0, .act 1, .act 0, .act 1, .act 0, .act 1, .act 0, .act 1]

/-- The race for the mailbox of `bob`. -/
theorem one_account_per_mailbox_bob :
    Identity.OneAccountPerMailbox Sample.env Sample.twice
      ((Identity.registrations Sample.env Sample.twice Sample.opened).play (exec Sample.env)
        World.pass Sample.raceToCreate) ∧
    Identity.hasCreatedUser ((Identity.registrations Sample.env Sample.twice Sample.opened).play
      (exec Sample.env) World.pass Sample.raceToCreate) 0 = true :=
  ⟨one_account_per_mailbox Sample.env ⟨fun _ _ ↦ rfl, fun _ ↦ rfl⟩ Sample.twice Sample.opened
    (by
      intro r hr
      rw [List.mem_singleton.mp hr]
      exact ⟨rfl, by decide⟩) _
    (Pool.reaches_play_any _ _), by decide +kernel⟩

end Bankos
