import Bankos.Users.Snapshots
import Mathlib.Data.List.Perm.Subperm

/-!
# Locking out after five wrong passwords

A login reads the failure counter, awaits the password check and writes the counter back as an
absolute value. Among logins to one user that write over what they have read, five wrong
passwords lock the account, and it stays locked.
-/

namespace Bankos

open Js Jwt Effects Storage Prog

variable {ι : Type} {env : Env} {u row row' : UserRow} {s s' : Snapshot}

/-- The login is one to the user `u`: its email is well-formed and the one of `u`. -/
structure LoginRequest.To (env : Env) (r : LoginRequest) (u : UserRow) : Prop where
  isValid : EmailValidator.isValid (EmailValidator.normalize env r.email) = true
  email : EmailValidator.normalize env r.email = u.email

/-- The password of the login is not the one of the user `u`. -/
def LoginRequest.Wrong (env : Env) (r : LoginRequest) (u : UserRow) : Prop :=
  env.argon2Verify u.passwordHash (Argon2PasswordHasher.applyPepper env r.passwordRaw) ≠ some true

instance (env : Env) (r : LoginRequest) (u : UserRow) : Decidable (r.Wrong env u) :=
  inferInstanceAs (Decidable (_ ≠ _))

/-- The stored `row` may be overwritten: after the right password it is not locked, and after a
wrong one the counter is as it was loaded, unless this is the fifth failure anyway. -/
def Snapshot.Uncontested (s : Snapshot) (row : UserRow) : Prop :=
  ∀ loaded ∈ s.loaded,
    (s.valid = some true → row.isLocked = false) ∧
      (s.valid = some false →
        row.isLocked = false ∧ loaded.failedLoginAttempts = row.failedLoginAttempts ∨
          5 ≤ loaded.failedLoginAttempts + 1)

instance (s : Snapshot) (row : UserRow) : Decidable (s.Uncontested row) :=
  inferInstanceAs (Decidable (∀ loaded ∈ s.loaded, (_ → _) ∧ (_ → _)))

/-- No call fails by itself, and a login that is about to update a user finds it uncontested. -/
def AttemptsCounted [DecidableEq ι] (q : Server ι) : ServerTurn ι → Prop
  | .act i => ∀ id ∈ q.updating i, ∀ row ∈ q.world.users.rows, row.id = id →
      (q.snapshot i).Uncontested row
  | .fail _ _ => False
  | .pass _ => True

instance [DecidableEq ι] (q : Server ι) : (t : ServerTurn ι) → Decidable (AttemptsCounted q t)
  | .act i => inferInstanceAs (Decidable (∀ id ∈ q.updating i, ∀ row ∈ q.world.users.rows, _ → _))
  | .fail _ _ => isFalse not_false
  | .pass _ => isTrue trivial

/-! ### One call of a login -/

/-- What a call of a login does to the row of its user and to its own snapshot. -/
inductive LoginStep (row : UserRow) (s : Snapshot) : UserRow → Snapshot → Prop
  | quiet {s' : Snapshot} (hloaded : s'.loaded = s.loaded ∨ s'.loaded = some row)
      (hvalid : ∀ b, s.valid = some b → s'.valid = some b) (hwrote : s'.wrote = s.wrote)
      (hmissed : s'.missed = s.missed) : LoginStep row s row s'
  | write {loaded : UserRow} {data : UserData} (r : LoginRequest) (hloaded : s.loaded = some loaded)
      (hdata : (Request.login r).writes s loaded data) (hfree : s.Uncontested row) :
      LoginStep row s (row.write row.id data) { s with wrote := true }

/-- Every call of a login to the user is such a step. -/
theorem login_step {w : World} {r : LoginRequest} {op : Op} (hrow : row ∈ w.users)
    (hemail : EmailValidator.normalize env r.email = row.email)
    (hid : ∀ loaded, s.loaded = some loaded → loaded.id = row.id)
    (hcall : (Request.login r).mayCall env s op)
    (hfree : op.updatedUser = some row.id → s.Uncontested row) :
    ∃ row' ∈ (exec env w op).2.users, LoginStep row s row' (s.next op (exec env w op).1) := by
  cases op with
  | user o =>
    cases o with
    | findUniqueById id => exact absurd rfl (hcall r)
    | findUniqueByEmail email =>
      have hfind : w.users.find (fun x ↦ decide (x.email = email)) = some row := by
        rw [show email = row.email from (hcall r rfl).trans hemail]
        exact UserTable.find_email hrow
      refine ⟨row, hrow, ?_⟩
      simp only [exec, UserOp.exec, hfind]
      exact .quiet (.inr rfl) (fun _ h ↦ h) rfl rfl
    | count email => exact ⟨row, hrow, .quiet (.inl rfl) (fun _ h ↦ h) rfl rfl⟩
    | create data => exact hcall.elim
    | update id data =>
      obtain ⟨-, loaded, hloaded, rfl, hdata⟩ := hcall
      rw [hid loaded hloaded] at hfree ⊢
      rcases UserOp.exec_update env w.users row.id data with h | ⟨hnone, -⟩
      · refine ⟨row.write row.id data, ?_, ?_⟩
        · simp only [exec, h]
          exact UserTable.mem_write.mpr ⟨row, hrow, rfl⟩
        · simp only [exec, h]
          exact .write r hloaded hdata (hfree rfl)
      · exact absurd rfl (hnone row hrow)
  | hasher o =>
    refine ⟨row, hrow, ?_⟩
    cases o with
    | hash password => exact .quiet (.inl rfl) (fun _ h ↦ h) rfl rfl
    | verify pchstr plaintext =>
      have hvalid : s.valid = none := hcall
      simp only [exec]
      cases (HasherOp.exec env w.draws (.verify pchstr plaintext)).1 with
      | ok b => exact .quiet (.inl rfl) (by simp [hvalid]) rfl rfl
      | error e => exact .quiet (.inl rfl) (by simp [hvalid]) rfl rfl
  | jwtSign c =>
    refine ⟨row, ?_, .quiet (.inl rfl) (fun _ h ↦ h) rfl rfl⟩
    rw [exec_users env w (by simp [Op.area])]
    exact hrow
  | _ => exact ⟨row, hrow, .quiet (.inl rfl) (fun _ h ↦ h) rfl rfl⟩

/-- A login does not change whose row it is. -/
theorem LoginStep.keys (h : LoginStep row s row' s') :
    row'.id = row.id ∧ row'.email = row.email := by
  cases h with
  | quiet => exact ⟨rfl, rfl⟩
  | write => exact UserRow.write_keys _ _ _

/-- A login has loaded what it had loaded before, or the row. -/
theorem LoginStep.loaded (h : LoginStep row s row' s') :
    s'.loaded = s.loaded ∨ s'.loaded = some row := by
  cases h with
  | quiet hloaded => exact hloaded
  | write => exact .inl rfl

/-- No call on users goes wrong. -/
theorem LoginStep.missed (h : LoginStep row s row' s') : s'.missed = s.missed := by
  cases h with
  | quiet _ _ _ hmissed => exact hmissed
  | write => rfl

/-- An accepted password stays accepted. -/
theorem LoginStep.valid (h : LoginStep row s row' s') {b : Bool} (hb : s.valid = some b) :
    s'.valid = some b := by
  cases h with
  | quiet _ hvalid => exact hvalid b hb
  | write => exact hb

/-- No login unlocks. -/
theorem LoginStep.isLocked (h : LoginStep row s row' s') (hlocked : row.isLocked = true) :
    row'.isLocked = true := by
  cases h with
  | quiet => exact hlocked
  | @write loaded data r hloaded hdata hfree =>
    obtain ⟨hright, hwrong⟩ := hfree loaded hloaded
    obtain ⟨-, ⟨hvalid, rfl⟩ | ⟨hvalid, rfl⟩⟩ := hdata
    · rw [hright hvalid] at hlocked
      cases hlocked
    · rcases hwrong hvalid with ⟨h, -⟩ | h
      · rw [h] at hlocked
        cases hlocked
      · simp [UserRow.write, h]

/-- A wrong password is counted, or the account is locked. -/
theorem LoginStep.counts (h : LoginStep row s row' s') (hvalid : s'.valid ≠ some true) :
    row'.isLocked = true ∨
      row'.isLocked = row.isLocked ∧
        (s'.wrote = s.wrote ∧ row'.failedLoginAttempts = row.failedLoginAttempts ∨
          row'.failedLoginAttempts = row.failedLoginAttempts + 1 ∧
            row'.failedLoginAttempts < 5) := by
  cases h with
  | quiet _ _ hwrote => exact .inr ⟨rfl, .inl ⟨hwrote, rfl⟩⟩
  | @write loaded data r hloaded hdata hfree =>
    obtain ⟨-, hwrong⟩ := hfree loaded hloaded
    obtain ⟨-, ⟨h, rfl⟩ | ⟨h, rfl⟩⟩ := hdata
    · exact absurd h hvalid
    · by_cases hfive : 5 ≤ loaded.failedLoginAttempts + 1
      · left
        simp [UserRow.write, hfive]
      · right
        obtain ⟨hunlocked, hcount⟩ := (hwrong h).resolve_right hfive
        simp only [UserRow.write, if_true, hunlocked, hcount] at hfive ⊢
        exact ⟨by simp [hfive], .inr ⟨trivial, by omega⟩⟩

/-! ### Runs of logins to one user -/

/-- The stored row is the one of the user, and every login has loaded this user. -/
structure OneUser (u row : UserRow) (snaps : ι → Snapshot) : Prop where
  id : row.id = u.id
  email : row.email = u.email
  loaded : ∀ i loaded, (snaps i).loaded = some loaded → loaded.id = u.id

variable [DecidableEq ι] {snaps : ι → Snapshot} {i : ι}

/-- A property of the loaded rows that the stored row has as well is kept by a step. -/
theorem LoginStep.loaded_update (h : LoginStep row (snaps i) row' s') {P : ι → UserRow → Prop}
    (hrow : P i row) (hP : ∀ j loaded, (snaps j).loaded = some loaded → P j loaded) :
    ∀ j loaded, (Function.update snaps i s' j).loaded = some loaded → P j loaded := by
  intro j loaded hloaded
  by_cases hj : j = i
  · subst hj
    rw [Function.update_self] at hloaded
    rcases h.loaded with heq | heq
    · exact hP j loaded (heq.symm.trans hloaded)
    · rw [heq, Option.some.injEq] at hloaded
      rw [← hloaded]
      exact hrow
  · rw [Function.update_of_ne hj] at hloaded
    exact hP j loaded hloaded

/-- A step stays with the user. -/
theorem OneUser.step (h : OneUser u row snaps) (hstep : LoginStep row (snaps i) row' s') :
    OneUser u row' (Function.update snaps i s') where
  id := hstep.keys.1.trans h.id
  email := hstep.keys.2.trans h.email
  loaded := hstep.loaded_update (P := fun _ loaded ↦ loaded.id = u.id) h.id h.loaded

/-- The rule for runs of logins: what every step keeps holds in every pool reached. -/
theorem logins_invariant {logins : ι → LoginRequest} {w : World} {p q : Server ι}
    (hto : ∀ i, (logins i).To env u)
    (hp : Server.Reaches env AttemptsCounted
      (Server.start env PrismaUserRepository (fun i ↦ .login (logins i)) w) p)
    (hq : Server.Reaches env AttemptsCounted p q) {K : UserRow → (ι → Snapshot) → Prop}
    (h₀ : ∃ row ∈ p.world.users, OneUser u row p.snapshot ∧ K row p.snapshot)
    (hstep : ∀ row snaps i row' s', K row snaps → LoginStep row (snaps i) row' s' →
      K row' (Function.update snaps i s')) :
    ∃ row ∈ q.world.users, OneUser u row q.snapshot ∧ K row q.snapshot := by
  apply hq.invariant (J := fun q : Server ι ↦
    ∃ row ∈ q.world.users, OneUser u row q.snapshot ∧ K row q.snapshot)
  · exact h₀
  · rintro (q : Server ι) i op next hreach ⟨row, hrow, hone, hK⟩ hfree hi
    have hcall : (Request.login (logins i)).mayCall env (q.snapshot i) op :=
      (hp.trans hreach).allows
        (serve_login_snapshots PrismaUserRepository.proper env (hto i).isValid) hi
    obtain ⟨row', hrow', hs⟩ := login_step hrow ((hto i).email.trans hone.email.symm)
      (fun loaded h ↦ (hone.loaded i loaded h).trans hone.id.symm) hcall fun hop ↦
        hfree row.id (by rw [Server.updating, Pool.pending_of_rest hi]; exact hop) row hrow rfl
    rw [Server.snapshot_record]
    exact ⟨row', hrow', hone.step hs, hstep row q.snapshot i row' _ hK hs⟩
  · intro q i e op next _ _ hfail _
    exact hfail.elim
  · intro q t hJ _
    exact hJ

/-! ### Counting -/

/-- The stored row counts every login that has written, or it is locked. -/
structure Counted (row : UserRow) (snaps : ι → Snapshot) : Prop where
  missed : ∀ i, (snaps i).missed = false
  loaded : ∀ i loaded, (snaps i).loaded = some loaded →
    loaded.isLocked = true → row.isLocked = true
  count : row.isLocked = true ∨ ∃ writers : List ι,
    (∀ i, (snaps i).wrote = true → i ∈ writers) ∧
      row.failedLoginAttempts = writers.length ∧ writers.length < 5

/-- As long as no password is accepted, a step keeps the count. -/
theorem Counted.step (h : Counted row snaps) (hstep : LoginStep row (snaps i) row' s')
    (hvalid : s'.valid ≠ some true) : Counted row' (Function.update snaps i s') where
  missed j := by
    by_cases hj : j = i
    · subst hj
      rw [Function.update_self, hstep.missed]
      exact h.missed j
    · rw [Function.update_of_ne hj]
      exact h.missed j
  loaded := by
    apply hstep.loaded_update (P := fun _ loaded ↦ loaded.isLocked = true → row'.isLocked = true)
    · exact hstep.isLocked
    · intro j loaded hloaded hlocked
      exact hstep.isLocked (h.loaded j loaded hloaded hlocked)
  count := by
    rcases h.count with hlocked | ⟨writers, hwriters, hcount, hfew⟩
    · exact .inl (hstep.isLocked hlocked)
    · rcases hstep.counts hvalid with hlocked | ⟨hflag, ⟨hwrote, hsame⟩ | ⟨hmore, hfive⟩⟩
      · exact .inl hlocked
      · refine .inr ⟨writers, fun j hj ↦ ?_, hsame.trans hcount, hfew⟩
        by_cases hji : j = i
        · subst hji
          rw [Function.update_self, hwrote] at hj
          exact hwriters j hj
        · rw [Function.update_of_ne hji] at hj
          exact hwriters j hj
      · -- one more writer, and still fewer than five
        refine .inr ⟨i :: writers, fun j hj ↦ ?_, ?_, ?_⟩
        · by_cases hji : j = i
          · rw [hji]
            exact List.mem_cons_self
          · rw [Function.update_of_ne hji] at hj
            exact List.mem_cons_of_mem _ (hwriters j hj)
        · rw [hmore, hcount, List.length_cons]
          push_cast
          rfl
        · rw [List.length_cons]
          omega

/-- In the first pool nothing has been counted. -/
theorem Counted.start {logins : ι → LoginRequest} {w : World} (hzero : u.failedLoginAttempts = 0) :
    Counted u (Server.start env PrismaUserRepository (fun i ↦ .login (logins i)) w).snapshot where
  missed _ := rfl
  loaded _ _ h := nomatch h
  count := .inr ⟨[], fun _ h ↦ (nomatch h), hzero, Nat.succ_pos 4⟩

/-- The password check of run `i` has answered that the password is right. -/
def Server.PasswordVerified (q : Server ι) (i : ι) : Prop := (q.snapshot i).valid = some true

/-- Run `i` has ended. -/
def Server.Completed {ι : Type} (q : Server ι) (i : ι) : Prop := (q.result i).isSome = true

omit [DecidableEq ι] in
/-- A run that has completed has a result. -/
theorem Server.Completed.rest {q : Server ι} {i : ι} (h : q.Completed i) :
    ∃ result, q.rest i = .done result := by
  unfold Server.Completed Pool.result at h
  cases hi : q.rest i with
  | done result => exact ⟨result, rfl⟩
  | call op next =>
    rw [hi] at h
    cases h

/-- The run: until a password is accepted, every login that has written is counted. -/
theorem attempts_counted {logins : ι → LoginRequest} {w : World} {q : Server ι} (hu : u ∈ w.users)
    (hzero : u.failedLoginAttempts = 0) (hto : ∀ i, (logins i).To env u)
    (hq : Server.Reaches env AttemptsCounted
      (Server.start env PrismaUserRepository (fun i ↦ .login (logins i)) w) q)
    (hnone : ∀ i, ¬ q.PasswordVerified i) :
    ∃ row ∈ q.world.users, OneUser u row q.snapshot ∧ Counted row q.snapshot := by
  obtain ⟨row, hrow, hone, hcounted⟩ := logins_invariant hto .refl hq
    (K := fun row snaps ↦ (∀ i, (snaps i).valid ≠ some true) → Counted row snaps)
    ⟨u, hu, ⟨rfl, rfl, fun _ _ h ↦ nomatch h⟩, fun _ ↦ Counted.start hzero⟩ (by
      intro row snaps i row' s' hK hstep hnone
      have hself : s'.valid ≠ some true := by simpa using hnone i
      apply (hK fun j hj ↦ ?_).step hstep hself
      by_cases hji : j = i
      · subst hji
        exact hself (hstep.valid hj)
      · apply hnone j
        rw [Function.update_of_ne hji]
        exact hj)
  exact ⟨row, hrow, hone, hcounted hnone⟩

/-- The run after the lock: it stays, and logins that start later find it. -/
theorem stays_locked {logins : ι → LoginRequest} {w : World} {p q : Server ι}
    (hto : ∀ i, (logins i).To env u)
    (hp : Server.Reaches env AttemptsCounted
      (Server.start env PrismaUserRepository (fun i ↦ .login (logins i)) w) p)
    (hq : Server.Reaches env AttemptsCounted p q)
    (h₀ : ∃ row ∈ p.world.users, OneUser u row p.snapshot ∧ row.isLocked = true) {i : ι}
    (hi : p.NotStarted i) {loaded : UserRow} (hloaded : (q.snapshot i).loaded = some loaded) :
    loaded.isLocked = true := by
  obtain ⟨row, hrow, hone, hlocked⟩ := h₀
  obtain ⟨-, -, -, -, h⟩ := logins_invariant hto hp hq
    (K := fun row snaps ↦ row.isLocked = true ∧ ∀ i loaded, (snaps i).loaded = some loaded →
      p.NotStarted i → loaded.isLocked = true)
    ⟨row, hrow, hone, hlocked, fun i loaded hl hn ↦ by
      rw [Server.snapshot, Pool.phase_of_notStarted _ hn] at hl
      cases hl⟩ (by
      rintro row snaps i row' s' ⟨hlocked, hlater⟩ hstep
      constructor
      · exact hstep.isLocked hlocked
      · exact hstep.loaded_update (P := fun i loaded ↦ p.NotStarted i → loaded.isLocked = true)
          (fun _ ↦ hlocked) hlater)
  exact h i loaded hloaded hi

/-- Logins to one user without failures: once five of them with a wrong password have completed
and none has verified the right one, the user is locked, and no login that starts later returns
tokens. -/
theorem lockout_holds (env : Env) (logins : ι → LoginRequest) (u : UserRow) (w : World)
    (hu : u ∈ w.users) (hzero : u.failedLoginAttempts = 0) (hto : ∀ i, (logins i).To env u)
    (q : Server ι)
    (hq : Server.Reaches env AttemptsCounted
      (Server.start env PrismaUserRepository (fun i ↦ .login (logins i)) w) q)
    (failed : List ι) (hnodup : failed.Nodup) (hfive : 5 ≤ failed.length)
    (hfailed : ∀ i ∈ failed, (logins i).Wrong env u ∧ q.Completed i)
    (hnone : ∀ i, ¬ q.PasswordVerified i) :
    (∃ row ∈ q.world.users, row.id = u.id ∧ row.isLocked = true) ∧
      ∀ q', Server.Reaches env AttemptsCounted q q' → ∀ i, q.NotStarted i →
        ∀ tokens, ¬ q'.Returned i (.tokens tokens) := by
  have hpost : ∀ {q} i result, Server.Reaches env AttemptsCounted
      (Server.start env PrismaUserRepository (fun i ↦ .login (logins i)) w) q →
      q.rest i = .done result → (q.snapshot i).Settled result :=
    fun i _ hq hi ↦ hq.post_of_done
      (serve_login_snapshots PrismaUserRepository.proper env (hto i).isValid) hi
  obtain ⟨row, hrow, hone, hcounted⟩ := attempts_counted hu hzero hto hq hnone
  have hlock : row.isLocked = true := by
    by_contra hopen
    obtain ⟨writers, hwriters, -, hfew⟩ := hcounted.count.resolve_left hopen
    have hsub : failed ⊆ writers := by
      intro i hi
      obtain ⟨result, hrest⟩ := (hfailed i hi).2.rest
      rcases (hpost i result hq hrest).counted with hmissed | ⟨loaded, hloaded, hl | hwrote⟩
      · rw [hcounted.missed i] at hmissed
        cases hmissed
      · exact absurd (hcounted.loaded i loaded hloaded hl) hopen
      · exact hwriters i hwrote
    have hle : failed.length ≤ writers.length := (List.subperm_of_subset hnodup hsub).length_le
    omega
  constructor
  · exact ⟨row, hrow, hone.id, hlock⟩
  · intro q' hq' i hi tokens hreturned
    obtain ⟨loaded, hloaded, hopen⟩ :=
      (hpost i _ (hq.trans hq') hreturned).admitted _ rfl
    rw [stays_locked hto hq hq' ⟨row, hrow, hone, hlock⟩ hi hloaded] at hopen
    cases hopen

/-- Five logins of `alice` with a wrong password, and one with the right password. -/
def Sample.logins : Fin 6 → LoginRequest :=
  fun i ↦ if i = Fin.last 5 then login else { login with passwordRaw := "Wrong-horse-1" }

/-- The five logins with a wrong password. -/
def Sample.wrongLogins : List (Fin 6) := (List.finRange 6).take 5

/-- The logins are to `alice`. -/
theorem Sample.logins_to (i : Fin 6) : (logins i).To Sample.env alice := by
  constructor
  · revert i
    decide +kernel
  · revert i
    decide +kernel

instance (q : Server ι) (i : ι) : Decidable (q.PasswordVerified i) :=
  inferInstanceAs (Decidable (_ = _))

instance {ι : Type} (q : Server ι) (i : ι) : Decidable (q.Completed i) :=
  inferInstanceAs (Decidable (_ = _))

/-- The server of these logins after the given turns. -/
def Sample.lockout (turns : List (Fin 6)) : Server (Fin 6) :=
  (Server.start Sample.env PrismaUserRepository (fun i ↦ .login (logins i)) registered).play
    (exec Sample.env) World.pass (turns.map .act)

/-- One after the other, the five wrong passwords lock the account. -/
theorem lockout_holds_sequential :
    let q := Sample.lockout (Sample.wrongLogins.flatMap fun i ↦ [i, i, i])
    (∃ row ∈ q.world.users, row.id = Sample.alice.id ∧ row.isLocked = true) ∧
      ∀ q', Server.Reaches Sample.env AttemptsCounted q q' → ∀ i, q.NotStarted i →
        ∀ tokens, ¬ q'.Returned i (.tokens tokens) :=
  lockout_holds Sample.env Sample.logins Sample.alice Sample.registered
    (List.mem_singleton.mpr rfl) rfl Sample.logins_to _
    (Pool.reaches_play _ (by decide +kernel)) Sample.wrongLogins (by decide) (by decide)
    (by decide +kernel) (by decide +kernel)

/-- Side by side they count as one failure: all of them read the counter before any writes. -/
theorem lockout_fails :
    ¬ ∀ q, Server.Reaches Sample.env noFault (Server.start Sample.env PrismaUserRepository
        (fun i ↦ .login (Sample.logins i)) Sample.registered) q →
      (∀ i ∈ Sample.wrongLogins, (Sample.logins i).Wrong Sample.env Sample.alice ∧ q.Completed i) →
      (∀ i, ¬ q.PasswordVerified i) →
      ∃ row ∈ q.world.users.rows, row.id = Sample.alice.id ∧ row.isLocked = true := by
  intro h
  have hlocked := h
    (Sample.lockout (Sample.wrongLogins ++ Sample.wrongLogins ++ Sample.wrongLogins))
    (Pool.reaches_play _ (by decide +kernel)) (by decide +kernel) (by decide +kernel)
  revert hlocked
  decide +kernel

end Bankos
