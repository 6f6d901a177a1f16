import Bankos.Users.Enumeration
import Bankos.Users.Policy

/-!
# A reset that takes its time

A password reset over a repository whose `save` persists the user, with time passing between its
calls. It looks at the end of its token twice, and between the two it hashes the new password and
writes the user.
-/

namespace Bankos

open Js Jwt Effects Storage Prog DatabaseMapper

variable {env : Env} {w : World} {pauses : Nat → Nat}

/-! ### Calls that take their time -/

/-- A call is answered by the world as it is after the pause. -/
theorem run_paced (op : Op) (w : World) (pauses : Nat → Nat) :
    (request op).run (execPaced env) (w, pauses) =
      ((exec env (w.pass (pauses 0)) op).1, (exec env (w.pass (pauses 0)) op).2,
        fun n ↦ pauses (n + 1)) := rfl

/-- A user is looked up by its id, if that is a UUID. -/
theorem run_paced_findUserById (v : Value) :
    (PrismaUserRepository.findById v).run (execPaced env) (w, pauses) =
      (((PrismaUserRepository.findById v).run (exec env) w).1, w.pass (pauses 0),
        fun n ↦ pauses (n + 1)) := by
  rw [run_findUserById]
  unfold PrismaUserRepository.findById
  rw [run_bind, run_paced]
  simp only [exec, UserOp.exec]
  cases uuidArgument env v <;> rfl

/-! ### The two parts of a reset -/

/-- What a reset finds: its token, which is unused and ends no earlier than `due`, and the user of
the token. -/
structure ResetPasswordRequest.Finds (env : Env) (r : ResetPasswordRequest) (w : World) (due : Nat)
    (t : OneTimeTokenRow) (u : UserRow) : Prop where
  token : t ∈ w.passwordResetTokens
  hash : t.token = env.sha256 r.token
  unused : t.isUsed = false
  due : due ≤ t.expiresAt
  user : u ∈ w.users
  owner : env.parseUuid t.userId = some u.id

/-- The token as an entity. -/
def OneTimeTokenRow.resetToken (t : OneTimeTokenRow) : OneTimeToken :=
  PasswordResetToken.construct t.token t.userId t.expiresAt t.isUsed

namespace ResetPasswordService

variable {r : ResetPasswordRequest} {t : OneTimeTokenRow} {u : UserRow}

/-- A token is found by its hash. -/
theorem find_token (h : t ∈ w.passwordResetTokens) (hash : t.token = env.sha256 r.token) :
    (w.passwordResetTokens.find fun s ↦ decide (s.token = env.sha256 r.token)) = some t := by
  apply Table.find_of_mem h (decide_eq_true hash)
  intro s hs
  have hs : s.token = env.sha256 r.token := by simpa using hs
  simp [OneTimeTokenRow.clash, hs, hash]

/-- A reset that finds its token and its user goes on to change the password, three calls later. -/
theorem goesOn_changePassword (h : r.Finds env w (w.now + pauses 0 + pauses 1) t u) :
    GoesOn (execPaced env) (Op.within [.resetLookup, .userRead])
      (execute env SavingUserRepository r) (w, pauses)
      (changePassword env SavingUserRepository r (env.sha256 r.token) t.resetToken
        (toDomainUser u))
      (((w.pass (pauses 0)).pass (pauses 1)).pass (pauses 2), fun n ↦ pauses (n + 3)) := by
  have hlookup : (PrismaPasswordResetTokenRepository.findByToken (env.sha256 r.token)).run
      (execPaced env) (w, pauses) =
        (.ok ((w.passwordResetTokens.find fun s ↦ decide (s.token = env.sha256 r.token)).map
          OneTimeTokenRow.resetToken), w.pass (pauses 0), fun n ↦ pauses (n + 1)) := rfl
  rw [find_token h.token h.hash] at hlookup
  have hnow : SystemClock.now.run (execPaced env) (w.pass (pauses 0), fun n ↦ pauses (n + 1)) =
      (.ok (w.now + pauses 0 + pauses 1), (w.pass (pauses 0)).pass (pauses 1),
        fun n ↦ pauses (n + 2)) := rfl
  have huser : (PrismaUserRepository.findById (.str t.userId)).run (execPaced env)
      ((w.pass (pauses 0)).pass (pauses 1), fun n ↦ pauses (n + 2)) =
        (.ok (some (toDomainUser u)), ((w.pass (pauses 0)).pass (pauses 1)).pass (pauses 2),
          fun n ↦ pauses (n + 3)) := by
    have huuid : uuidArgument env (.str t.userId) = .ok u.id := by
      simp only [uuidArgument, h.owner]
    rw [run_paced_findUserById, run_findUserById, huuid]
    dsimp only
    rw [show ((w.pass (pauses 0)).pass (pauses 1)).users = w.users from rfl,
      UserTable.find_id h.user]
    rfl
  have hunused : t.resetToken.isUsed = false := h.unused
  have hexpired : t.resetToken.isExpired (w.now + pauses 0 + pauses 1) = false :=
    decide_eq_false (Nat.not_lt.mpr h.due)
  unfold execute
  apply (uses_wider (PrismaPasswordResetTokenRepository.findByToken_uses _) (by simp)).goesOn
    hlookup |>.trans
  dsimp only [Option.map]
  unfold redeem
  apply ((uses_within SystemClock.now_uses _).goesOn hnow).trans
  rw [if_neg (by simp [hexpired]), if_neg (by simp [hunused])]
  exact (uses_wider (SavingUserRepository.proper.findById_uses _) (by simp)).goesOn huser

/-- Any other reset is refused, and has changed nothing. -/
theorem run_execute_unfound
    (h : ∀ t u, ¬ r.Finds env w (w.now + pauses 0 + pauses 1) t u) :
    ∃ e ms rest, (execute env SavingUserRepository r).run (execPaced env) (w, pauses) =
      (.error e, w.pass ms, rest) := by
  have hlookup : (PrismaPasswordResetTokenRepository.findByToken (env.sha256 r.token)).run
      (execPaced env) (w, pauses) =
        (.ok ((w.passwordResetTokens.find fun s ↦ decide (s.token = env.sha256 r.token)).map
          OneTimeTokenRow.resetToken), w.pass (pauses 0), fun n ↦ pauses (n + 1)) := rfl
  have hnow : SystemClock.now.run (execPaced env) (w.pass (pauses 0), fun n ↦ pauses (n + 1)) =
      (.ok (w.now + pauses 0 + pauses 1), w.pass (pauses 0 + pauses 1),
        fun n ↦ pauses (n + 2)) := by
    rw [← World.pass_pass]
    rfl
  unfold execute SecureRandomGenerator.hashString
  rw [run_bind, hlookup]
  cases hfind : w.passwordResetTokens.find fun s ↦ decide (s.token = env.sha256 r.token) with
  | none => exact ⟨_, _, _, rfl⟩
  | some t =>
    obtain ⟨ht, hhash⟩ := Table.find_some hfind
    dsimp only [Option.map]
    unfold redeem
    rw [run_bind, hnow]
    dsimp only
    split
    · exact ⟨_, _, _, rfl⟩
    · next hexpired =>
      have hdue : w.now + pauses 0 + pauses 1 ≤ t.expiresAt :=
        Nat.not_lt.mp fun hlt ↦ hexpired (decide_eq_true hlt)
      split
      · exact ⟨_, _, _, rfl⟩
      · next hused =>
        have hunused : t.isUsed = false := Bool.eq_false_iff.mpr hused
        rw [SavingUserRepository.proper.findById, run_bind, run_paced_findUserById,
          run_findUserById, World.pass_pass]
        cases howner : env.parseUuid t.userId with
        | none =>
          have huuid : uuidArgument env (.str t.resetToken.userId) =
              .error (.prismaError "P2023") := by
            simp only [uuidArgument, show t.resetToken.userId = t.userId from rfl, howner]
          rw [huuid]
          exact ⟨_, _, _, rfl⟩
        | some id =>
          have huuid : uuidArgument env (.str t.resetToken.userId) = .ok id := by
            simp only [uuidArgument, show t.resetToken.userId = t.userId from rfl, howner]
          rw [huuid]
          dsimp only
          cases huser : (w.pass (pauses 0 + pauses 1)).users.find fun u ↦ decide (u.id = id) with
          | none => exact ⟨_, _, _, rfl⟩
          | some u =>
            obtain ⟨hu, hid⟩ := Table.find_some huser
            refine absurd ⟨ht, of_decide_eq_true hhash, hunused, hdue, hu, ?_⟩ (h t u)
            rw [howner, of_decide_eq_true hid]

/-! ### Changing the password -/

/-- What is left to do once the user is saved, `ResetPasswordService.ts:55–82`. -/
def finish (r : ResetPasswordRequest) (hashedToken : Text) (resetToken : OneTimeToken)
    (user : User) : Program Unit := do
  let now ← SystemClock.now
  let _ ← .done (PasswordResetToken.markAsUsed resetToken now)
  PrismaPasswordResetTokenRepository.delete hashedToken
  let activeSessions ← revokeSessions user
  dispatchEvents r user activeSessions

/-- The new password is hashed with the next salt. -/
theorem run_paced_newHash :
    (Argon2PasswordHasher.hash env r.newPasswordRaw).run (execPaced env) (w, pauses) =
      (.ok (newHash env r w), { w.pass (pauses 0) with draws := w.draws + 1 },
        fun n ↦ pauses (n + 1)) := rfl

/-- The entity refuses the hash that it has. -/
theorem changePassword_same (hsame : u.passwordHash = newHash env r w) :
    (toDomainUser u).changePassword (newHash env r w) =
      .error (.invalidStateError "New password must be different from the old password") := by
  unfold User.changePassword
  exact if_pos hsame

/-- The entity takes a hash that differs from the one that it has. -/
theorem changePassword_other (hne : u.passwordHash ≠ newHash env r w) :
    (toDomainUser u).changePassword (newHash env r w) = .ok (changedUser env r w u) := by
  unfold User.changePassword
  exact if_neg hne

/-- A new hash that is the old one is refused. -/
theorem run_changePassword_same (pauses : Nat → Nat)
    (hsame : u.passwordHash = newHash env r w) (hashedToken : Text) (resetToken : OneTimeToken) :
    (changePassword env SavingUserRepository r hashedToken resetToken (toDomainUser u)).run
        (execPaced env) (w, pauses) =
      (.error (.invalidStateError "New password must be different from the old password"),
        { w.pass (pauses 0) with draws := w.draws + 1 }, fun n ↦ pauses (n + 1)) := by
  unfold changePassword
  dsimp only
  rw [run_bind, run_paced_newHash]
  dsimp only
  rw [changePassword_same hsame]
  rfl

/-- The world after the user has been saved with the new password. -/
def savedWorld (env : Env) (r : ResetPasswordRequest) (w : World) (pauses : Nat → Nat)
    (u : UserRow) : World :=
  { w with
    users := w.users.write u.id (PrismaUserRepository.updateData (changedUser env r w u))
    now := w.now + pauses 0 + pauses 1
    draws := w.draws + 1 }

/-- Any other hash is saved. -/
theorem goesOn_finish (hu : u ∈ w.users) (hne : u.passwordHash ≠ newHash env r w)
    (hashedToken : Text) (resetToken : OneTimeToken) :
    GoesOn (execPaced env) (fun _ ↦ True)
      (changePassword env SavingUserRepository r hashedToken resetToken (toDomainUser u))
      (w, pauses) (finish r hashedToken resetToken (changedUser env r w u))
      (savedWorld env r w pauses u, fun n ↦ pauses (n + 2)) := by
  have hsave : (PrismaUserRepository.update (changedUser env r w u)).run (execPaced env)
      ({ w.pass (pauses 0) with draws := w.draws + 1 }, fun n ↦ pauses (n + 1)) =
        (.ok (), savedWorld env r w pauses u, fun n ↦ pauses (n + 2)) := by
    have hwrite := run_update env (({ w.pass (pauses 0) with draws := w.draws + 1 } : World).pass
      (pauses 1)) hu (show u.id = (changedUser env r w u).id from rfl)
    unfold PrismaUserRepository.update at hwrite ⊢
    rw [run_request] at hwrite
    rw [run_paced]
    dsimp only
    rw [hwrite]
    rfl
  unfold changePassword
  dsimp only
  apply ((Argon2PasswordHasher.hash_uses env _).mono fun _ _ ↦ trivial).goesOn
    run_paced_newHash |>.trans
  rw [changePassword_other hne, done_ok_bind]
  exact ((SavingUserRepository.proper.update_uses _).mono fun _ _ ↦ trivial).goesOn hsave

/-- The end of the token is checked once more, and a reset that comes too late leaves the user
saved. -/
theorem run_finish_expired {resetToken : OneTimeToken} (hunused : resetToken.isUsed = false)
    (h : resetToken.expiresAt < w.now + pauses 0) (hashedToken : Text) (user : User) :
    (finish r hashedToken resetToken user).run (execPaced env) (w, pauses) =
      (.error (.invalidStateError "Token is expired"), w.pass (pauses 0),
        fun n ↦ pauses (n + 1)) := by
  have hmark : PasswordResetToken.markAsUsed resetToken (w.now + pauses 0) =
      .error (.invalidStateError "Token is expired") := by
    unfold PasswordResetToken.markAsUsed OneTimeToken.markAsUsed OneTimeToken.isExpired
    rw [if_neg (by simp [hunused]), if_pos (decide_eq_true h)]
  have hnow : SystemClock.now.run (execPaced env) (w, pauses) =
      (.ok (w.now + pauses 0), w.pass (pauses 0), fun n ↦ pauses (n + 1)) := rfl
  unfold finish
  rw [run_bind, hnow]
  dsimp only
  rw [hmark]
  rfl

/-- The sessions that are found to be active are not revoked. -/
def FindsActive : (op : Op) → Except JsError op.Reply → Prop
  | .session (.findManyActive _), .ok rows => ∀ s ∈ rows, s.isRevoked = false
  | _, _ => True

/-- The world finds such sessions. -/
theorem findsActive_exec (w : World) (op : Op) : FindsActive op (exec env w op).1 := by
  have hfilter : ∀ (p : DeviceSessionRow → Bool), ∀ s ∈ w.deviceSessions.rows.filter fun s ↦
      p s && s.active w.now, s.isRevoked = false := by
    intro p s hs
    have hactive := (List.mem_filter.mp hs).2
    simp only [Bool.and_eq_true, DeviceSessionRow.active, Bool.not_eq_true'] at hactive
    exact hactive.2.1
  cases op with
  | session o =>
    cases o with
    | findManyActive userId =>
      cases userId with
      | undefined => exact fun s hs ↦ hfilter (fun _ ↦ true) s (by simpa using hs)
      | str id =>
        simp only [exec, SessionOp.exec]
        cases uuidArgument env (.str id) with
        | error e => exact trivial
        | ok id => exact hfilter fun s ↦ decide (s.userId = id)
      | _ => exact trivial
    | _ => exact trivial
  | _ => exact trivial

/-- A program that returns whenever no call fails. -/
theorem returns_finding {α : Type} {p : Program α} (hp : p.Returns Answered) :
    p.Returns fun op r ↦ Answered op r ∧ FindsActive op r := Ends.narrow hp fun _ _ h ↦ h.1

/-- Revoking the sessions of a user returns. -/
theorem revokeSessions_returns (user : User) :
    (revokeSessions user).Returns fun op r ↦ Answered op r ∧ FindsActive op r := by
  unfold revokeSessions PrismaDeviceSessionRepository.findActiveSessions
  apply ends_bind
  intro reply hreply
  cases reply with
  | error e =>
    rcases hreply.1 with hok | hcheck
    · cases hok
    · cases hcheck
  | ok rows =>
    show Returns _ (each (rows.map toDomainDeviceSession) _)
    apply returns_each
    intro session hsession
    obtain ⟨row, hrow, rfl⟩ := List.mem_map.mp hsession
    rw [DeviceSessionRow.revoke_toDomain (hreply.2 row hrow), done_ok_bind]
    exact (returns_finding (request_returns rfl)).bind fun _ ↦ returns_pure _

/-- A reset that is in time the second time as well returns. -/
theorem run_finish_returns {resetToken : OneTimeToken} (hunused : resetToken.isUsed = false)
    (h : w.now + pauses 0 ≤ resetToken.expiresAt) {hashedToken : Text} {user : User}
    (hanswered : (finish r hashedToken resetToken user).Answers (execPaced env) Answered
      (w, pauses)) :
    ∃ s, (finish r hashedToken resetToken user).run (execPaced env) (w, pauses) = (.ok (), s) := by
  obtain ⟨marked, hmark⟩ :
      ∃ marked, PasswordResetToken.markAsUsed resetToken (w.now + pauses 0) = .ok marked := by
    unfold PasswordResetToken.markAsUsed OneTimeToken.markAsUsed OneTimeToken.isExpired
    rw [if_neg (by simp [hunused]), if_neg (by simpa using h)]
    exact ⟨_, rfl⟩
  have hnow : SystemClock.now.run (execPaced env) (w, pauses) =
      (.ok (w.now + pauses 0), w.pass (pauses 0), fun n ↦ pauses (n + 1)) := rfl
  unfold finish at hanswered ⊢
  have hrest := hanswered.after hnow
  rw [run_bind, hnow]
  dsimp only
  rw [hmark, done_ok_bind] at hrest ⊢
  -- nothing that is left throws as long as no call fails
  have hreturns : (do
      PrismaPasswordResetTokenRepository.delete hashedToken
      let activeSessions ← revokeSessions user
      dispatchEvents r user activeSessions : Program Unit).Returns
        fun op r ↦ Answered op r ∧ FindsActive op r := by
    apply (returns_tryCatch fun _ ↦ returns_pure ()).bind
    intro _
    apply (revokeSessions_returns user).bind
    intro activeSessions
    apply (returns_finding (dispatch_returns _)).bind
    intro _
    apply (returns_each fun session _ ↦ returns_finding (dispatch_returns _)).bind
    exact fun _ ↦ returns_pure ()
  obtain ⟨⟨⟩, hreturned⟩ := hreturns.run (hrest.and
    (answers_of_forall (fun s op ↦ findsActive_exec (s.1.pass (s.2 0)) op) _ _))
  exact ⟨_, Prod.ext hreturned rfl⟩

end ResetPasswordService

/-! ### Resets that fail -/

/-- The stored hashes, the sessions and the reset tokens are as they were. -/
structure World.SameCredentials (w w' : World) : Prop where
  hashes : ∀ u ∈ w.users, ∃ u' ∈ w'.users, u'.id = u.id ∧ u'.passwordHash = u.passwordHash
  deviceSessions : w'.deviceSessions = w.deviceSessions
  passwordResetTokens : w'.passwordResetTokens = w.passwordResetTokens

/-- A reset that throws leaves the stored hashes, the sessions and the reset tokens. -/
def FailsCleanly (env : Env) (r : ResetPasswordRequest) (w : World) (pauses : Nat → Nat) : Prop :=
  ∀ e s, (ResetPasswordService.execute env SavingUserRepository r).run (execPaced env) (w, pauses) =
    (.error e, s) → w.SameCredentials s.1

/-- The token has not ended when it is looked at for the first time, and has ended when it is looked
at for the second time, four calls later, with a new password that is saved in between. -/
def ExpiresMidway (env : Env) (r : ResetPasswordRequest) (w : World) (pauses : Nat → Nat) : Prop :=
  ∃ t u, r.Finds env w (w.now + pauses 0 + pauses 1) t u ∧ u.passwordHash ≠ newHash env r w ∧
    t.expiresAt <
      w.now + pauses 0 + pauses 1 + pauses 2 + pauses 3 + pauses 4 + pauses 5

section Failing

open ResetPasswordService

variable {r : ResetPasswordRequest}

/-- A reset that finds its token and saves a new password goes on to look at the token again. -/
theorem goesOn_secondCheck {t : OneTimeTokenRow} {u : UserRow}
    (h : r.Finds env w (w.now + pauses 0 + pauses 1) t u)
    (hne : u.passwordHash ≠ newHash env r w) :
    GoesOn (execPaced env) (fun _ ↦ True) (execute env SavingUserRepository r) (w, pauses)
      (finish r (env.sha256 r.token) t.resetToken (changedUser env r w u))
      (savedWorld env r (((w.pass (pauses 0)).pass (pauses 1)).pass (pauses 2))
        (fun n ↦ pauses (n + 3)) u, fun n ↦ pauses (n + 5)) := by
  have hload := goesOn_changePassword h
  obtain ⟨before, htrace, -⟩ := hload.trace
  let v : World := ((w.pass (pauses 0)).pass (pauses 1)).pass (pauses 2)
  have hsave : u.passwordHash ≠ newHash env r v := hne
  exact GoesOn.trans ⟨hload.run, before, htrace, fun _ _ ↦ trivial⟩
    (goesOn_finish (w := v) h.user hsave _ _)

/-- A reset fails cleanly unless its token expires midway. -/
theorem failsCleanly_iff
    (hanswered : (execute env SavingUserRepository r).Answers (execPaced env) Answered
      (w, pauses)) :
    FailsCleanly env r w pauses ↔ ¬ ExpiresMidway env r w pauses := by
  constructor
  · rintro hclean ⟨t, u, hfinds, hne, hexpired⟩
    have hrun := (goesOn_secondCheck hfinds hne).run.trans
      (run_finish_expired hfinds.unused (by exact hexpired) _ _)
    obtain ⟨u', hu', hid, hhash⟩ := (hclean _ _ hrun).hashes u hfinds.user
    obtain ⟨x, hx, rfl⟩ := UserTable.mem_write.mp hu'
    rw [(UserRow.write_keys _ _ _).1] at hid
    obtain rfl := UserTable.eq_of_id hx hfinds.user hid
    refine hne (hhash.symm.trans ?_)
    unfold UserRow.write
    rw [if_pos rfl]
    rfl
  · intro hmidway e s hrun
    by_cases hfound : ∃ t u, r.Finds env w (w.now + pauses 0 + pauses 1) t u
    · obtain ⟨t, u, hfinds⟩ := hfound
      by_cases hsame : u.passwordHash = newHash env r w
      · have hrefused := (goesOn_changePassword hfinds).run.trans
          (run_changePassword_same _ (by exact hsame) _ _)
        rw [hrefused] at hrun
        cases hrun
        exact ⟨fun u hu ↦ ⟨u, hu, rfl, rfl⟩, rfl, rfl⟩
      · have hfinish := goesOn_secondCheck hfinds hsame
        have hdue : w.now + pauses 0 + pauses 1 + pauses 2 + pauses 3 + pauses 4 + pauses 5 ≤
            t.expiresAt := by
          by_contra hover
          exact hmidway ⟨t, u, hfinds, hsame, Nat.not_le.mp hover⟩
        obtain ⟨s', hreturned⟩ := run_finish_returns hfinds.unused (by exact hdue)
          (hfinish.answers hanswered)
        rw [hfinish.run, hreturned] at hrun
        cases hrun
    · obtain ⟨e', ms, rest, hrefused⟩ := run_execute_unfound fun t u h ↦ hfound ⟨t, u, h⟩
      rw [hrefused] at hrun
      cases hrun
      exact ⟨fun u hu ↦ ⟨u, hu, rfl, rfl⟩, rfl, rfl⟩

end Failing

/-- Hashing the new password of `alice` takes more than an hour. -/
def Sample.slowHash : Nat → Nat := fun n ↦ if n = 3 then 4000000 else 0

/-- Looking her reset token up takes more than an hour. -/
def Sample.slowLookup : Nat → Nat := fun n ↦ if n = 0 then 4000000 else 0

/-- How a reset ends whose calls take the given times. -/
def Sample.resetAfter (pauses : Nat → Nat) : Except JsError Unit :=
  ((ResetPasswordService.execute Sample.env SavingUserRepository reset).run (execPaced Sample.env)
    (resetRequested, pauses)).1

/-- The reset whose hashing takes so long, alone. -/
def Sample.lateReset : Except JsError Unit × World × (Nat → Nat) :=
  (ResetPasswordService.execute Sample.env SavingUserRepository reset).run (execPaced Sample.env)
    (resetRequested, slowHash)

/-- The cases of a reset whose calls take no time, which succeeds, and of one whose token has ended
before it is looked up, which is rejected. -/
theorem failsCleanly_at_once :
    (Sample.resetAfter (fun _ ↦ 0) = .ok () ∧
      (FailsCleanly Sample.env Sample.reset Sample.resetRequested (fun _ ↦ 0) ↔
        ¬ ExpiresMidway Sample.env Sample.reset Sample.resetRequested fun _ ↦ 0)) ∧
    (Sample.resetAfter Sample.slowLookup = .error (.domainError "Invalid or expired reset token") ∧
      (FailsCleanly Sample.env Sample.reset Sample.resetRequested Sample.slowLookup ↔
        ¬ ExpiresMidway Sample.env Sample.reset Sample.resetRequested Sample.slowLookup)) :=
  ⟨⟨by decide +kernel, failsCleanly_iff (by decide +kernel)⟩,
    by decide +kernel, failsCleanly_iff (by decide +kernel)⟩

/-- A reset whose token ends while the password is hashed throws, and the password is changed. -/
theorem late_reset_changes_password :
    ¬ ∀ (r : ResetPasswordRequest) (w : World) (pauses : Nat → Nat),
      (ResetPasswordService.execute Sample.env SavingUserRepository r).Answers
          (execPaced Sample.env) Answered (w, pauses) →
        FailsCleanly Sample.env r w pauses := by
  intro h
  have hclean := h Sample.reset Sample.resetRequested Sample.slowHash (by decide +kernel)
  have hthrows : Sample.lateReset.1 = .error (.invalidStateError "Token is expired") := by
    decide +kernel
  obtain ⟨u', hu', hid, hhash⟩ := (hclean _ _ (Prod.ext hthrows rfl)).hashes Sample.alice
    (List.mem_singleton.mpr rfl)
  have hchanged : ∀ u ∈ Sample.lateReset.2.1.users.rows, u.id = Sample.alice.id →
      u.passwordHash ≠ Sample.alice.passwordHash := by decide +kernel
  exact hchanged u' hu' hid hhash

end Bankos
