import Bankos.Rbac.Calls
import Bankos.Users.ResetPassword

/-!
# Which passwords are stored

A registration asks `PasswordPolicy.validate` and refuses a password that does not meet the policy.
A reset asks as well and does not read the answer. So what is stored meets the policy as long as no
reset with another password finds a token that it can redeem.
-/

namespace Bankos

open Js Jwt Effects Storage Prog DatabaseMapper

/-- A call of one of the two services that store passwords. -/
inductive PasswordCall where
  | register (r : RegisterUserRequest)
  | resetPassword (r : ResetPasswordRequest)
  deriving DecidableEq, Repr

namespace PasswordCall

/-- The service that serves the call. -/
def program (env : Env) : PasswordCall → Program Unit
  | register r => do
    let _ ← RegisterUserService.execute env r
    pure ()
  | resetPassword r => ResetPasswordService.execute env PrismaUserRepository r

/-- The call hands a user to `userRepository.save` whose hash was made of the raw password. -/
def HandsToSave (env : Env) (c : PasswordCall) (w : World) (raw : String) : Prop :=
  ∃ row saved, ⟨.user (.create row), saved⟩ ∈ (c.program env).trace (exec env) w ∧
    ⟨.hasher (.hash (Argon2PasswordHasher.applyPepper env raw)), .ok row.passwordHash⟩ ∈
      (c.program env).trace (exec env) w

/-- The calls of a sequence, each with the world it is served in; time passes between them. -/
def visits (env : Env) : World → List (Nat × PasswordCall) → List (World × PasswordCall)
  | _, [] => []
  | w, (elapsed, c) :: calls =>
    (w.pass elapsed, c) ::
      visits env ((c.program env).run (exec env) (w.pass elapsed)).2 calls

end PasswordCall

/-- Every raw password whose hash a call of the sequence hands to `save` meets the policy. -/
def StoresCompliant (env : Env) (w : World) (calls : List (Nat × PasswordCall)) : Prop :=
  ∀ v c, (v, c) ∈ PasswordCall.visits env w calls →
    ∀ raw, c.HandsToSave env v raw → PasswordPolicy.validate raw = true

/-- The hash that a reset makes of the new password. -/
def newHash (env : Env) (request : ResetPasswordRequest) (w : World) : String :=
  env.argon2Hash w.draws (Argon2PasswordHasher.applyPepper env request.newPasswordRaw)

/-- The token of the request is stored, unused and not past its end, its user is stored, and the
new hash is not the old one. -/
def Redeemable (env : Env) (request : ResetPasswordRequest) (w : World) : Prop :=
  ∃ t ∈ w.passwordResetTokens.rows, t.token = env.sha256 request.token ∧ t.isUsed = false ∧
    w.now ≤ t.expiresAt ∧ ∃ u ∈ w.users.rows, env.parseUuid t.userId = some u.id ∧
      u.passwordHash ≠ newHash env request w

variable {env : Env} {w : World}

/-- The pepper does not make two passwords one. -/
theorem Argon2PasswordHasher.applyPepper_injective :
    Function.Injective (Argon2PasswordHasher.applyPepper env) := by
  intro s t h
  unfold applyPepper at h
  cases hpepper : env.config.pepper with
  | none =>
    rw [hpepper] at h
    exact h
  | some pepper =>
    rw [hpepper] at h
    dsimp only at h
    by_cases hempty : pepper = ""
    · rw [if_pos hempty, if_pos hempty] at h
      exact h
    · rw [if_neg hempty, if_neg hempty] at h
      exact (String.append_left_inj pepper).mp h

/-! ### Registering -/

/-- What is hashed is allowed. -/
def Op.hashes (allowed : String → Prop) : Op → Prop
  | .hasher (.hash s) => allowed s
  | _ => True

/-- A registration hashes the password of its request, if that meets the policy. -/
theorem RegisterUserService.execute_hashes (r : RegisterUserRequest) :
    (execute env r).Uses (Op.hashes fun s ↦
      s = Argon2PasswordHasher.applyPepper env r.passwordRaw ∧
        PasswordPolicy.validate r.passwordRaw = true) := by
  apply (execute_calls env r).mono
  rintro op ⟨-, hcompliant, hop⟩
  cases op with
  | hasher o =>
    cases o with
    | hash s => exact ⟨hop, hcompliant⟩
    | verify pchstr plaintext => exact hop.elim
  | _ => exact trivial

/-- Whatever a registration hands to `save` is the hash of a password that meets the policy. -/
theorem PasswordCall.compliant_of_register {r : RegisterUserRequest} {raw : String}
    (h : (PasswordCall.register r).HandsToSave env w raw) : PasswordPolicy.validate raw = true := by
  obtain ⟨row, saved, -, hhash⟩ := h
  have huses : ((PasswordCall.register r).program env).Uses (Op.hashes fun s ↦
      s = Argon2PasswordHasher.applyPepper env r.passwordRaw ∧
        PasswordPolicy.validate r.passwordRaw = true) :=
    uses_bind (RegisterUserService.execute_hashes r) fun _ ↦ trivial
  obtain ⟨hsame, hcompliant⟩ := huses.of_mem_trace hhash
  rw [Argon2PasswordHasher.applyPepper_injective hsame]
  exact hcompliant

/-! ### Resetting -/

/-- The user of a row, with the new password. -/
def changedUser (env : Env) (request : ResetPasswordRequest) (w : World) (u : UserRow) : User :=
  { toDomainUser u with
    passwordHash := newHash env request w
    domainEvents := [{ detail := .passwordChanged u.id }] }

/-- The calls of a reset for a user that is stored: the new password is hashed and, unless the hash
is the old one, the user is handed to `save`. -/
theorem ResetPasswordService.trace_changePassword {u : UserRow} (hu : u ∈ w.users)
    (r : ResetPasswordRequest) (hashedToken : Text) (resetToken : OneTimeToken) :
    (changePassword env PrismaUserRepository r hashedToken resetToken (toDomainUser u)).trace
        (exec env) w =
      ⟨.hasher (.hash (Argon2PasswordHasher.applyPepper env r.newPasswordRaw)),
        .ok (newHash env r w)⟩ ::
      if u.passwordHash = newHash env r w then []
      else [⟨.user (.create (toPrismaUser (changedUser env r w u))),
        .error (.prismaError "P2002")⟩] := by
  have hhash : (Argon2PasswordHasher.hash env r.newPasswordRaw).trace (exec env) w =
      [⟨.hasher (.hash (Argon2PasswordHasher.applyPepper env r.newPasswordRaw)),
        .ok (newHash env r w)⟩] := rfl
  have hrun : (Argon2PasswordHasher.hash env r.newPasswordRaw).run (exec env) w =
      (.ok (newHash env r w), { w with draws := w.draws + 1 }) := rfl
  unfold changePassword
  dsimp only
  rw [trace_bind, hhash, hrun]
  dsimp only
  by_cases hsame : u.passwordHash = newHash env r w
  · have hchange : (toDomainUser u).changePassword (newHash env r w) =
        .error (.invalidStateError "New password must be different from the old password") := by
      unfold User.changePassword
      exact if_pos hsame
    rw [if_pos hsame, hchange]
    rfl
  · have hchange : (toDomainUser u).changePassword (newHash env r w) =
        .ok (changedUser env r w u) := by
      unfold User.changePassword
      exact if_neg hsame
    have hsave : (IUserRepository.save PrismaUserRepository (changedUser env r w u)).run (exec env)
        { w with draws := w.draws + 1 } =
          (.error (.prismaError "P2002"), { w with draws := w.draws + 1 }) :=
      run_save_stored env { w with draws := w.draws + 1 } hu rfl
    have hcreate : (IUserRepository.save PrismaUserRepository (changedUser env r w u)).trace
        (exec env) { w with draws := w.draws + 1 } =
          [⟨.user (.create (toPrismaUser (changedUser env r w u))),
            ((IUserRepository.save PrismaUserRepository (changedUser env r w u)).run (exec env)
              { w with draws := w.draws + 1 }).1⟩] := rfl
    rw [if_neg hsame, hchange, done_ok_bind, trace_bind, hcreate, hsave]
    rfl

/-- The calls of a reset with a token that was found: it has to be due and unused, and its user to
be stored. -/
theorem ResetPasswordService.trace_redeem (r : ResetPasswordRequest) (hashedToken : Text)
    (t : OneTimeToken) :
    (redeem env PrismaUserRepository r hashedToken t).trace (exec env) w =
      ⟨.system .dateNow, .ok w.now⟩ ::
      if t.expiresAt < w.now then [] else if t.isUsed then [] else
        ⟨.user (.findUniqueById (.str t.userId)),
          (exec env w (.user (.findUniqueById (.str t.userId)))).1⟩ ::
        match env.parseUuid t.userId with
        | none => []
        | some id =>
          match w.users.find fun u ↦ decide (u.id = id) with
          | none => []
          | some u => (changePassword env PrismaUserRepository r hashedToken t
              (toDomainUser u)).trace (exec env) w := by
  have hnow : SystemClock.now.trace (exec env) w = [⟨.system .dateNow, .ok w.now⟩] := rfl
  have hfind : (PrismaUserRepository.findById (.str t.userId)).trace (exec env) w =
      [⟨.user (.findUniqueById (.str t.userId)),
        (exec env w (.user (.findUniqueById (.str t.userId)))).1⟩] :=
    trace_request_map env w _ _
  unfold redeem OneTimeToken.isExpired
  rw [trace_bind, hnow, run_now]
  dsimp only
  by_cases hexpired : t.expiresAt < w.now
  · rw [if_pos hexpired, if_pos (by simpa using hexpired)]
    rfl
  · rw [if_neg hexpired, if_neg (by simpa using hexpired)]
    by_cases hused : t.isUsed = true
    · rw [if_pos hused, if_pos hused]
      rfl
    · rw [if_neg hused, if_neg hused, PrismaUserRepository.proper.findById, trace_bind, hfind,
        run_findUserById]
      unfold uuidArgument
      dsimp only
      cases hid : env.parseUuid t.userId with
      | none => rfl
      | some id =>
        dsimp only
        cases huser : w.users.find fun u ↦ decide (u.id = id) with
        | none => rfl
        | some u => rfl

/-- The calls of a reset. -/
theorem ResetPasswordService.trace_execute (r : ResetPasswordRequest) :
    (execute env PrismaUserRepository r).trace (exec env) w =
      ⟨.resetToken (.findUnique (env.sha256 r.token)),
        .ok (w.passwordResetTokens.find fun t ↦ decide (t.token = env.sha256 r.token))⟩ ::
      match w.passwordResetTokens.find fun t ↦ decide (t.token = env.sha256 r.token) with
      | none => []
      | some t => (redeem env PrismaUserRepository r (env.sha256 r.token)
          (PasswordResetToken.construct t.token t.userId t.expiresAt t.isUsed)).trace
            (exec env) w := by
  have hfind : (PrismaPasswordResetTokenRepository.findByToken
      (SecureRandomGenerator.hashString env r.token)).trace (exec env) w =
        [⟨.resetToken (.findUnique (env.sha256 r.token)),
          .ok (w.passwordResetTokens.find fun t ↦ decide (t.token = env.sha256 r.token))⟩] := rfl
  unfold execute
  dsimp only
  rw [trace_bind, hfind, run_findByToken]
  unfold SecureRandomGenerator.hashString
  cases w.passwordResetTokens.find fun t ↦ decide (t.token = env.sha256 r.token) <;> rfl

/-- What a call of a reset tells: a hash is of the new password, and a save has redeemed the
token. -/
def Op.tellsOfReset (env : Env) (r : ResetPasswordRequest) (w : World) : Op → Prop
  | .hasher (.hash s) => s = Argon2PasswordHasher.applyPepper env r.newPasswordRaw
  | .user (.create _) => Redeemable env r w
  | _ => True

/-- The calls of a reset. -/
theorem ResetPasswordService.tells_of_mem_trace {r : ResetPasswordRequest}
    {e : (op : Op) × Except JsError op.Reply}
    (h : e ∈ (execute env PrismaUserRepository r).trace (exec env) w) :
    e.1.tellsOfReset env r w := by
  rw [trace_execute] at h
  rcases List.mem_cons.mp h with rfl | h
  · exact trivial
  · cases ht : w.passwordResetTokens.find fun t ↦ decide (t.token = env.sha256 r.token) with
    | none =>
      rw [ht] at h
      cases h
    | some t =>
      have htoken : t.token = env.sha256 r.token := by simpa using (Table.find_some ht).2
      rw [ht] at h
      dsimp only at h
      rw [trace_redeem] at h
      rcases List.mem_cons.mp h with rfl | h
      · exact trivial
      · split at h
        · cases h
        · next hdue =>
          split at h
          · cases h
          · next hused =>
            rcases List.mem_cons.mp h with rfl | h
            · exact trivial
            · split at h
              · cases h
              · next id hid =>
                split at h
                · cases h
                · next u hu =>
                  have hmem := (Table.find_some hu).1
                  have huser : u.id = id := by simpa using (Table.find_some hu).2
                  rw [trace_changePassword hmem] at h
                  rcases List.mem_cons.mp h with rfl | h
                  · rfl
                  · split at h
                    · cases h
                    · next hne =>
                      rw [List.mem_singleton.mp h]
                      refine ⟨t, (Table.find_some ht).1, htoken, Bool.eq_false_iff.mpr hused,
                        Nat.le_of_not_lt hdue, u, hmem, ?_, hne⟩
                      rw [huser]
                      exact hid

/-- The calls of a reset that can redeem its token end with the hash and the save. -/
theorem trace_of_redeemable {r : ResetPasswordRequest} (h : Redeemable env r w) :
    ∃ before u, (ResetPasswordService.execute env PrismaUserRepository r).trace (exec env) w =
      before ++
        [⟨.hasher (.hash (Argon2PasswordHasher.applyPepper env r.newPasswordRaw)),
            .ok (newHash env r w)⟩,
          ⟨.user (.create (toPrismaUser (changedUser env r w u))),
            .error (.prismaError "P2002")⟩] := by
  obtain ⟨t, ht, htoken, hused, hdue, u, hu, hid, hne⟩ := h
  have hfind : w.passwordResetTokens.find (fun t ↦ decide (t.token = env.sha256 r.token)) =
      some t := by
    apply Table.find_of_mem ht (by simpa using htoken)
    intro s hs
    have hs : s.token = env.sha256 r.token := by simpa using hs
    simp [OneTimeTokenRow.clash, hs, htoken]
  have hexpired : ¬ (PasswordResetToken.construct t.token t.userId t.expiresAt t.isUsed).expiresAt <
      w.now := Nat.not_lt.mpr hdue
  have hunused : ¬ (PasswordResetToken.construct t.token t.userId t.expiresAt t.isUsed).isUsed =
      true := Bool.eq_false_iff.mp hused
  have huuid : env.parseUuid
      (PasswordResetToken.construct t.token t.userId t.expiresAt t.isUsed).userId = some u.id := hid
  rw [ResetPasswordService.trace_execute, hfind]
  dsimp only
  rw [ResetPasswordService.trace_redeem, if_neg hexpired, if_neg hunused, huuid]
  dsimp only
  rw [UserTable.find_id hu]
  dsimp only
  rw [ResetPasswordService.trace_changePassword hu, if_neg hne]
  exact ⟨[_, _, _], u, rfl⟩

/-- A reset hands the hash of its new password to `save` when it can redeem its token, and no other
hash, and only then. -/
theorem PasswordCall.handsToSave_reset {r : ResetPasswordRequest} {raw : String} :
    (PasswordCall.resetPassword r).HandsToSave env w raw ↔
      raw = r.newPasswordRaw ∧ Redeemable env r w := by
  constructor
  · rintro ⟨row, saved, hcreate, hhash⟩
    have hsame := ResetPasswordService.tells_of_mem_trace hhash
    exact ⟨Argon2PasswordHasher.applyPepper_injective hsame,
      ResetPasswordService.tells_of_mem_trace hcreate⟩
  · rintro ⟨rfl, h⟩
    obtain ⟨before, u, htrace⟩ := trace_of_redeemable h
    refine ⟨toPrismaUser (changedUser env r w u), .error (.prismaError "P2002"), ?_, ?_⟩
    · unfold program
      rw [htrace]
      simp
    · unfold program
      rw [htrace]
      exact List.mem_append_right _ List.mem_cons_self

/-! ### A sequence of calls -/

/-- Every password that a sequence of calls hands to `save` meets the policy if and only if no reset
with another password can redeem its token when it is served. -/
theorem storesCompliant_iff (env : Env) (w : World) (calls : List (Nat × PasswordCall)) :
    StoresCompliant env w calls ↔
      ∀ v r, (v, .resetPassword r) ∈ PasswordCall.visits env w calls →
        PasswordPolicy.validate r.newPasswordRaw = false → ¬ Redeemable env r v := by
  constructor
  · intro h v r hvisit hpolicy hredeem
    have hcompliant := h v _ hvisit r.newPasswordRaw
      (PasswordCall.handsToSave_reset.mpr ⟨rfl, hredeem⟩)
    rw [hpolicy] at hcompliant
    cases hcompliant
  · intro h v c hvisit raw hhands
    cases c with
    | register r => exact PasswordCall.compliant_of_register hhands
    | resetPassword r =>
      obtain ⟨rfl, hredeem⟩ := PasswordCall.handsToSave_reset.mp hhands
      by_contra hpolicy
      exact h v r hvisit (Bool.eq_false_iff.mpr hpolicy) hredeem

/-- A reset with a password of eight characters gets to `save`. -/
theorem reset_stores_noncompliant :
    ¬ ∀ (env : Env) (w : World) (calls : List (Nat × PasswordCall)),
      StoresCompliant env w calls := by
  intro h
  have hredeem : Redeemable Sample.env { Sample.reset with newPasswordRaw := "password" }
      (Sample.resetRequested.pass 0) :=
    ⟨⟨Sample.env.sha256 Sample.reset.token, Sample.alice.id, false, 4600000⟩, by decide +kernel,
      rfl, rfl, by decide +kernel, Sample.alice, by decide +kernel, rfl, by decide +kernel⟩
  have hcompliant := h Sample.env Sample.resetRequested
    [(0, .resetPassword { Sample.reset with newPasswordRaw := "password" })] _ _
    List.mem_cons_self "password" (PasswordCall.handsToSave_reset.mpr ⟨rfl, hredeem⟩)
  revert hcompliant
  decide +kernel

end Bankos
