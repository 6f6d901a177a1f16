import Bankos.Users.ResetExpiry

/-!
# Resetting to the same password

The entity refuses a new hash that is the stored one. The hasher draws a salt for every hash, so the
hash of the same password is another one unless the salts agree on it.
-/

namespace Bankos

open Js Jwt Effects Storage Prog DatabaseMapper

/-- The reset with the token `t` of the user `u` brings the password that the stored hash was made
of, with the salt `salt`; the token is usable, and the password meets the policy. -/
structure ReusesPassword (env : Env) (r : ResetPasswordRequest) (w : World) (due salt : Nat)
    (t : OneTimeTokenRow) (u : UserRow) : Prop where
  finds : r.Finds env w due t u
  policy : PasswordPolicy.validate r.newPasswordRaw = true
  hash : u.passwordHash =
    env.argon2Hash salt (Argon2PasswordHasher.applyPepper env r.newPasswordRaw)

/-- The reset throws, and it has written no user. -/
def RejectedBeforeSave (env : Env) (r : ResetPasswordRequest) (w : World) (pauses : Nat → Nat) :
    Prop :=
  let p := ResetPasswordService.execute env SavingUserRepository r
  (∃ e, (p.run (execPaced env) (w, pauses)).1 = .error e) ∧
    ∀ call ∈ p.trace (execPaced env) (w, pauses), call.1.area ≠ some .userWrite

variable {env : Env} {w : World} {pauses : Nat → Nat} {r : ResetPasswordRequest}
  {t : OneTimeTokenRow} {u : UserRow}

namespace ResetPasswordService

/-- A reset to the stored hash only hashes the new password. -/
theorem trace_changePassword_same (pauses : Nat → Nat)
    (hsame : u.passwordHash = newHash env r w) (hashedToken : Text) (resetToken : OneTimeToken) :
    (changePassword env SavingUserRepository r hashedToken resetToken (toDomainUser u)).trace
        (execPaced env) (w, pauses) =
      [⟨.hasher (.hash (Argon2PasswordHasher.applyPepper env r.newPasswordRaw)),
        .ok (newHash env r w)⟩] := by
  unfold changePassword
  dsimp only
  rw [trace_bind, run_paced_newHash]
  dsimp only
  rw [changePassword_same hsame]
  rfl

/-- A reset to another hash writes the user. -/
theorem update_mem_trace (hne : u.passwordHash ≠ newHash env r w)
    (hashedToken : Text) (resetToken : OneTimeToken) :
    ∃ call ∈ (changePassword env SavingUserRepository r hashedToken resetToken
        (toDomainUser u)).trace (execPaced env) (w, pauses), call.1.area = some .userWrite := by
  unfold changePassword
  dsimp only
  rw [trace_bind, run_paced_newHash]
  dsimp only
  rw [changePassword_other hne, done_ok_bind, trace_bind]
  refine ⟨_, List.mem_append_right _ (List.mem_append_left _ (List.mem_singleton.mpr rfl)), rfl⟩

end ResetPasswordService

/-- A reset to the current password is rejected before the user is saved if and only if the salt
that is drawn for it gives the stored hash once more. -/
theorem rejectedBeforeSave_iff {salt : Nat}
    (h : ReusesPassword env r w (w.now + pauses 0 + pauses 1) salt t u) :
    RejectedBeforeSave env r w pauses ↔
      env.argon2Hash w.draws (Argon2PasswordHasher.applyPepper env r.newPasswordRaw) =
        env.argon2Hash salt (Argon2PasswordHasher.applyPepper env r.newPasswordRaw) := by
  have hload := ResetPasswordService.goesOn_changePassword h.finds
  obtain ⟨before, htrace, hbefore⟩ := hload.trace
  let v : World := ((w.pass (pauses 0)).pass (pauses 1)).pass (pauses 2)
  have hdraw : newHash env r v =
      env.argon2Hash w.draws (Argon2PasswordHasher.applyPepper env r.newPasswordRaw) := rfl
  unfold RejectedBeforeSave
  dsimp only
  rw [← h.hash, hload.run, htrace, ← hdraw]
  constructor
  · rintro ⟨-, hunwritten⟩
    by_contra hother
    obtain ⟨call, hcall, harea⟩ := ResetPasswordService.update_mem_trace (w := v) (Ne.symm hother)
      (env.sha256 r.token) t.resetToken
    exact hunwritten call (List.mem_append_right _ hcall) harea
  · intro hsame
    let rest : Nat → Nat := fun n ↦ pauses (n + 3)
    have hrejected := ResetPasswordService.run_changePassword_same (w := v) rest hsame.symm
      (env.sha256 r.token) t.resetToken
    have hcalls := ResetPasswordService.trace_changePassword_same (w := v) rest hsame.symm
      (env.sha256 r.token) t.resetToken
    refine ⟨⟨_, congrArg Prod.fst hrejected⟩, fun call hcall harea ↦ ?_⟩
    rw [hcalls] at hcall
    rcases List.mem_append.mp hcall with hcall | hcall
    · exact absurd (hbefore call hcall _ harea) (by decide)
    · rw [List.mem_singleton.mp hcall] at harea
      cases harea

/-- A reset of `alice` to the password that she has. -/
def Sample.reuse : ResetPasswordRequest := { reset with newPasswordRaw := "Correct-horse-1" }

/-- The token of that reset. -/
def Sample.reuseToken : OneTimeTokenRow :=
  ⟨Sample.env.sha256 reuse.token, alice.id, false, 4600000⟩

/-- Her password was hashed with another salt. -/
theorem Sample.reusesPassword :
    ReusesPassword Sample.env reuse resetRequested (resetRequested.now + 0 + 0) 1 reuseToken
      alice where
  finds :=
    { token := List.mem_singleton.mpr rfl
      hash := rfl
      unused := rfl
      due := by decide
      user := List.mem_singleton.mpr rfl
      owner := rfl }
  policy := by decide +kernel
  hash := rfl

/-- The case of that reset, with no time passing. -/
theorem rejectedBeforeSave_alice :
    RejectedBeforeSave Sample.env Sample.reuse Sample.resetRequested (fun _ ↦ 0) ↔
      Sample.env.argon2Hash 0 (Argon2PasswordHasher.applyPepper Sample.env "Correct-horse-1") =
        Sample.env.argon2Hash 1 (Argon2PasswordHasher.applyPepper Sample.env "Correct-horse-1") :=
  rejectedBeforeSave_iff Sample.reusesPassword

/-- The sample hasher recognises the passwords that it has hashed. -/
theorem Sample.argon2Verify_argon2Hash (salt : Nat) (password : String) :
    argon2Verify (argon2Hash salt password) password = some true := by
  have hdrop : (List.replicate salt 's' ++ '$' :: password.toList).dropWhile (· = 's') =
      '$' :: password.toList := by
    induction salt with
    | zero => rfl
    | succ n ih => exact ih
  unfold argon2Verify argon2Hash
  rw [String.toList_ofList]
  exact congrArg some (decide_eq_true hdrop)

/-- A reset to the current password goes through, with a hasher that recognises it. -/
theorem reuse_goes_through :
    (∀ salt password,
      Sample.env.argon2Verify (Sample.env.argon2Hash salt password) password = some true) ∧
    ¬ ∀ (r : ResetPasswordRequest) (w : World) (pauses : Nat → Nat) (salt : Nat)
      (t : OneTimeTokenRow) (u : UserRow),
      ReusesPassword Sample.env r w (w.now + pauses 0 + pauses 1) salt t u →
        RejectedBeforeSave Sample.env r w pauses := by
  refine ⟨Sample.argon2Verify_argon2Hash, fun h ↦ ?_⟩
  obtain ⟨⟨e, hthrows⟩, -⟩ := h Sample.reuse Sample.resetRequested (fun _ ↦ 0) 1 Sample.reuseToken
    Sample.alice Sample.reusesPassword
  have hreturns : ((ResetPasswordService.execute Sample.env SavingUserRepository Sample.reuse).run
      (execPaced Sample.env) (Sample.resetRequested, fun _ ↦ 0)).1 = .ok () := by decide +kernel
  rw [hreturns] at hthrows
  cases hthrows

end Bankos
