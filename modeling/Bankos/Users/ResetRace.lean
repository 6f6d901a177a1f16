import Bankos.Users.ResetPassword
import Mathlib.Data.Fintype.Basic

/-!
# Using a reset token once

A password reset looks its token up first and deletes it last, and an error of the deletion is
swallowed. One token resets one password as long as nobody finds it again before it is gone.
-/

namespace Bankos

open Js Jwt Effects Storage Prog

/-! ### What a reset does with its token -/

/-- Whether a reset has found its token, and whether it has handed a user to `save`. -/
structure ResetTrace where
  found : Bool := false
  saved : Bool := false
  deriving DecidableEq

/-- The trace after the reply to a call. -/
def ResetTrace.next (s : ResetTrace) : (op : Op) → Except JsError op.Reply → ResetTrace
  | .resetToken (.findUnique _), .ok (some _) => { s with found := true }
  | .user (.update _ _), _ => { s with saved := true }
  | _, _ => s

/-- A reset looks up no other token than its own, and saves a user only once it has found it. -/
def ResetPasswordRequest.mayCall (env : Env) (r : ResetPasswordRequest) (s : ResetTrace) :
    Op → Prop
  | .resetToken (.findUnique h) => h = env.sha256 r.token
  | .user (.update _ _) => s.found = true
  | _ => True

/-- What resets are told, with no restriction of their calls. -/
abbrev ResetTrace.trace : Protocol Api JsError where
  Phase := ResetTrace
  allows _ _ := True
  next := ResetTrace.next

/-- The discipline of the resets. -/
abbrev resetting (env : Env) (r : ResetPasswordRequest) : Protocol Api JsError :=
  { ResetTrace.trace with allows := r.mayCall env }

/-- A reset keeps to the discipline. -/
theorem ResetPasswordService.execute_traces (env : Env) (r : ResetPasswordRequest) :
    (execute env SavingUserRepository r).Obeys (resetting env r) {} fun _ _ ↦ True := by
  unfold execute
  refine ⟨rfl, fun reply ↦ ?_⟩
  rcases reply with e | _ | row
  · exact trivial
  · exact trivial
  · have hrest := redeem_uses SavingUserRepository.proper env r (env.sha256 r.token)
      (PasswordResetToken.construct row.token row.userId row.expiresAt row.isUsed)
    apply (hrest.obeys (P := resetting env r) (fun s ↦ s.found = true) ?_ rfl).mono
      fun _ _ _ ↦ trivial
    intro s op hfound hop
    cases op with
    | resetToken o =>
      cases o with
      | findUnique h => exact absurd (hop _ rfl) (by decide)
      | upsert row => exact ⟨trivial, fun _ ↦ hfound⟩
      | delete h => exact ⟨trivial, fun _ ↦ hfound⟩
    | user o =>
      cases o with
      | update id data => exact ⟨hfound, fun _ ↦ hfound⟩
      | _ => exact ⟨trivial, fun _ ↦ hfound⟩
    | _ => exact ⟨trivial, fun _ ↦ hfound⟩

/-- The request of a reset keeps to the discipline. -/
theorem serve_resetPassword_traces (env : Env) (r : ResetPasswordRequest) :
    (serve env SavingUserRepository (.resetPassword r)).Obeys (resetting env r) {}
      fun _ _ ↦ True := by
  apply obeys_bind
  apply (ResetPasswordService.execute_traces env r).mono
  rintro s (e | a) _
  · exact trivial
  · exact trivial

/-! ### Runs of resets with one token -/

variable {ι : Type} [DecidableEq ι] {env : Env} {resets : ι → ResetPasswordRequest} {w : World}

/-- What each reset has done with its token. -/
def Server.resetTrace (q : Server ι) : ι → ResetTrace := Pool.phase ResetTrace.trace {} q.log

/-- The hash of the reset token that a call looks up. -/
def Op.resetLookup : Op → Option Text
  | .resetToken (.findUnique h) => some h
  | _ => none

/-- Run `i` has found the token and may still hand a user to `save`, or has done so. -/
def Server.Holds (q : Server ι) (i : ι) : Prop :=
  (q.resetTrace i).found = true ∧ (q.result i = none ∨ (q.resetTrace i).saved = true)

instance (q : Server ι) (i : ι) : Decidable (q.Holds i) :=
  decidable_of_iff ((q.resetTrace i).found = true ∧
    ((q.result i).isNone = true ∨ (q.resetTrace i).saved = true)) (by simp [Server.Holds])

/-- A run that is about to look up the token `hashed` while it is stored finds no other run that
holds it. -/
def LooksUpAlone (hashed : Text) (q : Server ι) : ServerTurn ι → Prop
  | .act i => (q.pending i).bind Op.resetLookup = some hashed →
      (∃ r ∈ q.world.passwordResetTokens.rows, r.token = hashed) → ∀ j, j ≠ i → ¬ q.Holds j
  | _ => True

instance [Fintype ι] (hashed : Text) (q : Server ι) :
    (t : ServerTurn ι) → Decidable (LooksUpAlone hashed q t)
  | .act i => inferInstanceAs (Decidable (_ = _ → _ → ∀ j, j ≠ i → ¬ q.Holds j))
  | .fail _ _ => isTrue trivial
  | .pass _ => isTrue trivial

/-- An answered call moves the trace of its own reset. -/
theorem Server.resetTrace_record (q : Server ι) (i : ι) (op : Op) (r : Except JsError op.Reply)
    (next : Except JsError op.Reply → Program Response) (w : World) :
    Server.resetTrace (q.record i op r next w) =
      Function.update q.resetTrace i ((q.resetTrace i).next op r) :=
  Pool.phase_record (P := ResetTrace.trace) {} q i op r next w

/-- A call is found to have found a token only if it looked up one that is stored. -/
theorem stored_of_found {w : World} {s : ResetTrace} {op : Op}
    (hne : (s.next op (exec env w op).1).found ≠ s.found) :
    ∃ h, op = .resetToken (.findUnique h) ∧ ∃ r ∈ w.passwordResetTokens.rows, r.token = h := by
  cases op with
  | resetToken o =>
    cases o with
    | findUnique h =>
      refine ⟨h, rfl, ?_⟩
      simp only [exec, TokenOp.exec] at hne
      cases hfind : w.passwordResetTokens.find fun r ↦ decide (r.token = h) with
      | none =>
        rw [hfind] at hne
        exact absurd rfl hne
      | some r =>
        obtain ⟨hr, hp⟩ := Table.find_some hfind
        exact ⟨r, hr, by simpa using hp⟩
    | upsert row => exact absurd rfl hne
    | delete h => exact absurd rfl hne
  | user o => cases o <;> exact absurd rfl hne
  | _ => exact absurd rfl hne

/-- A failed call finds nothing. -/
theorem ResetTrace.found_next_error (s : ResetTrace) (op : Op) (e : JsError) :
    (s.next op (.error e)).found = s.found := by
  cases op with
  | resetToken o => cases o <;> rfl
  | user o => cases o <;> rfl
  | _ => rfl

section Record

variable {q : Server ι} {i j : ι} {op : Op} {r : Except JsError op.Reply}
  {next : Except JsError op.Reply → Program Response}

/-- A call changes nothing about who else holds the token. -/
theorem Server.holds_record_ne (hj : j ≠ i) (w : World) :
    Server.Holds (q.record i op r next w) j ↔ q.Holds j := by
  have hresult : (q.record i op r next w).result j = q.result j := by
    unfold Pool.result
    simp only [Pool.record, Function.update_of_ne hj]
  unfold Server.Holds
  rw [Server.resetTrace_record, Function.update_of_ne hj, hresult]

/-- A call that finds no token lets nobody hold one who did not before. -/
theorem Server.holds_of_record (hi : q.rest i = .call op next)
    (hfound : ((q.resetTrace i).next op r).found = (q.resetTrace i).found) (w : World)
    (h : Server.Holds (q.record i op r next w) j) : q.Holds j := by
  by_cases hj : j = i
  · subst hj
    obtain ⟨h, -⟩ := h
    rw [Server.resetTrace_record, Function.update_self] at h
    have hnone : q.result j = none := by
      unfold Pool.result
      rw [hi]
    exact ⟨hfound.symm.trans h, .inl hnone⟩
  · exact (Server.holds_record_ne hj w).mp h

end Record

section Runs

variable {token : Text} {q : Server ι} (htoken : ∀ i, (resets i).token = token)
  (hq : Server.Reaches env (LooksUpAlone (env.sha256 token))
    (Server.start env SavingUserRepository (fun i ↦ .resetPassword (resets i)) w) q)
include hq

/-- A reset has saved a user only if it has found its token. -/
theorem found_of_saved (i : ι) :
    (q.resetTrace i).saved = true → (q.resetTrace i).found = true := by
  apply hq.phase_keeps (serve_resetPassword_traces env (resets i))
    (J := fun s : ResetTrace ↦ s.saved = true → s.found = true)
  · intro h
    cases h
  · intro s op r hs hop
    cases op with
    | user o =>
      cases o with
      | update id data => exact fun _ ↦ hop
      | _ => exact hs
    | resetToken o =>
      cases o with
      | findUnique h =>
        rcases r with e | _ | row
        · exact hs
        · exact hs
        · exact fun _ ↦ rfl
      | upsert row => exact hs
      | delete h => exact hs
    | _ => exact hs

include htoken

/-- The run: when every lookup is made alone, at most one run holds the token. -/
theorem holds_unique : ∀ i j, q.Holds i → q.Holds j → i = j := by
  apply hq.invariant (J := fun q : Server ι ↦ ∀ i j, q.Holds i → q.Holds j → i = j)
  · rintro i j ⟨hfound, -⟩
    cases hfound
  · intro (q : Server ι) k op next hreach hunique halone hk i j hi hj
    by_cases hfound : ((q.resetTrace k).next op (exec env q.world op).1).found =
        (q.resetTrace k).found
    · exact hunique i j (Server.holds_of_record hk hfound _ hi)
        (Server.holds_of_record hk hfound _ hj)
    · -- the token was found just now, so nobody else holds it
      obtain ⟨h, rfl, hstored⟩ := stored_of_found hfound
      have hown : h = env.sha256 token := by
        rw [← htoken k]
        exact hreach.allows (serve_resetPassword_traces env (resets k)) hk
      have hlookup : (q.pending k).bind Op.resetLookup = some (env.sha256 token) := by
        rw [Pool.pending_of_rest hk, ← hown]
        rfl
      have hothers : ∀ j, j ≠ k → ¬ q.Holds j := halone hlookup (hown ▸ hstored)
      have hik : i = k := by
        by_contra hne
        exact hothers i hne ((Server.holds_record_ne hne _).mp hi)
      have hjk : j = k := by
        by_contra hne
        exact hothers j hne ((Server.holds_record_ne hne _).mp hj)
      rw [hik, hjk]
  · intro (q : Server ι) k e op next _ hunique _ hk i j hi hj
    have hfound := (q.resetTrace k).found_next_error op e
    exact hunique i j (Server.holds_of_record hk hfound _ hi)
      (Server.holds_of_record hk hfound _ hj)
  · intro q t hunique _
    exact hunique

end Runs

/-- Run `i` has handed a changed user to `save`. -/
def Server.HandedToSave (q : Server ι) (i : ι) : Prop := (q.resetTrace i).saved = true

instance (q : Server ι) (i : ι) : Decidable (q.HandedToSave i) :=
  inferInstanceAs (Decidable (_ = _))

/-- Among resets that present one token, whatever calls fail, at most one hands a user to `save`
if the token is looked up only while nobody else holds it. -/
theorem reset_token_single_use (env : Env) (resets : ι → ResetPasswordRequest) (token : Text)
    (w : World) (htoken : ∀ i, (resets i).token = token) (q : Server ι)
    (hq : Server.Reaches env (LooksUpAlone (env.sha256 token))
      (Server.start env SavingUserRepository (fun i ↦ .resetPassword (resets i)) w) q)
    (i j : ι) (hi : q.HandedToSave i) (hj : q.HandedToSave j) : i = j :=
  holds_unique htoken hq i j ⟨found_of_saved hq i hi, .inr hi⟩ ⟨found_of_saved hq j hj, .inr hj⟩

/-- Two resets of `alice` with one token. -/
def Sample.twoResets : Bool → ResetPasswordRequest :=
  fun i ↦ if i then { reset with newPasswordRaw := "Third-horse-3" } else reset

/-- The server of these resets after the given turns. -/
def Sample.resetRace (turns : List (ServerTurn Bool)) : Server Bool :=
  (Server.start Sample.env SavingUserRepository (fun i ↦ .resetPassword (twoResets i))
    resetRequested).play (exec Sample.env) World.pass turns

/-- One reset after the other: the second one comes too late. -/
theorem reset_token_single_use_sequential :
    let q := Sample.resetRace (List.replicate 12 (.act false) ++ List.replicate 12 (.act true))
    q.HandedToSave false ∧ ∀ i, q.HandedToSave i → i = false := by
  intro q
  have hfirst : q.HandedToSave false := by decide +kernel
  refine ⟨hfirst, fun i hi ↦ ?_⟩
  exact reset_token_single_use Sample.env Sample.twoResets Sample.reset.token Sample.resetRequested
    (by decide +kernel) q (Pool.reaches_play _ (by decide +kernel)) i false hi hfirst

/-- No call fails except deletions of reset tokens. -/
def OnlyDeletionsFail {ι : Type} (q : Server ι) : ServerTurn ι → Prop
  | .fail i _ => (q.pending i).bind Op.area = some .resetDelete
  | _ => True

instance {ι : Type} (q : Server ι) : (t : ServerTurn ι) → Decidable (OnlyDeletionsFail q t)
  | .act _ => isTrue trivial
  | .fail i _ => inferInstanceAs (Decidable ((q.pending i).bind Op.area = some .resetDelete))
  | .pass _ => isTrue trivial

/-- Two resets look the token up before either deletes it, and both hand a user to `save`. -/
theorem reset_token_used_twice :
    ¬ ∀ q, Server.Reaches Sample.env OnlyDeletionsFail
        (Server.start Sample.env SavingUserRepository (fun i ↦ .resetPassword (Sample.twoResets i))
          Sample.resetRequested) q →
      ∀ i j, q.HandedToSave i → q.HandedToSave j → i = j := by
  intro h
  have hboth := h (Sample.resetRace ([.act false, .act true] ++ List.replicate 12 (.act false) ++
    List.replicate 12 (.act true))) (Pool.reaches_play _ (by decide +kernel)) false true
    (by decide +kernel) (by decide +kernel)
  cases hboth

end Bankos
