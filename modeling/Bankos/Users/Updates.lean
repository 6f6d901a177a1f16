import Bankos.Users.ResetPassword
import Bankos.Users.Snapshots

/-!
# Concurrent updates of a user

`PrismaUserRepository.update` writes every mutable column, so a request in flight can put back
what another one has changed since. The columns that guard an account are safe as long as each
write finds them as its request has loaded them.
-/

namespace Bankos

open Js Jwt Effects Storage Prog

variable {ι : Type} {env : Env} {reqs : ι → Request} {w : World}

/-! ### What is asked of a write -/

/-- Only a password reset is to change the password hash. -/
def Request.resets : Request → Bool
  | .resetPassword _ => true
  | _ => false

/-- Only a verification is to change the verification of the email. -/
def Request.verifies : Request → Bool
  | .verifyEmail _ => true
  | _ => false

/-- The columns that the request is not about to change itself are in the stored `row` as they
are in the row it has loaded: the hash unless it resets the password, the verification of the
email unless it verifies, and a lock unless it counts the fifth failure. -/
def Snapshot.Current (s : Snapshot) (req : Request) (row : UserRow) : Prop :=
  ∀ loaded ∈ s.loaded,
    (req.resets = true ∨ loaded.passwordHash = row.passwordHash) ∧
      (req.verifies = true ∨ (row.emailVerified = true → loaded.emailVerified = true)) ∧
      (row.isLocked = true →
        loaded.isLocked = true ∨ s.valid = some false ∧ 5 ≤ loaded.failedLoginAttempts + 1)

instance (s : Snapshot) (req : Request) (row : UserRow) : Decidable (s.Current req row) :=
  inferInstanceAs (Decidable (∀ loaded ∈ s.loaded, _ ∧ _ ∧ _))

/-- A request that is about to update a user finds the row current. -/
def WritesCurrent [DecidableEq ι] (reqs : ι → Request) (q : Server ι) :
    ServerTurn ι → Prop
  | .act i => ∀ id ∈ q.updating i, ∀ row ∈ q.world.users.rows, row.id = id →
      (q.snapshot i).Current (reqs i) row
  | _ => True

instance [DecidableEq ι] (q : Server ι) : (t : ServerTurn ι) → Decidable (WritesCurrent reqs q t)
  | .act i => inferInstanceAs (Decidable (∀ id ∈ q.updating i, ∀ row ∈ q.world.users.rows, _ → _))
  | .fail _ _ => isTrue trivial
  | .pass _ => isTrue trivial

/-! ### One write -/

/-- The hash that a logged call has put in place for the user `id`, if it is the write of a
password reset. -/
def resetHash (reqs : ι → Request) (id : String) : Entry Api JsError ι → Option String
  | ⟨i, .user (.update id' data), .ok _⟩ =>
    if (reqs i).resets = true ∧ id' = id then some data.passwordHash else none
  | _ => none

/-- What a request writes over a current row: the hash is the one that was there, or the request
resets it, and neither the verification of the email nor a lock is taken back. -/
theorem Snapshot.Current.written {s : Snapshot} {req : Request} {row loaded : UserRow}
    {data : UserData} (hcurrent : s.Current req row) (hloaded : s.loaded = some loaded)
    (hdata : req.writes s loaded data) :
    (req.resets = true ∨ data.passwordHash = row.passwordHash) ∧
      (row.emailVerified = true → data.emailVerified = true) ∧
      (row.isLocked = true → data.isLocked = true) := by
  obtain ⟨hhash, hverified, hlocked⟩ := hcurrent loaded hloaded
  cases req with
  | login r =>
    obtain ⟨hunlocked, h⟩ := hdata
    have hhash : loaded.passwordHash = row.passwordHash := by simpa [Request.resets] using hhash
    have hverified : row.emailVerified = true → loaded.emailVerified = true := by
      simpa [Request.verifies] using hverified
    rcases h with ⟨hvalid, rfl⟩ | ⟨hvalid, rfl⟩
    · refine ⟨.inr hhash, hverified, fun hrow ↦ ?_⟩
      -- the password was right, so the lock is as it was loaded
      rcases hlocked hrow with h | ⟨h, -⟩
      · exact h
      · rw [hvalid] at h
        cases h
    · refine ⟨.inr hhash, hverified, fun hrow ↦ ?_⟩
      rcases hlocked hrow with h | ⟨-, h⟩
      · rw [hunlocked] at h
        cases h
      · exact decide_eq_true h
  | resetPassword r =>
    obtain ⟨hvalid, hash, rfl⟩ := hdata
    have hverified : row.emailVerified = true → loaded.emailVerified = true := by
      simpa [Request.verifies] using hverified
    refine ⟨.inl rfl, hverified, fun hrow ↦ ?_⟩
    rcases hlocked hrow with h | ⟨h, -⟩
    · exact h
    · rw [hvalid] at h
      cases h
  | verifyEmail r =>
    obtain ⟨hvalid, rfl⟩ := hdata
    have hhash : loaded.passwordHash = row.passwordHash := by simpa [Request.resets] using hhash
    refine ⟨.inr hhash, fun _ ↦ rfl, fun hrow ↦ ?_⟩
    rcases hlocked hrow with h | ⟨h, -⟩
    · exact h
    · rw [hvalid] at h
      cases h
  | _ => exact hdata.elim

/-- What has become of the row `r` after a logged call. -/
structure UserRow.Guarded (reqs : ι → Request) (e : Entry Api JsError ι) (r s : UserRow) :
    Prop where
  id : s.id = r.id
  passwordHash : s.passwordHash = (resetHash reqs r.id e).getD r.passwordHash
  emailVerified : r.emailVerified = true → s.emailVerified = true
  isLocked : r.isLocked = true → s.isLocked = true

/-- A call that has not written the row leaves it guarded. -/
theorem UserRow.Guarded.refl {e : Entry Api JsError ι} {r : UserRow}
    (h : resetHash reqs r.id e = none) : r.Guarded reqs e r :=
  ⟨rfl, by rw [h]; rfl, fun hr ↦ hr, fun hr ↦ hr⟩

/-- A call that is not an update is no reset. -/
theorem resetHash_of_area {id : String} {i : ι} {op : Op} {r : Except JsError op.Reply}
    (h : op.area ≠ some .userWrite) : resetHash reqs id ⟨i, op, r⟩ = none := by
  cases op with
  | user o =>
    cases o with
    | update id data => exact absurd rfl h
    | _ => rfl
  | _ => rfl

/-- The step: every stored row is guarded by the next answered call, when writes are current. -/
theorem users_guarded [DecidableEq ι] {q : Server ι} {ok : Server ι → ServerTurn ι → Prop}
    (hq : Server.Reaches env ok (Server.start env SavingUserRepository reqs w) q) {i : ι}
    {op : Op} {next : Except JsError op.Reply → Program Response}
    (hi : q.rest i = .call op next) (hcurrent : WritesCurrent reqs q (.act i)) {r : UserRow}
    (hr : r ∈ q.world.users) :
    ∃ s ∈ (exec env q.world op).2.users,
      r.Guarded reqs ⟨i, op, (exec env q.world op).1⟩ s := by
  by_cases harea : op.area = some .userWrite
  · have hallow : (reqs i).mayCall env (q.snapshot i) op :=
      hq.allows (serve_snapshots env (reqs i)) hi
    cases op with
    | user o =>
      cases o with
      | create data => exact hallow.elim
      | update id data =>
        obtain ⟨-, loaded, hloaded, -, hdata⟩ := hallow
        rcases UserOp.exec_update env q.world.users id data with h | ⟨hnone, h⟩
        · refine ⟨r.write id data, ?_, ?_⟩
          · simp only [exec, h]
            exact UserTable.mem_write.mpr ⟨r, hr, rfl⟩
          · simp only [exec, h]
            unfold UserRow.write
            split
            · next hid =>
              have hrow := hcurrent id (Server.updating_of_rest hi) r hr hid
              obtain ⟨hhash, hverified, hlocked⟩ := hrow.written hloaded hdata
              constructor
              · rfl
              · show data.passwordHash = (if _ then _ else _ : Option String).getD _
                by_cases hresets : (reqs i).resets = true
                · rw [if_pos ⟨hresets, hid.symm⟩]
                  rfl
                · rw [if_neg fun h ↦ hresets h.1]
                  exact hhash.resolve_left hresets
              · exact hverified
              · exact hlocked
            · next hid =>
              apply UserRow.Guarded.refl
              exact if_neg fun h ↦ hid h.2.symm
        · refine ⟨r, ?_, ?_⟩
          · simp only [exec, h]
            exact hr
          · simp only [exec, h]
            exact .refl rfl
      | findUniqueById id => cases harea
      | findUniqueByEmail email => cases harea
      | count email => cases harea
    | hasher o => cases o <;> cases harea
    | resetToken o => cases o <;> cases harea
    | role o => cases o <;> cases harea
    | permission o => cases o <;> cases harea
    | _ => cases harea
  · refine ⟨r, ?_, .refl (resetHash_of_area harea)⟩
    rw [exec_users env q.world harea]
    exact hr

/-! ### Runs -/

/-- The hash that the latest password reset of the user `id` in the log has written; `hash` when
there is none. -/
def lastReset (reqs : ι → Request) (id hash : String) (log : List (Entry Api JsError ι)) : String :=
  log.foldl (fun hash e ↦ (resetHash reqs id e).getD hash) hash

/-- One more entry in the log. -/
theorem lastReset_append (reqs : ι → Request) (id hash : String)
    (log : List (Entry Api JsError ι)) (e : Entry Api JsError ι) :
    lastReset reqs id hash (log ++ [e]) =
      (resetHash reqs id e).getD (lastReset reqs id hash log) := by
  simp only [lastReset, List.foldl_append, List.foldl_cons, List.foldl_nil]

/-- What has become of the row `r` after all the calls in `log`. -/
structure UserRow.Kept (reqs : ι → Request) (log : List (Entry Api JsError ι)) (r s : UserRow) :
    Prop where
  id : s.id = r.id
  passwordHash : s.passwordHash = lastReset reqs r.id r.passwordHash log
  emailVerified : r.emailVerified = true → s.emailVerified = true
  isLocked : r.isLocked = true → s.isLocked = true

/-- One more call. -/
theorem UserRow.Kept.append {log : List (Entry Api JsError ι)} {e : Entry Api JsError ι}
    {r s s' : UserRow} (h : r.Kept reqs log s) (he : s.Guarded reqs e s') :
    r.Kept reqs (log ++ [e]) s' where
  id := he.id.trans h.id
  passwordHash := by rw [he.passwordHash, h.passwordHash, h.id, lastReset_append]
  emailVerified hr := he.emailVerified (h.emailVerified hr)
  isLocked hr := he.isLocked (h.isLocked hr)

/-- The run: every stored row is kept, when writes are current. -/
theorem users_kept [DecidableEq ι] {p q : Server ι}
    (hp : Server.Reaches env (WritesCurrent reqs)
      (Server.start env SavingUserRepository reqs w) p)
    (hq : Server.Reaches env (WritesCurrent reqs) p q) :
    ∃ l, q.log = p.log ++ l ∧
      ∀ r ∈ p.world.users, ∃ s ∈ q.world.users, r.Kept reqs l s := by
  apply hq.invariant (J := fun q ↦ ∃ l, q.log = p.log ++ l ∧
    ∀ r ∈ p.world.users, ∃ s ∈ q.world.users, r.Kept reqs l s)
  · exact ⟨[], by simp, fun r hr ↦ ⟨r, hr, rfl, rfl, fun h ↦ h, fun h ↦ h⟩⟩
  · rintro q i op next hreach ⟨l, hl, h⟩ hcurrent hi
    refine ⟨l ++ [⟨i, op, (exec env q.world op).1⟩], by simp [Pool.record, hl], fun r hr ↦ ?_⟩
    obtain ⟨s, hs, hkept⟩ := h r hr
    obtain ⟨s', hs', hguarded⟩ := users_guarded (hp.trans hreach) hi hcurrent hs
    exact ⟨s', hs', hkept.append hguarded⟩
  · rintro q i e op next - ⟨l, hl, h⟩ - hi
    refine ⟨l ++ [⟨i, op, .error e⟩], by simp [Pool.record, hl], fun r hr ↦ ?_⟩
    obtain ⟨s, hs, hkept⟩ := h r hr
    refine ⟨s, hs, hkept.append (.refl ?_)⟩
    unfold resetHash
    split
    · next heq => cases heq
    · rfl
  · rintro q t ⟨l, hl, h⟩ -
    exact ⟨l, hl, h⟩

/-- The security fields of all users in the pool `q`: the password hash is the one of the latest
reset since the world `w`, and the flags that were set in the pool `p` are still set. -/
structure SecurityFieldsKept (reqs : ι → Request) (w : World) (p q : Server ι) : Prop where
  passwordHash : ∀ u ∈ w.users, ∃ s ∈ q.world.users, s.id = u.id ∧
    s.passwordHash = lastReset reqs u.id u.passwordHash q.log
  emailVerified : ∀ r ∈ p.world.users, ∃ s ∈ q.world.users, s.id = r.id ∧
    (r.emailVerified = true → s.emailVerified = true)
  isLocked : ∀ r ∈ p.world.users, ∃ s ∈ q.world.users, s.id = r.id ∧
    (r.isLocked = true → s.isLocked = true)

/-- When every write finds its row current, no update of a security field is lost. -/
theorem security_fields_kept [DecidableEq ι] (env : Env) (reqs : ι → Request) (w : World)
    (p q : Server ι)
    (hp : Server.Reaches env (WritesCurrent reqs)
      (Server.start env SavingUserRepository reqs w) p)
    (hq : Server.Reaches env (WritesCurrent reqs) p q) :
    SecurityFieldsKept reqs w p q := by
  obtain ⟨l, hl, hall⟩ := users_kept .refl (hp.trans hq)
  obtain ⟨_, _, hsince⟩ := users_kept hp hq
  constructor
  · intro u hu
    obtain ⟨s, hs, hkept⟩ := hall u hu
    have hlog : q.log = l := hl
    rw [hlog]
    exact ⟨s, hs, hkept.id, hkept.passwordHash⟩
  · intro r hr
    obtain ⟨s, hs, hkept⟩ := hsince r hr
    exact ⟨s, hs, hkept.id, hkept.emailVerified⟩
  · intro r hr
    obtain ⟨s, hs, hkept⟩ := hsince r hr
    exact ⟨s, hs, hkept.id, hkept.isLocked⟩

/-- A login and a password reset of `alice`. -/
def Sample.loginAndReset : Bool → Request :=
  fun i ↦ if i then .resetPassword reset else .login login

/-- The reset is served to its end before the login begins. -/
def Sample.resetThenLogin : List (ServerTurn Bool) :=
  List.replicate 12 (.act true) ++ List.replicate 12 (.act false)

/-- A reset and a login after it keep the security fields. -/
theorem security_fields_kept_sequential :
    let start := Server.start Sample.env SavingUserRepository Sample.loginAndReset
      Sample.resetRequested
    SecurityFieldsKept Sample.loginAndReset Sample.resetRequested start
      (start.play (exec Sample.env) World.pass Sample.resetThenLogin) :=
  security_fields_kept Sample.env Sample.loginAndReset Sample.resetRequested _ _ .refl
    (Pool.reaches_play Sample.resetThenLogin (by decide +kernel))

/-- The login loads the user and checks the old password, the reset saves the new password, and
then the login writes what it has loaded. -/
def Sample.resetDuringLogin : List (ServerTurn Bool) :=
  List.replicate 2 (.act false) ++ List.replicate 5 (.act true) ++ [.act false]

/-- A login in flight puts back the password hash that a reset has replaced. -/
theorem security_fields_not_kept :
    ¬ ∀ p q : Server Bool,
      Server.Reaches Sample.env anyTurn (Server.start Sample.env SavingUserRepository
        Sample.loginAndReset Sample.resetRequested) p →
      Server.Reaches Sample.env anyTurn p q →
      SecurityFieldsKept Sample.loginAndReset Sample.resetRequested p q := by
  intro h
  have hkept := h _ _ .refl (Pool.reaches_play_any _ Sample.resetDuringLogin)
  have halice : Sample.alice ∈ Sample.resetRequested.users.rows := List.mem_singleton.mpr rfl
  obtain ⟨s, hs, hid, hhash⟩ := hkept.passwordHash Sample.alice halice
  have hold : ∀ s ∈ ((Server.start Sample.env SavingUserRepository Sample.loginAndReset
      Sample.resetRequested).play (exec Sample.env) World.pass
        Sample.resetDuringLogin).world.users.rows,
      s.passwordHash = Sample.alice.passwordHash := by
    decide +kernel
  have hnew : lastReset Sample.loginAndReset Sample.alice.id Sample.alice.passwordHash
      ((Server.start Sample.env SavingUserRepository Sample.loginAndReset
        Sample.resetRequested).play (exec Sample.env) World.pass
          Sample.resetDuringLogin).log ≠ Sample.alice.passwordHash := by
    decide +kernel
  rw [hold s hs] at hhash
  exact hnew hhash.symm

end Bankos
