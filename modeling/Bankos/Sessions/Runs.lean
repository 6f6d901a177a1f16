import Bankos.Sessions.Services

/-!
# Sessions along a run

What one allowed call does to an accounted world, and from it what any interleaving of
requests that keep to the session ledger does: the ledgers go on accounting for the table,
and the table moves forward.
-/

namespace Bankos

open Js Jwt Effects Storage Prog

variable {ι : Type} [DecidableEq ι] {env : Env}

namespace Accounted

variable {w : World} {L : ι → Ledger} {i : ι}

omit [DecidableEq ι] in
/-- The three outcomes of an allowed write: a new row, the flag of a stored row, or nothing. -/
theorem upsert_cases (h : Accounted env w L) {row : DeviceSessionRow}
    (hop : (L i).allows (.session (.upsert row))) :
    (row.isRevoked = false ∧ row.id ∈ (L i).drawn ∧
        ∃ t, exec env w (.session (.upsert row)) = (.ok (), { w with deviceSessions := t }) ∧
          w.deviceSessions.insert row = some t) ∨
      (row.isRevoked = true ∧ ∃ s ∈ w.deviceSessions, row = { s with isRevoked := true } ∧
        exec env w (.session (.upsert row)) =
          (.ok (), { w with deviceSessions := w.deviceSessions.revoke row.id })) ∨
      ∃ e, exec env w (.session (.upsert row)) = (.error e, w) := by
  rcases hop with ⟨hact, hdrawn⟩ | ⟨r, hr, -, hrow⟩
  · rcases SessionOp.exec_upsert_new env w.users w.now
      ((h.fits i).free _ hdrawn) with ⟨t, he, hi⟩ | ⟨e, he⟩
    · exact .inl ⟨hact, hdrawn, t, by simp [exec, he], hi⟩
    · exact .inr (.inr ⟨e, by simp [exec, he]⟩)
  · obtain ⟨s, hs, hrs⟩ := (h.fits i).loaded r hr
    have hid : s.id = row.id := by rw [hrow, hrs.keys.1]
    have hrow' : row = { s with isRevoked := true } := by
      rcases hrs with rfl | rfl
      · exact hrow
      · exact hrow
    have hrev : row.isRevoked = true := by rw [hrow']
    refine .inr (.inl ⟨hrev, s, hs, hrow', ?_⟩)
    have he := SessionOp.exec_upsert_known env w.users w.now hs hid
    rw [hrev] at he
    simp only [exec, he]
    rfl

omit [DecidableEq ι] in
/-- Any call but a write of the sessions or a draw only loads stored rows. -/
theorem next_load (env : Env) (w : World) (l : Ledger) {op : Op}
    (hup : ∀ row, op ≠ .session (.upsert row)) (hdraw : op ≠ .system .randomUUID) :
    ∃ rows : List DeviceSessionRow, (∀ r ∈ rows, r ∈ w.deviceSessions) ∧
      l.next op (Bankos.exec env w op).1 = { l with loaded := rows ++ l.loaded } := by
  cases op with
  | session o =>
    cases o with
    | upsert row => exact absurd rfl (hup row)
    | findUniqueByRefreshToken t =>
      cases he : (Bankos.exec env w (.session (.findUniqueByRefreshToken t))).1 with
      | error e => exact ⟨[], by simp, Ledger.next_error ..⟩
      | ok found =>
        cases found with
        | none => exact ⟨[], by simp, rfl⟩
        | some r =>
          exact ⟨[r], by simpa using (mem_of_findUniqueByRefreshToken he).1, rfl⟩
    | findUniqueById id =>
      cases he : (Bankos.exec env w (.session (.findUniqueById id))).1 with
      | error e => exact ⟨[], by simp, Ledger.next_error ..⟩
      | ok found =>
        cases found with
        | none => exact ⟨[], by simp, rfl⟩
        | some r => exact ⟨[r], by simpa using mem_of_findUniqueById he, rfl⟩
    | findManyActive userId =>
      cases he : (Bankos.exec env w (.session (.findManyActive userId))).1 with
      | error e => exact ⟨[], by simp, Ledger.next_error ..⟩
      | ok rows => exact ⟨rows, mem_of_findManyActive he, rfl⟩
  | system o =>
    cases o with
    | randomUUID => exact absurd rfl hdraw
    | dateNow => exact ⟨[], by simp, rfl⟩
    | randomBytes length => exact ⟨[], by simp, rfl⟩
  | _ => exact ⟨[], by simp, rfl⟩

/-- One allowed call keeps the ledgers accounting for the table, and moves it forward. -/
theorem exec (h : Accounted env w L) {op : Op} (hop : (L i).allows op) :
    Accounted env (Bankos.exec env w op).2
        (Function.update L i ((L i).next op (Bankos.exec env w op).1)) ∧
      w.deviceSessions.Advances (Bankos.exec env w op).2.deviceSessions := by
  by_cases hup : ∃ row, op = .session (.upsert row)
  · obtain ⟨row, rfl⟩ := hup
    rcases h.upsert_cases hop with ⟨hact, hdrawn, t, he, hi⟩ | ⟨hrev, s, hs, hrow, he⟩ | ⟨e, he⟩
    · rw [he]
      constructor
      · simp only [Ledger.next, hact]
        exact h.create hdrawn (fun s ↦ Table.mem_insert hi) rfl
      · exact DeviceSessionTable.advances_insert hi
    · rw [he]
      have hadv := DeviceSessionTable.advances_revoke w.deviceSessions row.id
      constructor
      · simp only [Ledger.next, hrev, if_true]
        refine h.revoke hrev hadv (fun s hs ↦ ?_) ?_ rfl
        · obtain ⟨r, hr, rfl⟩ := DeviceSessionTable.mem_revoke.mp hs
          exact ⟨r, hr, (DeviceSessionRow.write_keys _ _ _).1.symm⟩
        · refine DeviceSessionTable.mem_revoke.mpr ⟨s, hs, ?_⟩
          rw [hrow]
          simp [DeviceSessionRow.write]
      · exact hadv
    · rw [he, Ledger.next_error, Function.update_eq_self]
      exact ⟨h, .refl _⟩
  · have hup : ∀ row, op ≠ .session (.upsert row) := fun row he ↦ hup ⟨row, he⟩
    have hs := exec_deviceSessions env w hup
    constructor
    · by_cases hdraw : op = .system .randomUUID
      · subst hdraw
        exact h.draw
      · obtain ⟨rows, hrows, hnext⟩ := next_load env w (L i) hup hdraw
        rw [hnext]
        exact (h.load hrows).quiet hs (exec_draws_le env w op)
    · exact by rw [hs]; exact .refl _

end Accounted

/-! ### Runs of programs that keep the ledger -/

/-- In every interleaving of programs that keep the session ledger, the ledgers account for the
sessions. -/
theorem accounted_of_keeps {α : Type} {ok : Pool Api JsError ι α World → Turn JsError ι Nat → Prop}
    {rest : ι → Program α} {post : Ledger → Except JsError α → Prop} {w : World}
    {q : Pool Api JsError ι α World} (h : Pool.Reaches (exec env) World.pass ok (.start w rest) q)
    (hrest : ∀ i, (rest i).Obeys sessionLedger {} post) (hw : FreshUuids env w) :
    Accounted env q.world (Pool.phase sessionLedger {} q.log) := by
  refine h.invariant (J := fun q ↦ Accounted env q.world (Pool.phase sessionLedger {} q.log))
    (.initial hw) ?_ ?_ ?_
  · intro q i op next hq hacc _ hi
    rw [Pool.phase_record]
    exact (hacc.exec (Pool.Reaches.allows hq (hrest i) hi)).1
  · intro q i e op next hq hacc _ hi
    rw [Pool.phase_record]
    change Accounted env q.world (Function.update (Pool.phase sessionLedger {} q.log) i
      ((Pool.phase sessionLedger {} q.log i).next op (.error e)))
    rw [Ledger.next_error, Function.update_eq_self]
    exact hacc
  · intro q t hacc _
    exact hacc.quiet rfl (Nat.le_refl _)

omit [DecidableEq ι] in
/-- What is in the ledger as revoked stays there. -/
theorem Ledger.mem_revoked_next {l : Ledger} {d : DeviceSessionRow} (h : d ∈ l.revoked) {op : Op}
    (r : Except JsError op.Reply) : d ∈ (l.next op r).revoked := by
  by_cases hup : ∃ row, op = .session (.upsert row)
  · obtain ⟨row, rfl⟩ := hup
    cases r with
    | error e => exact h
    | ok u =>
      show d ∈ Ledger.revoked (if row.isRevoked then _ else _)
      split
      · exact List.mem_cons_of_mem _ h
      · exact h
  · rw [(l.next_writes r fun row hop ↦ hup ⟨row, hop⟩).1]
    exact h

/-- A session that a program has saved as revoked is in its ledger. -/
theorem mem_revoked_of_answered {log : List (Entry Api JsError ι)} {i : ι} {d : DeviceSessionRow}
    (h : ⟨i, .session (.upsert d), .ok ()⟩ ∈ log) (hrevoked : d.isRevoked = true) :
    d ∈ (Pool.phase sessionLedger {} log i).revoked := by
  induction log using List.reverseRecOn with
  | nil => cases h
  | append_singleton log e ih =>
    rw [Pool.phase_append]
    rcases List.mem_append.mp h with h | h
    · split
      · exact Ledger.mem_revoked_next (ih h) e.reply
      · exact ih h
    · cases List.mem_singleton.mp h
      rw [if_pos rfl]
      show d ∈ Ledger.revoked (if d.isRevoked then _ else _)
      rw [if_pos hrevoked]
      exact List.mem_cons_self

/-! ### Runs of the server -/

/-- What a refresh that has returned has done: it has revoked the presented session. -/
def Request.Exchanged (env : Env) : Request → Ledger → Prop
  | .refresh token _ _, l => ∃ r ∈ l.revoked, r.refreshToken = env.sha256 token
  | _, _ => True

omit [DecidableEq ι] in
/-- A response is what its service returned, in a wrapper. -/
theorem ensures_respond {P : Protocol Api JsError} {l : P.Phase} {α : Type} {p : Program α}
    {f : α → Response} {Q : P.Phase → Prop} (h : Ensures P l p fun l' _ ↦ Q l') :
    Ensures P l (p >>= fun a ↦ pure (f a)) fun l' _ ↦ Q l' :=
  Ensures.bind (h.mono fun _ _ hQ ↦ ensures_pure hQ)

omit [DecidableEq ι] in
/-- Every request keeps the session ledger. -/
theorem serve_keeps {users : IUserRepository} (hu : users.Proper) (env : Env) (req : Request) :
    Ensures sessionLedger {} (serve env users req) fun l _ ↦ req.Exchanged env l := by
  have hweak : ∀ {α : Type} {m : Ledger → Prop} {p : Program α} {Q : Ledger → α → Prop},
      Ensures (sessionProtocol m) {} p Q → Ensures sessionLedger {} p Q :=
    fun h ↦ Obeys.allowing h fun _ _ ↦ Ledger.allows_of_allowsIf
  have hbeside : ∀ {α : Type} {p : Program α}, p.Uses Op.besideSessions →
      Ensures sessionLedger {} p fun _ _ ↦ True :=
    fun hp ↦ hweak (m := fun _ ↦ True) ((extends_of_uses hp _).mono fun _ _ _ ↦ trivial)
  cases req with
  | login r => exact ensures_respond (hweak (LoginService.execute_keeps hu env r _))
  | refresh token ip ua =>
    exact ensures_respond (hweak (RefreshTokenService.execute_keeps hu env token ip ua rfl))
  | logout r ip ua => exact ensures_respond (hweak (LogoutService.execute_keeps env r ip ua _))
  | resetPassword r =>
    exact ensures_respond (hweak (ResetPasswordService.execute_keeps hu env r _))
  | verifyEmail r =>
    exact ensures_respond (hbeside ((VerifyEmailService.execute_uses hu env r).mono
      fun _ h ↦ h.besideSessions (by simp)))
  | guarded guard req =>
    exact ensures_respond (hbeside ((Guard.handle_uses ..).mono
      fun _ h ↦ h.besideSessions (by simp)))
  | gateway a =>
    exact ensures_respond (hbeside ((Gateway.authMiddleware_uses ..).mono
      fun _ h ↦ h.besideSessions))

namespace Server

/-- The ledgers of all requests. -/
def ledger (q : Server ι) : ι → Ledger := Pool.phase sessionLedger {} q.log

variable {users : IUserRepository} {reqs : ι → Request} {w : World} {p q : Server ι}
  {ok ok' : Server ι → ServerTurn ι → Prop}

/-- What a request is about to do is allowed by its ledger. -/
theorem Reaches.allowed (hu : users.Proper) (h : Reaches env ok (start env users reqs w) q)
    {i : ι} {op : Op} {next : Except JsError op.Reply → Program Response}
    (hi : q.rest i = .call op next) : (q.ledger i).allows op :=
  Pool.Reaches.allows (P := sessionLedger) h (serve_keeps hu env (reqs i)) hi

/-- A refresh that has returned has revoked the presented session. -/
theorem Reaches.exchanged (hu : users.Proper) (h : Reaches env ok (start env users reqs w) q)
    {i : ι} {a : Response} (hi : q.Returned i a) : (reqs i).Exchanged env (q.ledger i) :=
  Pool.Reaches.post_of_done (P := sessionLedger) h (serve_keeps hu env (reqs i)) hi a rfl

/-- In every interleaving the ledgers account for the sessions. -/
theorem Reaches.accounted (hu : users.Proper) (h : Reaches env ok (start env users reqs w) q)
    (hw : FreshUuids env w) : Accounted env q.world q.ledger :=
  accounted_of_keeps h
    (fun i ↦ Obeys.mono (serve_keeps hu env (reqs i)) fun _ _ _ ↦ trivial) hw

/-- Between any two states of a run, the sessions move forward. -/
theorem Reaches.advances (hu : users.Proper) (hw : FreshUuids env w)
    (h : Reaches env ok (start env users reqs w) p) (h' : Reaches env ok' p q) :
    p.world.deviceSessions.Advances q.world.deviceSessions := by
  have hstart : Reaches env anyTurn (start env users reqs w) p :=
    Pool.Reaches.mono h fun _ _ _ ↦ trivial
  refine Pool.Reaches.invariant (J := fun q ↦ p.world.deviceSessions.Advances
    q.world.deviceSessions) h' (.refl _) ?_ ?_ ?_
  · intro q i op next hq hadv _ hi
    have hall := hstart.trans (Pool.Reaches.mono hq fun _ _ _ ↦ trivial)
    exact hadv.trans ((Reaches.accounted hu hall hw).exec (Reaches.allowed hu hall hi)).2
  · intro q i e op next _ hadv _ _
    exact hadv
  · intro q t hadv _
    exact hadv

end Server
end Bankos
