import Bankos.Auth.Alone
import Bankos.Sessions.Runs

/-!
# Refresh tokens

What holds of `RefreshTokenService.execute` in every interleaving: when a refresh token can be
exchanged twice, and what happens when it is presented again.
-/

namespace Bankos

open Js Jwt Effects Storage Prog

variable {ι : Type} [DecidableEq ι] {env : Env}

/-! ### Single use -/

/-- Sessions are revoked by one request each; whoever creates a session has revoked one with
the hash `h`, and creates no second one; and every session was there in `w₀` or was created. -/
structure ExchangedOnce (w₀ w : World) (h : Text) (L : ι → Ledger) : Prop where
  once : ∀ i j, ∀ r ∈ (L i).revoked, ∀ s ∈ (L j).revoked, r.id = s.id → i = j
  paid : ∀ i, (L i).created ≠ [] → ∃ r ∈ (L i).revoked, r.refreshToken = h
  single : ∀ i, (L i).created.length ≤ 1
  known : ∀ s ∈ w.deviceSessions, (∃ r ∈ w₀.deviceSessions, r.id = s.id) ∨
    ∃ i, ∃ r ∈ (L i).created, r.id = s.id

namespace ExchangedOnce

variable {w₀ w w' : World} {h : Text} {L : ι → Ledger} {i : ι}

/-- A call that adds nothing to the writes and no session to the table. -/
theorem quiet (hx : ExchangedOnce w₀ w h L) {l : Ledger} (hr : l.revoked = (L i).revoked)
    (hc : l.created = (L i).created) (hs : w'.deviceSessions = w.deviceSessions) :
    ExchangedOnce w₀ w' h (Function.update L i l) := by
  have hrev : ∀ j, (Function.update L i l j).revoked = (L j).revoked :=
    (Function.forall_update_iff L fun j l ↦ l.revoked = (L j).revoked).mpr ⟨hr, fun _ _ ↦ rfl⟩
  have hcre : ∀ j, (Function.update L i l j).created = (L j).created :=
    (Function.forall_update_iff L fun j l ↦ l.created = (L j).created).mpr ⟨hc, fun _ _ ↦ rfl⟩
  constructor
  · intro j k
    rw [hrev, hrev]
    exact hx.once j k
  · intro j
    rw [hrev, hcre]
    exact hx.paid j
  · intro j
    rw [hcre]
    exact hx.single j
  · rw [hs]
    simp only [hcre]
    exact hx.known

/-- Revoking a session that nobody has revoked. -/
theorem revoke (hx : ExchangedOnce w₀ w h L) {row : DeviceSessionRow}
    (hnew : ∀ j, ∀ r ∈ (L j).revoked, r.id ≠ row.id)
    (hids : ∀ s ∈ w'.deviceSessions, ∃ r ∈ w.deviceSessions, r.id = s.id) :
    ExchangedOnce w₀ w' h
      (Function.update L i { L i with revoked := row :: (L i).revoked }) := by
  have hcre : ∀ j, (Function.update L i { L i with revoked := row :: (L i).revoked } j).created =
      (L j).created :=
    (Function.forall_update_iff L fun j l ↦ l.created = (L j).created).mpr
      ⟨rfl, fun _ _ ↦ rfl⟩
  have hrev : ∀ j, ∀ r ∈ (Function.update L i
      { L i with revoked := row :: (L i).revoked } j).revoked,
      r ∈ (L j).revoked ∨ r = row ∧ j = i := by
    refine (Function.forall_update_iff L fun j l ↦ ∀ r ∈ l.revoked,
      r ∈ (L j).revoked ∨ r = row ∧ j = i).mpr ⟨fun r hr ↦ ?_, fun j _ r hr ↦ .inl hr⟩
    rcases List.mem_cons.mp hr with rfl | hr
    · exact .inr ⟨rfl, rfl⟩
    · exact .inl hr
  constructor
  · intro j k r hr s hs he
    rcases hrev j r hr with hr' | ⟨rfl, rfl⟩
    · rcases hrev k s hs with hs' | ⟨rfl, rfl⟩
      · exact hx.once j k r hr' s hs' he
      · exact absurd he (hnew j r hr')
    · rcases hrev k s hs with hs' | ⟨-, rfl⟩
      · exact absurd he.symm (hnew k s hs')
      · rfl
  · intro j hj
    rw [hcre] at hj
    obtain ⟨r, hr, hh⟩ := hx.paid j hj
    refine ⟨r, ?_, hh⟩
    by_cases hji : j = i
    · subst hji
      rw [Function.update_self]
      exact List.mem_cons_of_mem _ hr
    · rwa [Function.update_of_ne hji]
  · intro j
    rw [hcre]
    exact hx.single j
  · intro s hs
    obtain ⟨r, hr, he⟩ := hids s hs
    simp only [hcre]
    rw [← he]
    exact hx.known r hr

/-- Creating the first session of a request that has revoked one with the hash `h`. -/
theorem create (hx : ExchangedOnce w₀ w h L) {row : DeviceSessionRow} {ids : List String}
    (hex : Exchanged h (L i))
    (hmem : ∀ s ∈ w'.deviceSessions, s ∈ w.deviceSessions ∨ s = row) :
    ExchangedOnce w₀ w' h (Function.update L i
      { L i with created := row :: (L i).created, drawn := ids }) := by
  have hrev : ∀ j, (Function.update L i
      { L i with created := row :: (L i).created, drawn := ids } j).revoked = (L j).revoked :=
    (Function.forall_update_iff L fun j l ↦ l.revoked = (L j).revoked).mpr ⟨rfl, fun _ _ ↦ rfl⟩
  constructor
  · intro j k
    rw [hrev, hrev]
    exact hx.once j k
  · intro j hj
    rw [hrev]
    by_cases hji : j = i
    · rw [hji]
      exact hex.2
    · rw [Function.update_of_ne hji] at hj
      exact hx.paid j hj
  · refine (Function.forall_update_iff L fun _ l ↦ l.created.length ≤ 1).mpr
      ⟨?_, fun j _ ↦ hx.single j⟩
    rw [List.length_cons, hex.1]
    exact Nat.le_refl _
  · intro s hs
    rcases hmem s hs with hs | rfl
    · refine (hx.known s hs).imp_right ?_
      rintro ⟨j, r, hr, he⟩
      refine ⟨j, r, ?_, he⟩
      by_cases hji : j = i
      · subst hji
        rw [Function.update_self]
        exact List.mem_cons_of_mem _ hr
      · rwa [Function.update_of_ne hji]
    · refine .inr ⟨i, s, ?_, rfl⟩
      rw [Function.update_self]
      exact List.mem_cons_self ..

/-- One call of a refresh that does not revoke a revoked session. -/
theorem exec (hx : ExchangedOnce w₀ w h L) (hacc : Accounted env w L) {op : Op}
    (hop : (L i).allowsIf (Exchanged h) op)
    (hfirst : ∀ row, op = .session (.upsert row) → row.isRevoked = true →
      ∀ s ∈ w.deviceSessions, s.id = row.id → s.isRevoked = false) :
    ExchangedOnce w₀ (Bankos.exec env w op).2 h
      (Function.update L i ((L i).next op (Bankos.exec env w op).1)) := by
  by_cases hup : ∃ row, op = .session (.upsert row)
  · obtain ⟨row, rfl⟩ := hup
    rcases hacc.upsert_cases (Ledger.allows_of_allowsIf hop) with
      ⟨hact, -, t, he, hi⟩ | ⟨hrev, s, hs, hrow, he⟩ | ⟨e, he⟩
    · have hex : Exchanged h (L i) := by
        rcases hop with ⟨-, hex⟩ | ⟨r, -, -, hrow⟩
        · exact hex
        · rw [hrow] at hact
          cases hact
      rw [he]
      simp only [Ledger.next, hact]
      exact hx.create hex fun s hs ↦ (Table.mem_insert hi).mp hs
    · rw [he]
      simp only [Ledger.next, hrev, if_true]
      refine hx.revoke (fun j r hr hid ↦ ?_) fun s hs ↦ ?_
      · obtain ⟨hrm, hrr⟩ := (hacc.fits j).revoked r hr
        rw [hfirst row rfl hrev r hrm hid] at hrr
        cases hrr
      · obtain ⟨r, hr, rfl⟩ := DeviceSessionTable.mem_revoke.mp hs
        exact ⟨r, hr, (DeviceSessionRow.write_keys _ _ _).1.symm⟩
    · rw [he, Ledger.next_error, Function.update_eq_self]
      exact hx
  · have hup : ∀ row, op ≠ .session (.upsert row) := fun row he ↦ hup ⟨row, he⟩
    obtain ⟨hr, hc⟩ := Ledger.next_writes (L i) (Bankos.exec env w op).1 hup
    exact hx.quiet hr hc (exec_deviceSessions env w hup)

end ExchangedOnce

/-- The session that a turn saves. -/
def Server.savedSession (q : Server ι) : ServerTurn ι → Option DeviceSessionRow
  | .act i =>
    match q.pending i with
    | some (.session (.upsert row)) => some row
    | _ => none
  | _ => none

/-- The turn does not save a session as revoked whose stored row is revoked already. -/
def RevokesUnrevoked (q : Server ι) (t : ServerTurn ι) : Prop :=
  ∀ row ∈ q.savedSession t, row.isRevoked = true →
    ∀ s ∈ q.world.deviceSessions.rows, s.id = row.id → s.isRevoked = false

instance (q : Server ι) (t : ServerTurn ι) : Decidable (RevokesUnrevoked q t) :=
  inferInstanceAs (Decidable (∀ row ∈ q.savedSession t, _))

/-- Refreshes of one token, from the clients `client`. -/
def refreshes (token : Text) (client : ι → String × String) (i : ι) : Request :=
  .refresh token (client i).1 (client i).2

/-- Refreshes of one token exchange it once as long as none revokes a revoked session. -/
theorem Server.Reaches.exchangedOnce {users : IUserRepository} (hu : users.Proper) {w : World}
    (hw : FreshUuids env w) {token : Text} {client : ι → String × String} {q : Server ι}
    (h : Server.Reaches env RevokesUnrevoked (.start env users (refreshes token client) w) q) :
    ExchangedOnce w q.world (env.sha256 token) q.ledger := by
  refine h.invariant
    (J := fun q ↦ ExchangedOnce w q.world (env.sha256 token) (Server.ledger q)) ?_ ?_ ?_ ?_
  · constructor
    · intro i j r hr
      exact absurd hr List.not_mem_nil
    · intro i hi
      exact absurd rfl hi
    · intro i
      exact Nat.zero_le _
    · exact fun s hs ↦ .inl ⟨s, hs, rfl⟩
  · intro q i op next hq hx hok hi
    have hkeeps : ∀ i, Ensures (sessionProtocol (Exchanged (env.sha256 token))) {}
        (serve env users (refreshes token client i)) fun _ _ ↦ True := fun i ↦
      ensures_respond ((RefreshTokenService.execute_keeps hu env token _ _ rfl).mono
        fun _ _ _ ↦ trivial)
    have hop : (Server.ledger q i).allowsIf (Exchanged (env.sha256 token)) op :=
      Pool.Reaches.allows (P := sessionProtocol (Exchanged (env.sha256 token))) hq (hkeeps i) hi
    unfold Server.ledger
    rw [Pool.phase_record]
    apply hx.exec (Server.Reaches.accounted hu hq hw) hop
    intro row hrow
    subst hrow
    refine hok row ?_
    simp only [Server.savedSession, Pool.pending_of_rest hi, Option.mem_def]
  · intro q i e op next _ hx _ _
    unfold Server.ledger
    rw [Pool.phase_record]
    refine hx.quiet ?_ ?_ rfl
    · exact congrArg Ledger.revoked (Ledger.next_error _ op e)
    · exact congrArg Ledger.created (Ledger.next_error _ op e)
  · intro q t hx _
    exact ⟨hx.once, hx.paid, hx.single, hx.known⟩

/-- A session that was not there in the world `w`. -/
def NewSession (w : World) (r : DeviceSessionRow) : Prop :=
  ∀ s ∈ w.deviceSessions.rows, s.id ≠ r.id

/-- Single use, for any number of concurrent refreshes of one token over any store: while no
refresh revokes a session that is revoked already, at most one of them returns, and at most
one session that can be used is created. -/
theorem refreshToken_single_use (env : Env) (w : World) (hw : FreshUuids env w) (token : Text)
    (client : ι → String × String) (q : Server ι)
    (h : Server.Reaches env RevokesUnrevoked
      (.start env PrismaUserRepository (refreshes token client) w) q) :
    (∀ i j a b, q.Returned i a → q.Returned j b → i = j) ∧
      ∀ r ∈ q.world.deviceSessions, ∀ s ∈ q.world.deviceSessions, NewSession w r →
        NewSession w s → r.isRevoked = false → s.isRevoked = false → r = s := by
  have hu := PrismaUserRepository.proper
  have hacc := Server.Reaches.accounted hu h hw
  have hx := Server.Reaches.exchangedOnce hu hw h
  -- two revoked sessions with the presented hash are one session, so one request revoked them
  have hone : ∀ i j, (∃ r ∈ (q.ledger i).revoked, r.refreshToken = env.sha256 token) →
      (∃ s ∈ (q.ledger j).revoked, s.refreshToken = env.sha256 token) → i = j := by
    rintro i j ⟨r, hr, hrh⟩ ⟨s, hs, hsh⟩
    have he : r = s := DeviceSessionTable.eq_of_refreshToken ((hacc.fits i).revoked r hr).1
      ((hacc.fits j).revoked s hs).1 (hrh.trans hsh.symm)
    exact hx.once i j r hr s hs (congrArg DeviceSessionRow.id he)
  constructor
  · intro i j a b hi hj
    exact hone i j (Server.Reaches.exchanged hu h hi) (Server.Reaches.exchanged hu h hj)
  · intro r hr s hs hrn hsn _ _
    rcases hx.known r hr with ⟨r₀, hr₀, he⟩ | ⟨i, r₁, hr₁, hri⟩
    · exact absurd he (hrn r₀ hr₀)
    · rcases hx.known s hs with ⟨s₀, hs₀, he⟩ | ⟨j, s₁, hs₁, hsj⟩
      · exact absurd he (hsn s₀ hs₀)
      · have hij : i = j := hone i j (hx.paid i (List.ne_nil_of_mem hr₁))
          (hx.paid j (List.ne_nil_of_mem hs₁))
        subst hij
        have he : r₁ = s₁ := by
          obtain ⟨x, hx₁⟩ := List.length_eq_one_iff.mp
            (Nat.le_antisymm (hx.single i) (List.length_pos_of_mem hr₁))
          rw [hx₁, List.mem_singleton] at hr₁ hs₁
          rw [hr₁, hs₁]
        refine DeviceSessionTable.eq_of_id hr hs ?_
        rw [← hri, ← hsj, he]

/-- The server with two refreshes of the token that `alice` got when she logged in. -/
def Sample.twoRefreshes : Server Bool :=
  .start Sample.env PrismaUserRepository
    (refreshes Sample.tokens.refreshToken fun _ ↦ ("10.0.0.1", "browser")) Sample.loggedIn

/-- The world in which `alice` has logged in draws fresh identifiers. -/
theorem Sample.freshUuids_loggedIn : FreshUuids Sample.env Sample.loggedIn :=
  freshUuids_of_drawn (by decide +kernel)

/-- One refresh after the other. -/
theorem refreshToken_single_use_sequential :
    let q := Sample.twoRefreshes.play (exec Sample.env) World.pass
      (List.replicate 12 (.act false) ++ List.replicate 12 (.act true))
    (∀ i j a b, q.Returned i a → q.Returned j b → i = j) ∧
      ∀ r ∈ q.world.deviceSessions, ∀ s ∈ q.world.deviceSessions, NewSession Sample.loggedIn r →
        NewSession Sample.loggedIn s → r.isRevoked = false → s.isRevoked = false → r = s :=
  refreshToken_single_use Sample.env Sample.loggedIn Sample.freshUuids_loggedIn
    Sample.tokens.refreshToken (fun _ ↦ ("10.0.0.1", "browser")) _
    (Pool.reaches_play _ (by decide +kernel))

/-- Both refreshes look the session up before either of them saves it. -/
def Sample.bothLookFirst : List (ServerTurn Bool) :=
  [.act false, .act false, .act true, .act true] ++ List.replicate 10 (.act false) ++
    List.replicate 10 (.act true)

/-- Two refreshes that look the session up before either saves it both return. -/
theorem refreshToken_used_twice :
    ¬ ∀ q, Server.Reaches Sample.env anyTurn Sample.twoRefreshes q →
      (∀ i j a b, q.Returned i a → q.Returned j b → i = j) ∧
        ∀ r ∈ q.world.deviceSessions, ∀ s ∈ q.world.deviceSessions,
          NewSession Sample.loggedIn r → NewSession Sample.loggedIn s → r.isRevoked = false →
            s.isRevoked = false → r = s := by
  intro h
  have hboth : (Sample.twoRefreshes.play (exec Sample.env) World.pass
        Sample.bothLookFirst).hasReturned false = true ∧
      (Sample.twoRefreshes.play (exec Sample.env) World.pass
        Sample.bothLookFirst).hasReturned true = true := by
    decide +kernel
  obtain ⟨a, ha⟩ := Pool.hasReturned_iff.mp hboth.1
  obtain ⟨b, hb⟩ := Pool.hasReturned_iff.mp hboth.2
  exact absurd ((h _ (Pool.reaches_play_any _ _)).1 _ _ a b ha hb) (by decide)

/-! ### Replay -/

/-- A refresh token whose session is revoked is rejected, and nothing changes. -/
theorem RefreshTokenService.run_revoked {w : World} {token : Text} {row : DeviceSessionRow}
    (hrow : row ∈ w.deviceSessions) (hhash : row.refreshToken = env.sha256 token)
    (hrev : row.isRevoked = true) (users : IUserRepository) (ip ua : String) :
    ∃ e, (execute env users token ip ua).run (Bankos.exec env) w = (.error e, w) := by
  unfold execute
  rw [run_bind, run_verified]
  cases JwtTokenService.verifyAt env token w.now with
  | error e => exact ⟨_, rfl⟩
  | ok claims =>
    have hfind := DeviceSessionTable.find_refreshToken hrow
    rw [hhash] at hfind
    dsimp only [SecureRandomGenerator.hashString]
    rw [run_bind, run_findByRefreshToken, hfind]
    dsimp only [Option.map, present]
    rw [if_neg (by simp [hhash]),
      if_pos (by simpa using hrev)]
    exact ⟨_, rfl⟩

/-- The user that a token names. -/
def claimedUser (token : Text) : Value :=
  match JwtTokenService.decode token with
  | none => .undefined
  | some payload => payload.sub

/-- The user has no session that can be used. -/
def NoActiveSession (w : World) (userId : Value) : Prop :=
  ∀ s ∈ w.deviceSessions.rows, .str s.userId = userId → s.active w.now = false

instance (w : World) (userId : Value) : Decidable (NoActiveSession w userId) :=
  inferInstanceAs (Decidable (∀ s ∈ w.deviceSessions.rows, _))

/-- Presenting the token is rejected, and afterwards its user has no session that can be used. -/
def ReplayDetected (env : Env) (w : World) (token : Text) (ip ua : String) : Prop :=
  let r := (RefreshTokenService.execute env PrismaUserRepository token ip ua).run (exec env) w
  (∃ e, r.1 = .error e) ∧ NoActiveSession r.2 (claimedUser token)

/-- Replay detection: in every state of every run, presenting a refresh token again that an
earlier refresh has exchanged ends the sessions of its user exactly when there is none to
end. -/
theorem replay_detected_iff (env : Env) (w : World) (hw : FreshUuids env w) (reqs : ι → Request)
    (q : Server ι) (h : Server.Reaches env anyTurn (.start env PrismaUserRepository reqs w) q)
    (i : ι) (token : Text) (ip ua : String) (hi : reqs i = .refresh token ip ua) (a : Response)
    (ha : q.Returned i a) (ip' ua' : String) :
    ReplayDetected env q.world token ip' ua' ↔ NoActiveSession q.world (claimedUser token) := by
  have hu := PrismaUserRepository.proper
  have hex := Server.Reaches.exchanged hu h ha
  rw [hi] at hex
  obtain ⟨row, hrow, hhash⟩ := hex
  obtain ⟨hmem, hrev⟩ := ((Server.Reaches.accounted hu h hw).fits i).revoked row hrow
  obtain ⟨e, hrun⟩ :=
    RefreshTokenService.run_revoked hmem hhash hrev PrismaUserRepository ip' ua'
  unfold ReplayDetected
  rw [hrun]
  exact ⟨fun h ↦ h.2, fun h ↦ ⟨⟨e, rfl⟩, h⟩⟩

/-- One refresh of the token that `alice` got has returned. -/
def Sample.refreshed : Server Bool :=
  Sample.twoRefreshes.play (exec Sample.env) World.pass (List.replicate 12 (.act false))

/-- The case of one login and one refresh. -/
theorem replay_detected_iff_refreshed :
    ReplayDetected Sample.env Sample.refreshed.world Sample.tokens.refreshToken "10.6.6.6" "curl" ↔
      NoActiveSession Sample.refreshed.world (claimedUser Sample.tokens.refreshToken) := by
  have hret : Sample.refreshed.hasReturned false = true := by decide +kernel
  obtain ⟨a, ha⟩ := Pool.hasReturned_iff.mp hret
  exact replay_detected_iff Sample.env Sample.loggedIn Sample.freshUuids_loggedIn _ _
    (Pool.reaches_play_any _ _) false _ _ _ rfl a ha _ _

/-- After one login and one refresh, presenting the exchanged token again leaves the session
that the refresh opened. -/
theorem replay_not_detected :
    ¬ ∀ q, Server.Reaches Sample.env anyTurn Sample.twoRefreshes q →
      ∀ i a, q.Returned i a →
        ReplayDetected Sample.env q.world Sample.tokens.refreshToken "10.6.6.6" "curl" := by
  intro h
  have hret : Sample.refreshed.hasReturned false = true := by decide +kernel
  obtain ⟨a, ha⟩ := Pool.hasReturned_iff.mp hret
  have hactive : ¬ NoActiveSession
      ((RefreshTokenService.execute Sample.env PrismaUserRepository Sample.tokens.refreshToken
        "10.6.6.6" "curl").run (exec Sample.env) Sample.refreshed.world).2
      (claimedUser Sample.tokens.refreshToken) := by
    decide +kernel
  exact hactive (h _ (Pool.reaches_play_any _ _) false a ha).2

end Bankos
