import Bankos.Base.Pacts
import Bankos.Http.Calls

/-!
# The pact of the controllers

How the controllers of the application change users, sessions and the audit trail, whatever the
others do meanwhile: a user keeps its id, its email, its password and its verification, a session
its token, and a row of the trail is recorded by a call that has earned it with what it has done
before. Most of their calls have nothing to earn.
-/

namespace Bankos

open Js Jwt Effects Storage Prog DatabaseMapper

/-! ### The pact -/

/-- The later row of a user, as far as the application does not change it. -/
def UserRow.Remains (u u' : UserRow) : Prop :=
  u'.id = u.id ∧ u'.email = u.email ∧ u'.passwordHash = u.passwordHash ∧
    u'.emailVerified = u.emailVerified

/-- The later row of a session. -/
def DeviceSessionRow.Remains (d d' : DeviceSessionRow) : Prop :=
  d'.id = d.id ∧ d'.userId = d.userId ∧ d'.refreshToken = d.refreshToken

/-- The user is stored, as it was or with other columns that the application may change. -/
def World.Stores (w : World) (row : UserRow) : Prop := ∃ u ∈ w.users, row.Remains u

/-- The session is stored, as it was or with another flag. -/
def World.StoresSession (w : World) (row : DeviceSessionRow) : Prop :=
  ∃ d ∈ w.deviceSessions, row.Remains d

/-- The row tells of an event of a user, seen from an address and an agent. -/
structure AuditEventRow.Tells (row : AuditEventRow) (eventType userId : String)
    (payload : List (String × String)) (ipAddress userAgent : String) : Prop where
  eventType : row.eventType = eventType
  userId : row.userId = .str userId
  payload : row.payload = payload
  ipAddress : row.ipAddress = AuditEventHandler.orUnknown (some ipAddress)
  userAgent : row.userAgent = AuditEventHandler.orUnknown (some userAgent)

/-- The world under the controllers, and the calls that they have been answered. -/
abbrev AppScene (ι : Type) := Scene Api JsError ι World

/-- The call that `i` makes has earned the row, by what `i` has been answered: it has created a user
under its email, or found a user and checked the user's password, or found a user and issued a
reset token, or found the session whose token was presented and saved it as revoked. The user or
the session is still stored. -/
def AuthCall.Records {ι : Type} (env : Env) (i : ι) (s : AppScene ι) (row : AuditEventRow) :
    AuthCall → Prop
  | .register r => ∃ u, s.Answered i (.user (.create u)) () ∧ s.world.Stores u ∧
      u.email = EmailValidator.normalize env r.email ∧
      row.Tells "UserRegistered" u.id [("email", u.email)] r.ipAddress r.userAgent
  | .login r => ∃ u, s.Answered i
        (.user (.findUniqueByEmail (EmailValidator.normalize env r.email))) (some u) ∧
      s.Answered i (.hasher (.verify u.passwordHash
        (Argon2PasswordHasher.applyPepper env r.passwordRaw))) true ∧ s.world.Stores u ∧
      u.email = EmailValidator.normalize env r.email ∧
      env.argon2Verify u.passwordHash (Argon2PasswordHasher.applyPepper env r.passwordRaw) =
        some true ∧
      row.Tells "UserLoggedIn" u.id [("ipAddress", r.ipAddress), ("userAgent", r.userAgent)]
        r.ipAddress r.userAgent
  | .logout r ipAddress userAgent => ∃ d, s.Answered i
        (.session (.findUniqueById (LogoutService.sessionId r)))
        (some { d with isRevoked := false }) ∧
      s.Answered i (.session (.upsert d)) () ∧ d.isRevoked = true ∧ s.world.StoresSession d ∧
      d.refreshToken = env.sha256 r.refreshToken ∧
      row.Tells "TokenRevoked" d.userId [] ipAddress userAgent
  | .forgotPassword r => ∃ u t, s.Answered i
        (.user (.findUniqueByEmail (EmailValidator.normalize env r.email))) (some u) ∧
      s.Answered i (.resetToken (.upsert t)) () ∧ t.userId = u.id ∧ s.world.Stores u ∧
      u.email = EmailValidator.normalize env r.email ∧
      row.Tells "PasswordResetRequested" u.id [] r.ipAddress r.userAgent
  | _ => False

/-- The scene has become another one under the calls. -/
structure Leads {ι : Type} (env : Env) (calls : ι → Option AuthCall) (s s' : AppScene ι) :
    Prop where
  users : ∀ u ∈ s.world.users, ∃ u' ∈ s'.world.users, u.Remains u'
  sessions : ∀ d ∈ s.world.deviceSessions, ∃ d' ∈ s'.world.deviceSessions, d.Remains d'
  kept : ∀ row ∈ s.world.auditEvents, row ∈ s'.world.auditEvents
  answered : ∀ e ∈ s.log, e ∈ s'.log
  recorded : ∀ row ∈ s'.world.auditEvents, row ∈ s.world.auditEvents ∨
    ∃ i c, calls i = some c ∧ s'.Answered i (.auditCreate row) () ∧ c.Records env i s' row

/-- An update writes a password and a verification that are there, and a row is recorded that has
been earned. -/
def Op.earned {ι : Type} (env : Env) (calls : ι → Option AuthCall) (i : ι) (s : AppScene ι) :
    Op → Prop
  | .user (.update id data) => ∀ u ∈ s.world.users, u.id = id →
      data.passwordHash = u.passwordHash ∧ data.emailVerified = u.emailVerified
  | .auditCreate row => ∃ c, calls i = some c ∧ c.Records env i s row
  | _ => True

section Pact

variable {ι : Type} {env : Env} {calls : ι → Option AuthCall} {s s' s'' : AppScene ι} {i : ι}

/-- A row of a user at a still later time. -/
theorem UserRow.Remains.trans {u u' u'' : UserRow} (h : u.Remains u') (h' : u'.Remains u'') :
    u.Remains u'' :=
  ⟨h'.1.trans h.1, h'.2.1.trans h.2.1, h'.2.2.1.trans h.2.2.1, h'.2.2.2.trans h.2.2.2⟩

/-- A row of a session at a still later time. -/
theorem DeviceSessionRow.Remains.trans {d d' d'' : DeviceSessionRow} (h : d.Remains d')
    (h' : d'.Remains d'') : d.Remains d'' :=
  ⟨h'.1.trans h.1, h'.2.1.trans h.2.1, h'.2.2.trans h.2.2⟩

/-- What has been earned stays earned while users and sessions remain. -/
theorem AuthCall.Records.mono {c : AuthCall} {row : AuditEventRow} (h : c.Records env i s row)
    (husers : ∀ u ∈ s.world.users, ∃ u' ∈ s'.world.users, u.Remains u')
    (hsessions : ∀ d ∈ s.world.deviceSessions, ∃ d' ∈ s'.world.deviceSessions, d.Remains d')
    (hlog : ∀ e ∈ s.log, e ∈ s'.log) : c.Records env i s' row := by
  have hstores : ∀ {u}, s.world.Stores u → s'.world.Stores u := by
    rintro u ⟨u', hu', hremains⟩
    obtain ⟨u'', hu'', hremains'⟩ := husers u' hu'
    exact ⟨u'', hu'', hremains.trans hremains'⟩
  have hstored : ∀ {d}, s.world.StoresSession d → s'.world.StoresSession d := by
    rintro d ⟨d', hd', hremains⟩
    obtain ⟨d'', hd'', hremains'⟩ := hsessions d' hd'
    exact ⟨d'', hd'', hremains.trans hremains'⟩
  cases c with
  | register r =>
    obtain ⟨u, hcreated, hu, htells⟩ := h
    exact ⟨u, hlog _ hcreated, hstores hu, htells⟩
  | login r =>
    obtain ⟨u, hfound, hverified, hu, htells⟩ := h
    exact ⟨u, hlog _ hfound, hlog _ hverified, hstores hu, htells⟩
  | logout r ip ua =>
    obtain ⟨d, hfound, hsaved, hrevoked, hd, htells⟩ := h
    exact ⟨d, hlog _ hfound, hlog _ hsaved, hrevoked, hstored hd, htells⟩
  | forgotPassword r =>
    obtain ⟨u, t, hfound, hissued, huser, hu, htells⟩ := h
    exact ⟨u, t, hlog _ hfound, hlog _ hissued, huser, hstores hu, htells⟩
  | _ => exact h.elim

/-- What has been earned stays earned. -/
theorem AuthCall.Records.later {c : AuthCall} {row : AuditEventRow} (h : c.Records env i s row)
    (hs : Leads env calls s s') : c.Records env i s' row :=
  h.mono hs.users hs.sessions hs.answered

/-- Where the tables that the pact is about are the same, nothing has changed. -/
theorem Leads.of_eq (husers : s'.world.users = s.world.users)
    (hsessions : s'.world.deviceSessions = s.world.deviceSessions)
    (htrail : s'.world.auditEvents = s.world.auditEvents) (hlog : ∀ e ∈ s.log, e ∈ s'.log) :
    Leads env calls s s' where
  users u hu := by
    rw [husers]
    exact ⟨u, hu, rfl, rfl, rfl, rfl⟩
  sessions d hd := by
    rw [hsessions]
    exact ⟨d, hd, rfl, rfl, rfl⟩
  kept row hrow := by
    rw [htrail]
    exact hrow
  answered := hlog
  recorded row hrow := by
    rw [htrail] at hrow
    exact .inl hrow

/-- Nothing has changed yet. -/
theorem Leads.refl (s : AppScene ι) : Leads env calls s s := .of_eq rfl rfl rfl fun _ h ↦ h

/-- Changes one after the other. -/
theorem Leads.trans (h : Leads env calls s s') (h' : Leads env calls s' s'') :
    Leads env calls s s'' where
  users u hu := by
    obtain ⟨u', hu', hremains⟩ := h.users u hu
    obtain ⟨u'', hu'', hremains'⟩ := h'.users u' hu'
    exact ⟨u'', hu'', hremains.trans hremains'⟩
  sessions d hd := by
    obtain ⟨d', hd', hremains⟩ := h.sessions d hd
    obtain ⟨d'', hd'', hremains'⟩ := h'.sessions d' hd'
    exact ⟨d'', hd'', hremains.trans hremains'⟩
  kept row hrow := h'.kept row (h.kept row hrow)
  answered e he := h'.answered e (h.answered e he)
  recorded row hrow := by
    rcases h'.recorded row hrow with hrow | hrecords
    · rcases h.recorded row hrow with hrow | ⟨j, c, hc, hown, hrecords⟩
      · exact .inl hrow
      · exact .inr ⟨j, c, hc, h'.answered _ hown, hrecords.later h'⟩
    · exact .inr hrecords

/-- The passing of time leads from a state to a state. -/
theorem Leads.pass (s : AppScene ι) (t : Nat) : Leads env calls s ⟨s.world.pass t, s.log⟩ :=
  .of_eq rfl rfl rfl fun _ h ↦ h

/-- A call that fails leads to the same world, with its error in the log. -/
theorem Leads.fail (s : AppScene ι) (i : ι) (op : Op) (e : JsError) :
    Leads env calls s (s.record i op (.error e) s.world) :=
  .of_eq rfl rfl rfl fun _ h ↦ List.mem_append_left _ h

/-- An earned call lets the users remain. -/
theorem Op.earned.users_remain {op : Op} (h : op.earned env calls i s) :
    ∀ u ∈ s.world.users, ∃ u' ∈ (exec env s.world op).2.users, u.Remains u' := by
  intro u hu
  have hsame : (exec env s.world op).2.users = s.world.users →
      ∃ u' ∈ (exec env s.world op).2.users, u.Remains u' := by
    intro heq
    rw [heq]
    exact ⟨u, hu, rfl, rfl, rfl, rfl⟩
  cases op with
  | user o =>
    cases o with
    | create data =>
      simp only [exec, UserOp.exec]
      cases hinsert : s.world.users.insert data with
      | none => exact ⟨u, hu, rfl, rfl, rfl, rfl⟩
      | some t => exact ⟨u, (Table.mem_insert hinsert).mpr (.inl hu), rfl, rfl, rfl, rfl⟩
    | update id data =>
      rcases UserOp.exec_update env s.world.users id data with hwrite | ⟨-, hsame'⟩
      · simp only [exec, hwrite]
        refine ⟨u.write id data, UserTable.mem_write.mpr ⟨u, hu, rfl⟩, ?_⟩
        unfold UserRow.write
        by_cases hid : u.id = id
        · rw [if_pos hid]
          obtain ⟨hhash, hverified⟩ := h u hu hid
          exact ⟨rfl, rfl, hhash, hverified⟩
        · rw [if_neg hid]
          exact ⟨rfl, rfl, rfl, rfl⟩
      · exact hsame (by simp only [exec, hsame'])
    | _ => exact hsame rfl
  | jwtSign c => exact hsame (exec_users env s.world (by simp [Op.area]))
  | _ => exact hsame rfl

/-- Every call lets the sessions remain. -/
theorem exec_sessions_remain (env : Env) (w : World) (op : Op) :
    ∀ d ∈ w.deviceSessions, ∃ d' ∈ (exec env w op).2.deviceSessions, d.Remains d' := by
  intro d hd
  by_cases hupsert : ∃ row, op = .session (.upsert row)
  · obtain ⟨row, rfl⟩ := hupsert
    by_cases hknown : ∃ d₀ ∈ w.deviceSessions, d₀.id = row.id
    · obtain ⟨d₀, hd₀, hid⟩ := hknown
      simp only [exec, SessionOp.exec_upsert_known env w.users w.now hd₀ hid]
      refine ⟨_, Table.mem_map.mpr ⟨d, hd, rfl⟩, ?_⟩
      unfold DeviceSessionRow.write
      split <;> exact ⟨rfl, rfl, rfl⟩
    · push Not at hknown
      rcases SessionOp.exec_upsert_new env w.users w.now hknown with
        ⟨t, hexec, hinsert⟩ | ⟨e, hexec⟩
      · simp only [exec, hexec]
        exact ⟨d, (Table.mem_insert hinsert).mpr (.inl hd), rfl, rfl, rfl⟩
      · simp only [exec, hexec]
        exact ⟨d, hd, rfl, rfl, rfl⟩
  · rw [exec_deviceSessions env w fun row hop ↦ hupsert ⟨row, hop⟩]
    exact ⟨d, hd, rfl, rfl, rfl⟩

/-- Only the audit call extends the trail, and then it is answered. -/
theorem exec_trail (env : Env) (w : World) (op : Op) :
    (exec env w op).2.auditEvents = w.auditEvents ∨
      ∃ row, op = .auditCreate row ∧ (exec env w (.auditCreate row)).1 = .ok () ∧
        w.auditEvents.insert row = some (exec env w op).2.auditEvents := by
  cases op with
  | auditCreate row =>
    simp only [exec, AuditEventRow.exec]
    cases huser : auditUserId env row.userId with
    | error e => exact .inl rfl
    | ok id =>
      cases hinsert : w.auditEvents.insert row with
      | none => exact .inl (by simp)
      | some t => exact .inr ⟨row, rfl, by simp [huser, hinsert], by simp [hinsert]⟩
  | jwtSign c =>
    simp only [exec]
    split <;> exact .inl rfl
  | _ => exact .inl rfl

/-- A row that is recorded was not there before. -/
theorem exec_auditCreate_ok {w : World} {row : AuditEventRow} {u : Unit}
    (h : (exec env w (.auditCreate row)).1 = .ok u) :
    row ∈ (exec env w (.auditCreate row)).2.auditEvents ∧ row ∉ w.auditEvents := by
  simp only [exec, AuditEventRow.exec] at h ⊢
  cases huser : auditUserId env row.userId with
  | error e =>
    rw [huser] at h
    cases h
  | ok id =>
    rw [huser] at h
    cases hinsert : w.auditEvents.insert row with
    | none =>
      rw [hinsert] at h
      cases h
    | some t =>
      refine ⟨(Table.mem_insert hinsert).mpr (.inr rfl), fun hold ↦ ?_⟩
      have hnone : w.auditEvents.insert row = none :=
        Table.insert_eq_none.mpr ⟨row, hold, by simp [AuditEventRow.clash]⟩
      rw [hnone] at hinsert
      cases hinsert

/-- A row of the trail stays in it. -/
theorem exec_trail_kept (env : Env) (w : World) (op : Op) :
    ∀ row ∈ w.auditEvents, row ∈ (exec env w op).2.auditEvents := by
  intro row hrow
  rcases exec_trail env w op with heq | ⟨row', -, -, hinsert⟩
  · rw [heq]
    exact hrow
  · exact (Table.mem_insert hinsert).mpr (.inl hrow)

/-- An earned call changes the scene as agreed. -/
theorem Op.earned.leads {op : Op} (h : op.earned env calls i s) :
    Leads env calls s (s.act (exec env) i op) where
  users := h.users_remain
  sessions := exec_sessions_remain env s.world op
  kept := exec_trail_kept env s.world op
  answered _ he := List.mem_append_left _ he
  recorded row hrow := by
    have hrow' : row ∈ (exec env s.world op).2.auditEvents := hrow
    rcases exec_trail env s.world op with heq | ⟨row', rfl, hok, hinsert⟩
    · rw [heq] at hrow'
      exact .inl hrow'
    · rcases (Table.mem_insert hinsert).mp hrow' with hrow' | rfl
      · exact .inl hrow'
      · have husers := h.users_remain
        obtain ⟨c, hc, hrecords⟩ := h
        refine .inr ⟨i, c, hc, Scene.answered_act hok, ?_⟩
        exact hrecords.mono husers (exec_sessions_remain env s.world _)
          fun _ he ↦ List.mem_append_left _ he

/-- The pact of the controllers. -/
def trail {ι : Type} (env : Env) (calls : ι → Option AuthCall) : Pact (exec env) ι where
  leads := Leads env calls
  refl := Leads.refl
  trans := Leads.trans
  allows := Op.earned env calls
  keeps := Op.earned.leads
  fails := Leads.fail

end Pact

/-! ### Programs with nothing to earn -/

section Silent

variable {ι α β : Type} {env : Env} {calls : ι → Option AuthCall} {i : ι} {s : AppScene ι}
  {p : Program α} {areas : List Area}

/-- The areas whose calls write neither the columns of a user nor the trail. -/
def Area.silent : Area → Bool
  | .userWrite => false
  | .audit => false
  | _ => true

/-- A call in such areas has nothing to earn. -/
theorem Op.within.earned {op : Op} (h : op.within areas) (hsilent : areas.all Area.silent = true) :
    op.earned env calls i s := by
  have harea : ∀ a, op.area = some a → a.silent = true :=
    fun a ha ↦ List.all_eq_true.mp hsilent a (h a ha)
  cases op with
  | user o =>
    cases o with
    | update id data => cases harea _ rfl
    | _ => trivial
  | auditCreate row => cases harea _ rfl
  | _ => trivial

/-- A program that stays in such areas keeps to the pact. -/
theorem silent_keeps (hp : p.Uses (Op.within areas)) (hsilent : areas.all Area.silent = true) :
    p.Keeps (trail env calls) i (fun _ _ ↦ True) s :=
  hp.keeps fun _ _ _ hop ↦ hop.earned hsilent

/-- A program that stays in silent areas, in front of one that keeps to the pact. -/
theorem silent_then {f : α → Program β} {Q : AppScene ι → β → Prop}
    (hp : p.Uses (Op.within areas)) (hsilent : areas.all Area.silent = true)
    (hf : ∀ s' a, Leads env calls s s' → (f a).Keeps (trail env calls) i Q s') :
    (p >>= f).Keeps (trail env calls) i Q s :=
  hp.keeps_then (fun _ _ _ hop ↦ hop.earned hsilent) hf

/-- A helper in front of a program that keeps to the pact. -/
theorem helper_then {f : α → Program β} {Q : AppScene ι → β → Prop} (hp : p.Uses Op.auxiliary)
    (hf : ∀ s' a, Leads env calls s s' → (f a).Keeps (trail env calls) i Q s') :
    (p >>= f).Keeps (trail env calls) i Q s :=
  silent_then (uses_within hp []) rfl hf

end Silent

end Bankos
