import Bankos.Auth.Calls

/-!
# The session ledger

A request may write device sessions in two ways only: it creates a session under an
identifier it has drawn itself, or it sets the flag of a session it has loaded. The ledger of
a request records what it drew, loaded, revoked and created, `sessionLedger` is the protocol
that allows no other write, and `Accounted` ties the ledgers of all requests in flight to
the stored table. From it follows that sessions only move forward: no row disappears, and a
revoked row stays revoked.
-/

namespace Bankos

open Js Jwt Effects Storage Prog

/-! ### Sessions move forward -/

/-- The row `s` is the row `r` at a later time. -/
def DeviceSessionRow.Later (r s : DeviceSessionRow) : Prop :=
  s = r ∨ s = { r with isRevoked := true }

/-- Every row of `t` is still there in `t'`, at a later time. -/
def DeviceSessionTable.Advances (t t' : DeviceSessionTable) : Prop :=
  ∀ r ∈ t, ∃ s ∈ t', r.Later s

namespace DeviceSessionRow

variable {r s u : DeviceSessionRow}

/-- A session is a later state of itself. -/
theorem Later.refl (r : DeviceSessionRow) : r.Later r := .inl rfl

/-- Later than later is later. -/
theorem Later.trans (h : r.Later s) (h' : s.Later u) : r.Later u := by
  rcases h with rfl | rfl
  · exact h'
  · rcases h' with rfl | rfl
    · exact .inr rfl
    · exact .inr rfl

/-- The identifier and the token hash never change. -/
theorem Later.keys (h : r.Later s) : s.id = r.id ∧ s.refreshToken = r.refreshToken := by
  rcases h with rfl | rfl <;> exact ⟨rfl, rfl⟩

/-- A revoked row stays as it is. -/
theorem Later.of_revoked (h : r.Later s) (hr : r.isRevoked = true) : s = r := by
  rcases h with rfl | rfl
  · rfl
  · rw [← hr]

/-- Setting the flag of the row with the given id moves every row forward. -/
theorem later_write (id : String) (r : DeviceSessionRow) : r.Later (r.write id true) := by
  unfold write
  split
  · exact .inr rfl
  · exact .inl rfl

end DeviceSessionRow

namespace DeviceSessionTable

variable {t t' t'' : DeviceSessionTable}

/-- A table that stays has advanced. -/
theorem Advances.refl (t : DeviceSessionTable) : t.Advances t := fun r hr ↦ ⟨r, hr, .refl r⟩

/-- A table that advances twice has advanced. -/
theorem Advances.trans (h : t.Advances t') (h' : t'.Advances t'') : t.Advances t'' := by
  intro r hr
  obtain ⟨s, hs, hrs⟩ := h r hr
  obtain ⟨u, hu, hsu⟩ := h' s hs
  exact ⟨u, hu, hrs.trans hsu⟩

/-- A revoked row of the earlier table is a row of the later one. -/
theorem Advances.mem_of_revoked {r : DeviceSessionRow} (h : t.Advances t') (hr : r ∈ t)
    (hrev : r.isRevoked = true) : r ∈ t' := by
  obtain ⟨s, hs, hrs⟩ := h r hr
  rwa [hrs.of_revoked hrev] at hs

/-- The table in which the session with the given id is revoked. -/
def revoke (t : DeviceSessionTable) (id : String) : DeviceSessionTable :=
  t.map (DeviceSessionRow.write id true) (DeviceSessionRow.clash_write id true)

/-- The rows of the table in which a session is revoked. -/
theorem mem_revoke {id : String} {s : DeviceSessionRow} :
    s ∈ t.revoke id ↔ ∃ r ∈ t, r.write id true = s := Table.mem_map

/-- Setting a flag moves the table forward. -/
theorem advances_revoke (t : DeviceSessionTable) (id : String) : t.Advances (t.revoke id) :=
  fun r hr ↦ ⟨r.write id true, mem_revoke.mpr ⟨r, hr, rfl⟩, DeviceSessionRow.later_write id r⟩

/-- Adding a row moves the table forward. -/
theorem advances_insert {row : DeviceSessionRow} (h : t.insert row = some t') : t.Advances t' :=
  fun r hr ↦ ⟨r, (Table.mem_insert h).mpr (.inl hr), .refl r⟩

end DeviceSessionTable

/-! ### The ledger of one request -/

/-- The identifiers a request has drawn and not used, the rows it has loaded, and the rows it
has written. -/
structure Ledger where
  drawn : List String := []
  loaded : List DeviceSessionRow := []
  revoked : List DeviceSessionRow := []
  created : List DeviceSessionRow := []

namespace Ledger

/-- What an answered call adds to the ledger. -/
def next (l : Ledger) : (op : Op) → Except JsError op.Reply → Ledger
  | .system .randomUUID, .ok id => { l with drawn := id :: l.drawn }
  | .session (.findUniqueById _), .ok (some r) => { l with loaded := r :: l.loaded }
  | .session (.findUniqueByRefreshToken _), .ok (some r) => { l with loaded := r :: l.loaded }
  | .session (.findManyActive _), .ok rs => { l with loaded := rs ++ l.loaded }
  | .session (.upsert row), .ok _ =>
    if row.isRevoked then { l with revoked := row :: l.revoked }
    else { l with created := row :: l.created, drawn := l.drawn.erase row.id }
  | _, _ => l

/-- A session is created under an identifier that was drawn for it. -/
def Creates (l : Ledger) (row : DeviceSessionRow) : Prop :=
  row.isRevoked = false ∧ row.id ∈ l.drawn

/-- A session that was loaded unrevoked is saved as revoked. -/
def Revokes (l : Ledger) (row : DeviceSessionRow) : Prop :=
  ∃ r ∈ l.loaded, r.isRevoked = false ∧ row = { r with isRevoked := true }

/-- The only writes of sessions are creations and revocations. -/
def allows (l : Ledger) : Op → Prop
  | .session (.upsert row) => l.Creates row ∨ l.Revokes row
  | _ => True

/-- A call that failed adds nothing. -/
@[simp] theorem next_error (l : Ledger) (op : Op) (e : JsError) : l.next op (.error e) = l := by
  unfold next
  split <;> first | rfl | simp_all

/-- Only a write of a session adds to the writes. -/
theorem next_writes (l : Ledger) {op : Op} (r : Except JsError op.Reply)
    (h : ∀ row, op ≠ .session (.upsert row)) :
    (l.next op r).revoked = l.revoked ∧ (l.next op r).created = l.created := by
  unfold next
  split <;> first | exact ⟨rfl, rfl⟩ | exact absurd rfl (h _)

end Ledger

/-- The discipline of the session writes. -/
abbrev sessionLedger : Protocol Api JsError where
  Phase := Ledger
  allows := Ledger.allows
  next := Ledger.next

/-- The discipline of the ledgers where a session is created only while `mayCreate` holds. -/
def Ledger.allowsIf (mayCreate : Ledger → Prop) (l : Ledger) : Op → Prop
  | .session (.upsert row) => l.Creates row ∧ mayCreate l ∨ l.Revokes row
  | _ => True

/-- The discipline of a request that creates sessions under a condition. -/
abbrev sessionProtocol (mayCreate : Ledger → Prop) : Protocol Api JsError :=
  { sessionLedger with allows := Ledger.allowsIf mayCreate }

/-- The condition is an additional one. -/
theorem Ledger.allows_of_allowsIf {mayCreate : Ledger → Prop} {l : Ledger} {op : Op}
    (h : l.allowsIf mayCreate op) : l.allows op := by
  cases op with
  | session o =>
    cases o with
    | upsert row => exact Or.imp_left And.left h
    | _ => trivial
  | _ => trivial

/-- The ledger `l'` has at least the identifiers and the loaded rows of `l`, and the same
writes. -/
structure Ledger.Extends (l l' : Ledger) : Prop where
  drawn : ∀ id ∈ l.drawn, id ∈ l'.drawn
  loaded : ∀ r ∈ l.loaded, r ∈ l'.loaded
  revoked : l'.revoked = l.revoked
  created : l'.created = l.created

namespace Ledger.Extends

variable {l l' l'' : Ledger}

/-- A ledger has what is in it. -/
theorem refl (l : Ledger) : l.Extends l := ⟨fun _ h ↦ h, fun _ h ↦ h, rfl, rfl⟩

/-- A ledger that extends an extension extends the first one. -/
theorem trans (h : l.Extends l') (h' : l'.Extends l'') : l.Extends l'' where
  drawn id hid := h'.drawn id (h.drawn id hid)
  loaded r hr := h'.loaded r (h.loaded r hr)
  revoked := h'.revoked.trans h.revoked
  created := h'.created.trans h.created

end Ledger.Extends

/-! ### The ledgers of all requests -/

/-- No identifier that is still to be drawn names a session. -/
def FreshUuids (env : Env) (w : World) : Prop :=
  ∀ n, w.draws ≤ n → ∀ s ∈ w.deviceSessions, s.id ≠ env.uuid n

/-- Identifiers are fresh if every session has one that was drawn before. -/
theorem freshUuids_of_drawn {env : Env} {w : World}
    (h : ∀ s ∈ w.deviceSessions.rows, ∃ m < w.draws, s.id = env.uuid m) : FreshUuids env w := by
  intro n hn s hs hc
  obtain ⟨m, hm, he⟩ := h s hs
  have := env.uuid_injective (he.symm.trans hc)
  omega

/-- The ledger `l` fits the world `w`: what it drew is drawn and free, what it loaded or wrote
is stored. -/
structure Ledger.Fits (env : Env) (w : World) (l : Ledger) : Prop where
  drawn : ∀ id ∈ l.drawn, ∃ n < w.draws, id = env.uuid n
  free : ∀ id ∈ l.drawn, ∀ s ∈ w.deviceSessions, s.id ≠ id
  nodup : l.drawn.Nodup
  loaded : ∀ r ∈ l.loaded, ∃ s ∈ w.deviceSessions, r.Later s
  revoked : ∀ r ∈ l.revoked, r ∈ w.deviceSessions ∧ r.isRevoked = true
  created : ∀ r ∈ l.created, ∃ s ∈ w.deviceSessions, r.Later s

/-- The ledgers `L` account for the sessions of the world `w`. -/
structure Accounted {ι : Type} (env : Env) (w : World) (L : ι → Ledger) : Prop where
  fresh : FreshUuids env w
  fits : ∀ i, (L i).Fits env w
  apart : ∀ i j, i ≠ j → ∀ id ∈ (L i).drawn, id ∉ (L j).drawn

/-- A ledger keeps fitting while sessions move forward and leave its identifiers free. -/
theorem Ledger.Fits.forward {env : Env} {w w' : World} {l : Ledger} (h : l.Fits env w)
    (hs : w.deviceSessions.Advances w'.deviceSessions) (hd : w.draws ≤ w'.draws)
    (hfree : ∀ id ∈ l.drawn, ∀ s ∈ w'.deviceSessions, s.id ≠ id) : l.Fits env w' where
  drawn id hid := by
    obtain ⟨n, hn, he⟩ := h.drawn id hid
    exact ⟨n, Nat.lt_of_lt_of_le hn hd, he⟩
  free := hfree
  nodup := h.nodup
  loaded r hr := by
    obtain ⟨s, hsm, hrs⟩ := h.loaded r hr
    obtain ⟨u, hu, hsu⟩ := hs s hsm
    exact ⟨u, hu, hrs.trans hsu⟩
  revoked r hr := by
    obtain ⟨hrm, hrev⟩ := h.revoked r hr
    exact ⟨hs.mem_of_revoked hrm hrev, hrev⟩
  created r hr := by
    obtain ⟨s, hsm, hrs⟩ := h.created r hr
    obtain ⟨u, hu, hsu⟩ := hs s hsm
    exact ⟨u, hu, hrs.trans hsu⟩

namespace Accounted

variable {ι : Type} {env : Env} {w w' : World} {L : ι → Ledger} {i : ι}

/-- Before any request has arrived there is nothing to account for. -/
theorem initial (h : FreshUuids env w) : Accounted env w fun _ : ι ↦ ({} : Ledger) where
  fresh := h
  fits _ := by constructor <;> simp
  apart _ _ _ _ hid := absurd hid List.not_mem_nil

/-- A change that leaves the sessions alone and only advances the generator. -/
theorem quiet (h : Accounted env w L) (hs : w'.deviceSessions = w.deviceSessions)
    (hd : w.draws ≤ w'.draws) : Accounted env w' L where
  fresh n hn := by
    rw [hs]
    exact h.fresh n (Nat.le_trans hd hn)
  fits i := by
    apply (h.fits i).forward _ hd
    · rw [hs]
      exact (h.fits i).free
    · rw [hs]
      exact .refl _
  apart := h.apart

/-- An identifier that was drawn before is not the next one. -/
theorem uuid_not_drawn (h : Accounted env w L) (j : ι) : env.uuid w.draws ∉ (L j).drawn := by
  intro hmem
  obtain ⟨n, hn, he⟩ := (h.fits j).drawn _ hmem
  exact absurd (env.uuid_injective he) (Nat.ne_of_gt hn)

variable [DecidableEq ι]

/-- Two ledgers stay apart when one of them drops identifiers or adds an unheard-of one. -/
theorem apart_update (h : Accounted env w L) {l : Ledger}
    (hl : ∀ id ∈ l.drawn, id ∈ (L i).drawn ∨ ∀ j, id ∉ (L j).drawn) :
    ∀ j k, j ≠ k → ∀ id ∈ (Function.update L i l j).drawn,
      id ∉ (Function.update L i l k).drawn := by
  intro j k hjk id hj hk
  by_cases hji : j = i
  · subst hji
    rw [Function.update_self] at hj
    rw [Function.update_of_ne (Ne.symm hjk)] at hk
    rcases hl id hj with hold | hnew
    · exact h.apart j k hjk id hold hk
    · exact hnew k hk
  · rw [Function.update_of_ne hji] at hj
    by_cases hki : k = i
    · subst hki
      rw [Function.update_self] at hk
      rcases hl id hk with hold | hnew
      · exact h.apart j k hjk id hj hold
      · exact hnew j hj
    · rw [Function.update_of_ne hki] at hk
      exact h.apart j k hjk id hj hk

/-- The ledger of one request changes along with the world. -/
theorem update (h : Accounted env w L) {l : Ledger} (hfresh : FreshUuids env w')
    (hself : l.Fits env w') (hother : ∀ j, j ≠ i → (L j).Fits env w')
    (hl : ∀ id ∈ l.drawn, id ∈ (L i).drawn ∨ ∀ j, id ∉ (L j).drawn) :
    Accounted env w' (Function.update L i l) where
  fresh := hfresh
  fits := (Function.forall_update_iff L fun _ l ↦ l.Fits env w').mpr ⟨hself, hother⟩
  apart := h.apart_update hl

/-- One request draws an identifier. -/
theorem draw (h : Accounted env w L) :
    Accounted env { w with draws := w.draws + 1 }
      (Function.update L i { L i with drawn := env.uuid w.draws :: (L i).drawn }) := by
  have hq : Accounted env { w with draws := w.draws + 1 } L := h.quiet rfl (Nat.le_succ _)
  have hi := hq.fits i
  apply h.update hq.fresh
  · constructor
    · intro id hid
      rcases List.mem_cons.mp hid with rfl | hid
      · exact ⟨w.draws, Nat.lt_succ_self _, rfl⟩
      · exact hi.drawn id hid
    · intro id hid
      rcases List.mem_cons.mp hid with rfl | hid
      · exact h.fresh _ (Nat.le_refl _)
      · exact hi.free id hid
    · exact List.nodup_cons.mpr ⟨h.uuid_not_drawn i, hi.nodup⟩
    · exact hi.loaded
    · exact hi.revoked
    · exact hi.created
  · intro j _
    exact hq.fits j
  · intro id hid
    rcases List.mem_cons.mp hid with rfl | hid
    · exact .inr h.uuid_not_drawn
    · exact .inl hid

/-- One request loads stored rows. -/
theorem load (h : Accounted env w L) {rows : List DeviceSessionRow}
    (hrows : ∀ r ∈ rows, r ∈ w.deviceSessions) :
    Accounted env w (Function.update L i { L i with loaded := rows ++ (L i).loaded }) := by
  have hloaded : ∀ r ∈ rows ++ (L i).loaded, ∃ s ∈ w.deviceSessions, r.Later s := by
    intro r hr
    rcases List.mem_append.mp hr with hr | hr
    · exact ⟨r, hrows r hr, .refl r⟩
    · exact (h.fits i).loaded r hr
  apply h.update h.fresh
  · exact { h.fits i with loaded := hloaded }
  · intro j _
    exact h.fits j
  · intro id hid
    exact .inl hid

/-- One request saves a stored session as revoked. -/
theorem revoke (h : Accounted env w L) {row : DeviceSessionRow}
    (hrow : row.isRevoked = true) (hs : w.deviceSessions.Advances w'.deviceSessions)
    (hids : ∀ s ∈ w'.deviceSessions, ∃ r ∈ w.deviceSessions, r.id = s.id)
    (hmem : row ∈ w'.deviceSessions) (hd : w'.draws = w.draws) :
    Accounted env w' (Function.update L i { L i with revoked := row :: (L i).revoked }) := by
  have hfresh : FreshUuids env w' := by
    intro n hn s hs
    obtain ⟨r, hr, he⟩ := hids s hs
    rw [← he]
    exact h.fresh n (hd ▸ hn) r hr
  have hfits : ∀ j, (L j).Fits env w' := by
    intro j
    apply (h.fits j).forward hs (Nat.le_of_eq hd.symm)
    intro id hid s hs
    obtain ⟨r, hr, he⟩ := hids s hs
    rw [← he]
    exact (h.fits j).free id hid r hr
  have hrevoked : ∀ r ∈ row :: (L i).revoked, r ∈ w'.deviceSessions ∧ r.isRevoked = true := by
    intro r hr
    rcases List.mem_cons.mp hr with rfl | hr
    · exact ⟨hmem, hrow⟩
    · exact (hfits i).revoked r hr
  apply h.update hfresh
  · exact { hfits i with revoked := hrevoked }
  · intro j _
    exact hfits j
  · intro id hid
    exact .inl hid

/-- One request creates a session under an identifier it has drawn. -/
theorem create (h : Accounted env w L) {row : DeviceSessionRow} (hid : row.id ∈ (L i).drawn)
    (hmem : ∀ s, s ∈ w'.deviceSessions ↔ s ∈ w.deviceSessions ∨ s = row)
    (hd : w'.draws = w.draws) :
    Accounted env w' (Function.update L i
      { L i with created := row :: (L i).created, drawn := (L i).drawn.erase row.id }) := by
  have hi := h.fits i
  have hs : w.deviceSessions.Advances w'.deviceSessions :=
    fun r hr ↦ ⟨r, (hmem r).mpr (.inl hr), .refl r⟩
  have herase : ∀ id ∈ (L i).drawn.erase row.id, id ∈ (L i).drawn ∧ id ≠ row.id :=
    fun id hid ↦ (hi.nodup.mem_erase_iff.mp hid).symm
  have hfresh : FreshUuids env w' := by
    intro n hn s hs
    rcases (hmem s).mp hs with hs | rfl
    · exact h.fresh n (hd ▸ hn) s hs
    · obtain ⟨m, hm, he⟩ := hi.drawn _ hid
      rw [he]
      intro hc
      have := env.uuid_injective hc
      omega
  apply h.update hfresh
  · constructor
    · intro id hid
      obtain ⟨n, hn, he⟩ := hi.drawn id (herase id hid).1
      exact ⟨n, hd.symm ▸ hn, he⟩
    · intro id hid s hs
      rcases (hmem s).mp hs with hs | rfl
      · exact hi.free id (herase id hid).1 s hs
      · exact (herase id hid).2.symm
    · exact hi.nodup.erase _
    · intro r hr
      obtain ⟨s, hsm, hrs⟩ := hi.loaded r hr
      exact ⟨s, (hmem s).mpr (.inl hsm), hrs⟩
    · intro r hr
      obtain ⟨hrm, hrev⟩ := hi.revoked r hr
      exact ⟨(hmem r).mpr (.inl hrm), hrev⟩
    · intro r hr
      rcases List.mem_cons.mp hr with rfl | hr
      · exact ⟨r, (hmem r).mpr (.inr rfl), .refl r⟩
      · obtain ⟨s, hsm, hrs⟩ := hi.created r hr
        exact ⟨s, (hmem s).mpr (.inl hsm), hrs⟩
  · intro j hj
    apply (h.fits j).forward hs (Nat.le_of_eq hd.symm)
    intro id hidj s hs
    rcases (hmem s).mp hs with hs | rfl
    · exact (h.fits j).free id hidj s hs
    · rintro rfl
      exact h.apart j i hj _ hidj hid
  · intro id hid
    exact .inl (herase id hid).1

end Accounted
end Bankos
