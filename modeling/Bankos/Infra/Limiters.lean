import Bankos.Infra.RateLimit

/-!
# Many runs on one counter

Runs of the rate limit service that share a Redis. Between the two round trips of an increment other
runs, a reset and the passing of time may come in. The invariant of a key says that what has
happened to it counts exactly, and that a key without an end has a run about to give it one.
-/

namespace Bankos

open Effects Prog

/-! ### What happens to a key -/

/-- A run increments the key, or the key is gone: deleted or expired. -/
inductive KeyEvent (ι : Type) where
  | incremented (who : ι) (value : Int)
  | removed
  deriving DecidableEq, Repr

namespace KeyEvent

variable {ι : Type}

/-- The number that a key holds after the events. -/
def tally (n : Int) : List (KeyEvent ι) → Int
  | [] => n
  | incremented _ _ :: es => tally (n + 1) es
  | removed :: es => tally 0 es

/-- Every increment answers the number that the events before it leave, plus one. -/
def Exact (n : Int) : List (KeyEvent ι) → Prop
  | [] => True
  | incremented _ v :: es => v = n + 1 ∧ Exact (n + 1) es
  | removed :: es => Exact 0 es

/-- The numbers that the increments answer. -/
def values (es : List (KeyEvent ι)) : List Int :=
  es.filterMap fun
    | incremented _ v => some v
    | removed => none

/-- The numbers that the increments of one run answer. -/
def valuesOf [DecidableEq ι] (i : ι) (es : List (KeyEvent ι)) : List Int :=
  es.filterMap fun
    | incremented j v => if j = i then some v else none
    | removed => none

/-- The tally of events in a row. -/
theorem tally_append (es es' : List (KeyEvent ι)) (n : Int) :
    tally n (es ++ es') = tally (tally n es) es' := by
  induction es generalizing n with
  | nil => rfl
  | cons e es ih => cases e <;> exact ih _

/-- Events in a row are exact when both parts are, the second from the tally of the first. -/
theorem exact_append {es es' : List (KeyEvent ι)} {n : Int} :
    Exact n (es ++ es') ↔ Exact n es ∧ Exact (tally n es) es' := by
  induction es generalizing n with
  | nil => simp [Exact, tally]
  | cons e es ih =>
    cases e with
    | incremented i v =>
      show v = n + 1 ∧ Exact (n + 1) (es ++ es') ↔ (v = n + 1 ∧ Exact (n + 1) es) ∧ _
      rw [ih, and_assoc]
      rfl
    | removed => exact ih

/-- A key that has just gone holds nothing. -/
theorem tally_of_removed {es : List (KeyEvent ι)} (h : es.getLast? = some removed) (n : Int) :
    tally n es = 0 := by
  obtain ⟨es', rfl⟩ := List.getLast?_eq_some_iff.mp h
  rw [tally_append]
  rfl

/-- Increments in a row count up one by one. -/
theorem values_of_exact {es : List (KeyEvent ι)} {n : Int} (h : Exact n es)
    (hes : removed ∉ es) : values es = (List.range es.length).map fun k : Nat ↦ n + 1 + k := by
  induction es generalizing n with
  | nil => rfl
  | cons e es ih =>
    cases e with
    | incremented i v =>
      obtain ⟨hv, h⟩ := h
      have ih := ih h fun hmem ↦ hes (List.mem_cons_of_mem _ hmem)
      show v :: values es = _
      rw [ih, hv, List.length_cons, List.range_succ_eq_map, List.map_cons, List.map_map]
      refine congrArg₂ List.cons (by simp) (List.map_congr_left fun k _ ↦ ?_)
      simp only [Function.comp_apply]
      omega
    | removed => exact absurd List.mem_cons_self hes

variable [DecidableEq ι]

/-- The values of events in a row. -/
theorem valuesOf_append (i : ι) (es es' : List (KeyEvent ι)) :
    valuesOf i (es ++ es') = valuesOf i es ++ valuesOf i es' := List.filterMap_append

end KeyEvent

section Runs

variable {ι : Type} [DecidableEq ι]

/-- The runs in flight, named by `ι`. -/
abbrev Limiters (ι : Type) := Pool CounterApi JsError ι RateReply Counters

/-- A turn of the runs; time passes in milliseconds. -/
abbrev LimiterTurn (ι : Type) := Turn JsError ι Nat

/-- The runs over the counters `w`, before any of them has started. -/
def Limiters.start (calls : ι → RateCall) (w : Counters) : Limiters ι :=
  Pool.start w fun i ↦ (calls i).run

/-- One turn. -/
abbrev Limiters.step (q : Limiters ι) (t : LimiterTurn ι) : Limiters ι :=
  Pool.step Counters.exec Counters.pass q t

/-- The increment of the key that a turn makes. -/
def Limiters.increments (key : String) (q : Limiters ι) : LimiterTurn ι → List (KeyEvent ι)
  | .act i =>
    match q.pending i with
    | some (.multi key') =>
      if key' = key then [.incremented i (q.world.incremented key).value] else []
    | _ => []
  | _ => []

/-- A turn after which the key is gone. -/
def Limiters.removals (key : String) (q : Limiters ι) (t : LimiterTurn ι) : List (KeyEvent ι) :=
  if (q.world.entries key).isSome && ((q.step t).world.entries key).isNone then [.removed] else []

/-- What a turn does to the key. -/
def Limiters.shows (key : String) (q : Limiters ι) (t : LimiterTurn ι) : List (KeyEvent ι) :=
  q.increments key t ++ q.removals key t

/-- What a schedule does to the key. -/
def Limiters.history (key : String) (q : Limiters ι) (schedule : List (LimiterTurn ι)) :
    List (KeyEvent ι) :=
  Pool.observe Counters.exec Counters.pass (Limiters.shows key) q schedule

/-- Where a run is, with the numbers that its increments of the key have answered. -/
inductive Stage (key : String) : RateCall → CounterProgram RateReply → List Int → Prop
  | waiting (c : RateCall) : Stage key c c.run []
  | arms (ttlSeconds n : Int) : Stage key (.increment key ttlSeconds) (armed key ttlSeconds n) [n]
  | counted (ttlSeconds n : Int) :
      Stage key (.increment key ttlSeconds) (.done (.ok (.attempts n))) [n]
  | armsOther {key' : String} (ttlSeconds n : Int) (h : key' ≠ key) :
      Stage key (.increment key' ttlSeconds) (armed key' ttlSeconds n) []
  | finished {c : RateCall} (a : RateReply) (h : ∀ ttlSeconds, c ≠ .increment key ttlSeconds) :
      Stage key c (.done (.ok a)) []

/-- The invariant of the key: the events so far count exactly and leave the number that the key
holds, every run is at a stage that agrees with them, and a key without an end has a run that is
about to give it one. -/
structure Tracked (calls : ι → RateCall) (key : String) (n₀ : Int) (seen : List (KeyEvent ι))
    (q : Limiters ι) : Prop where
  exact : KeyEvent.Exact n₀ seen
  value : q.world.value key = KeyEvent.tally n₀ seen
  stage : ∀ i, Stage key (calls i) (q.rest i) (KeyEvent.valuesOf i seen)
  arming : ∀ e, q.world.entries key = some e → e.expiresAt = none →
    ∃ i ttlSeconds n, calls i = .increment key ttlSeconds ∧ q.rest i = armed key ttlSeconds n

variable {calls : ι → RateCall} {key : String} {n₀ : Int} {seen : List (KeyEvent ι)}
  {q : Limiters ι} {i : ι} {op : CounterOp}
  {next : Except JsError op.Reply → CounterProgram RateReply}

/-- A turn of a run that has a call to make. -/
theorem Limiters.step_act (hi : q.rest i = .call op next) :
    q.step (.act i) = q.record i op (Counters.exec q.world op).1 next
      (Counters.exec q.world op).2 := by
  simp only [Limiters.step, Pool.step, hi]

/-- A turn shows no removal when the key is not there before it, or is there after it. -/
theorem Limiters.removals_eq_nil {t : LimiterTurn ι}
    (h : q.world.entries key = none ∨ ((q.step t).world.entries key).isSome = true) :
    q.removals key t = [] := by
  unfold removals
  rcases h with h | h
  · simp [h]
  · simp [Option.isSome_iff_ne_none.mp h]

/-- A turn that leaves the key as it was shows no removal. -/
theorem Limiters.removals_of_unchanged {t : LimiterTurn ι}
    (h : (q.step t).world.entries key = q.world.entries key) : q.removals key t = [] := by
  apply removals_eq_nil
  rw [h]
  cases q.world.entries key with
  | none => exact .inl rfl
  | some e => exact .inr rfl

/-- A turn that neither counts the key nor removes it shows nothing. -/
theorem Limiters.shows_eq_nil {t : LimiterTurn ι} (hincrements : q.increments key t = [])
    (hremovals : q.removals key t = []) : q.shows key t = [] := by
  unfold shows
  rw [hincrements, hremovals]
  rfl

omit [DecidableEq ι] in
/-- A turn of a run that does not count the key. -/
theorem Limiters.increments_eq_nil (hi : q.rest i = .call op next) (hop : op ≠ .multi key) :
    q.increments key (.act i) = [] := by
  unfold increments
  dsimp only
  rw [Pool.pending_of_rest hi]
  split
  · next key' heq =>
    cases heq
    exact if_neg fun h ↦ hop (congrArg CounterOp.multi h)
  · rfl

namespace Tracked

/-- A turn of one run keeps the invariant if the events that it shows count exactly, leave what the
key holds, and agree with the stage that the run is at then. -/
theorem of_record (h : Tracked calls key n₀ seen q) (hi : q.rest i = .call op next)
    (hexact : KeyEvent.Exact (KeyEvent.tally n₀ seen) (q.shows key (.act i)))
    (hvalue : (Counters.exec q.world op).2.value key =
      KeyEvent.tally (KeyEvent.tally n₀ seen) (q.shows key (.act i)))
    (hother : ∀ j, j ≠ i → KeyEvent.valuesOf j (q.shows key (.act i)) = [])
    (hstage : Stage key (calls i) (next (Counters.exec q.world op).1)
      (KeyEvent.valuesOf i seen ++ KeyEvent.valuesOf i (q.shows key (.act i))))
    (harming : ∀ e, (Counters.exec q.world op).2.entries key = some e → e.expiresAt = none →
      ∃ j ttlSeconds n, calls j = .increment key ttlSeconds ∧
        (q.step (.act i)).rest j = armed key ttlSeconds n) :
    Tracked calls key n₀ (seen ++ q.shows key (.act i)) (q.step (.act i)) := by
  constructor
  · exact KeyEvent.exact_append.mpr ⟨h.exact, hexact⟩
  · rw [KeyEvent.tally_append, ← hvalue, Limiters.step_act hi]
    rfl
  · intro j
    rw [KeyEvent.valuesOf_append, Limiters.step_act hi]
    by_cases hj : j = i
    · subst hj
      simpa [Pool.record] using hstage
    · rw [hother j hj, List.append_nil]
      simpa [Pool.record, Function.update_of_ne hj] using h.stage j
  · intro e he
    apply harming e
    rw [Limiters.step_act hi] at he
    exact he

/-- A turn that leaves the key alone. -/
theorem quiet (h : Tracked calls key n₀ seen q) (hi : q.rest i = .call op next)
    (hentry : (Counters.exec q.world op).2.entries key = q.world.entries key)
    (hmulti : op ≠ .multi key)
    (hexpire : ∀ seconds, op = .expire key seconds → q.world.entries key = none)
    (hstage : Stage key (calls i) (next (Counters.exec q.world op).1)
      (KeyEvent.valuesOf i seen)) :
    Tracked calls key n₀ (seen ++ q.shows key (.act i)) (q.step (.act i)) := by
  have hworld : (q.step (.act i)).world.entries key = q.world.entries key := by
    rw [Limiters.step_act hi]
    exact hentry
  have hshows : q.shows key (.act i) = [] :=
    Limiters.shows_eq_nil (Limiters.increments_eq_nil hi hmulti)
      (Limiters.removals_of_unchanged hworld)
  apply h.of_record hi
  · rw [hshows]
    trivial
  · rw [hshows]
    unfold Counters.value
    rw [hentry]
    exact h.value
  · rw [hshows]
    exact fun _ _ ↦ rfl
  · rw [hshows]
    simpa [KeyEvent.valuesOf] using hstage
  · intro e he hend
    rw [hentry] at he
    obtain ⟨j, ttlSeconds, n, hj, hrest⟩ := h.arming e he hend
    refine ⟨j, ttlSeconds, n, hj, ?_⟩
    rw [Limiters.step_act hi]
    by_cases hji : j = i
    · subst hji
      rw [hrest] at hi
      cases hi
      rw [hexpire ttlSeconds rfl] at he
      cases he
    · simpa [Pool.record, Function.update_of_ne hji] using hrest

/-- The transaction of an increment. -/
theorem counts {ttlSeconds : Int} (h : Tracked calls key n₀ seen q)
    (hi : q.rest i = .call (.multi key) (afterMulti key ttlSeconds))
    (hcall : calls i = .increment key ttlSeconds) (hnone : KeyEvent.valuesOf i seen = []) :
    Tracked calls key n₀ (seen ++ q.shows key (.act i)) (q.step (.act i)) := by
  have hvalue : (q.world.incremented key).value = q.world.value key + 1 := by
    unfold Counters.incremented Counters.value
    cases q.world.entries key <;> rfl
  have hentry : (Counters.exec q.world (.multi key)).2.entries key =
      some (q.world.incremented key) := Counters.put_entries _ _ _
  have hshows : q.shows key (.act i) = [.incremented i (q.world.incremented key).value] := by
    have hincrements : q.increments key (.act i) =
        [.incremented i (q.world.incremented key).value] := by
      unfold Limiters.increments
      dsimp only
      rw [Pool.pending_of_rest hi]
      exact if_pos rfl
    have hremovals : q.removals key (.act i) = [] := by
      apply Limiters.removals_eq_nil
      rw [Limiters.step_act hi]
      exact .inr (by simp only [Pool.record, hentry, Option.isSome_some])
    unfold Limiters.shows
    rw [hincrements, hremovals]
    rfl
  apply h.of_record hi
  · rw [hshows, hvalue, h.value]
    exact ⟨rfl, trivial⟩
  · rw [hshows]
    show _ = KeyEvent.tally n₀ seen + 1
    rw [← h.value, ← hvalue]
    unfold Counters.value
    rw [hentry]
    rfl
  · intro j hj
    rw [hshows]
    simp [KeyEvent.valuesOf, Ne.symm hj]
  · rw [hshows, hnone, hcall]
    simp only [Counters.exec, KeyEvent.valuesOf, afterMulti, List.filterMap_cons, if_true,
      List.filterMap_nil, List.nil_append]
    split
    · exact .arms _ _
    · exact .counted _ _
  · intro e he hend
    rw [hentry] at he
    cases he
    refine ⟨i, ttlSeconds, (q.world.incremented key).value, hcall, ?_⟩
    have httl : (q.world.incremented key).ttl q.world.now = -1 := by
      unfold CounterEntry.ttl
      rw [hend]
    rw [Limiters.step_act hi]
    simp [Pool.record, Counters.exec, afterMulti, httl]

/-- A time to live is set. -/
theorem expires {ttlSeconds n : Int} (h : Tracked calls key n₀ seen q)
    (hi : q.rest i = armed key ttlSeconds n) (hpos : 0 < ttlSeconds) {e : CounterEntry}
    (he : q.world.entries key = some e)
    (hstage : Stage key (calls i) (.done (.ok (.attempts n))) (KeyEvent.valuesOf i seen)) :
    Tracked calls key n₀ (seen ++ q.shows key (.act i)) (q.step (.act i)) := by
  have hexec : Counters.exec q.world (.expire key ttlSeconds) = (.ok 1, q.world.put key
      (some { e with expiresAt := some (q.world.now + 1000 * ttlSeconds.toNat) })) := by
    simp only [Counters.exec, he, if_pos hpos]
  have hshows : q.shows key (.act i) = [] := by
    apply Limiters.shows_eq_nil (Limiters.increments_eq_nil hi (by simp))
    apply Limiters.removals_eq_nil
    rw [Limiters.step_act hi, hexec]
    exact .inr (by simp [Pool.record])
  apply h.of_record hi
  · rw [hshows]
    trivial
  · rw [hshows, hexec]
    show _ = KeyEvent.tally n₀ seen
    rw [← h.value]
    unfold Counters.value
    rw [Counters.put_entries, he]
    rfl
  · rw [hshows]
    exact fun _ _ ↦ rfl
  · rw [hshows, hexec]
    simpa [KeyEvent.valuesOf] using hstage
  · intro e' he' hend
    rw [hexec, Counters.put_entries] at he'
    cases he'
    cases hend

/-- A key is deleted, if it is there. -/
theorem deletes (h : Tracked calls key n₀ seen q) {next}
    (hi : q.rest i = .call (.del key) next)
    (hstage : Stage key (calls i) (next (Counters.exec q.world (.del key)).1)
      (KeyEvent.valuesOf i seen)) :
    Tracked calls key n₀ (seen ++ q.shows key (.act i)) (q.step (.act i)) := by
  have hentry : (Counters.exec q.world (.del key)).2.entries key = none :=
    Counters.put_entries _ _ _
  have hgone : ((q.step (.act i)).world.entries key).isNone = true := by
    rw [Limiters.step_act hi]
    simp only [Pool.record, hentry, Option.isNone_none]
  have hshows : q.shows key (.act i) =
      if (q.world.entries key).isSome then [.removed] else [] := by
    unfold Limiters.shows Limiters.removals
    rw [Limiters.increments_eq_nil hi (by simp), hgone, Bool.and_true]
    rfl
  have hexact : ∀ n : Int, KeyEvent.Exact n (q.shows key (.act i)) := by
    intro n
    rw [hshows]
    split <;> exact trivial
  have hvalues : ∀ j, KeyEvent.valuesOf j (q.shows key (.act i)) = [] := by
    intro j
    rw [hshows]
    split <;> rfl
  apply h.of_record hi (hexact _)
  · rw [hshows, ← h.value]
    unfold Counters.value
    rw [hentry]
    cases q.world.entries key <;> rfl
  · exact fun j _ ↦ hvalues j
  · rw [hvalues, List.append_nil]
    exact hstage
  · intro e he
    rw [hentry] at he
    cases he

/-- Time goes by. -/
theorem passes (h : Tracked calls key n₀ seen q) (ms : Nat) :
    Tracked calls key n₀ (seen ++ q.shows key (.pass ms)) (q.step (.pass ms)) := by
  have hentry : (q.step (.pass ms)).world.entries key =
      (q.world.entries key).filter (·.live (q.world.now + ms)) := rfl
  have hincrements : q.increments key (.pass ms) = [] := rfl
  have hvalues : ∀ j, KeyEvent.valuesOf j (q.shows key (.pass ms)) = [] := by
    intro j
    unfold Limiters.shows Limiters.removals
    rw [hincrements]
    split <;> rfl
  have hstage : ∀ j, Stage key (calls j) ((q.step (.pass ms)).rest j)
      (KeyEvent.valuesOf j (seen ++ q.shows key (.pass ms))) := by
    intro j
    rw [KeyEvent.valuesOf_append, hvalues, List.append_nil]
    exact h.stage j
  by_cases hsame : (q.step (.pass ms)).world.entries key = q.world.entries key
  · have hshows : q.shows key (.pass ms) = [] :=
      Limiters.shows_eq_nil hincrements (Limiters.removals_of_unchanged hsame)
    refine ⟨?_, ?_, hstage, ?_⟩
    · rw [hshows, List.append_nil]
      exact h.exact
    · rw [hshows, List.append_nil, ← h.value]
      unfold Counters.value
      rw [hsame]
    · intro e he hend
      rw [hsame] at he
      exact h.arming e he hend
  · -- the key has expired
    have hgone : (q.step (.pass ms)).world.entries key = none := by
      rw [hentry, Option.filter_eq_none_iff]
      intro e he hlive
      rw [hentry, he, Option.filter_some_pos hlive] at hsame
      exact hsame rfl
    have hshows : q.shows key (.pass ms) = [.removed] := by
      have hthere : (q.world.entries key).isSome = true := by
        rw [Option.isSome_iff_ne_none]
        intro he
        exact hsame (hgone.trans he.symm)
      unfold Limiters.shows Limiters.removals
      rw [hthere, hgone, hincrements]
      rfl
    refine ⟨?_, ?_, hstage, ?_⟩
    · rw [hshows]
      exact KeyEvent.exact_append.mpr ⟨h.exact, trivial⟩
    · rw [hshows, KeyEvent.tally_append]
      unfold Counters.value
      rw [hgone]
      rfl
    · intro e he
      rw [hgone] at he
      cases he

/-- A finished run lets its turn go by. -/
theorem idle (h : Tracked calls key n₀ seen q) {r : Except JsError RateReply}
    (hi : q.rest i = .done r) :
    Tracked calls key n₀ (seen ++ q.shows key (.act i)) (q.step (.act i)) := by
  have hstep : q.step (.act i) = q := by simp only [Limiters.step, Pool.step, hi]
  have hshows : q.shows key (.act i) = [] := by
    apply Limiters.shows_eq_nil
    · simp only [Limiters.increments, Pool.pending, hi]
    · exact Limiters.removals_of_unchanged (by rw [hstep])
  rw [hshows, List.append_nil, hstep]
  exact h

/-- The first turn of a run. -/
theorem starts (h : Tracked calls key n₀ seen q) (hi : q.rest i = (calls i).run)
    (hvalues : KeyEvent.valuesOf i seen = []) :
    Tracked calls key n₀ (seen ++ q.shows key (.act i)) (q.step (.act i)) := by
  cases hcall : calls i with
  | increment key' ttlSeconds =>
    rw [hcall, run_increment] at hi
    by_cases hkey : key' = key
    · subst hkey
      exact h.counts hi hcall hvalues
    · apply h.quiet hi
      · exact Counters.put_entries_of_ne _ _ (Ne.symm hkey)
      · exact fun heq ↦ hkey (CounterOp.multi.inj heq)
      · rintro _ ⟨⟩
      · rw [hcall, hvalues]
        simp only [Counters.exec, afterMulti]
        split
        · exact .armsOther _ _ hkey
        · exact .finished _ fun _ heq ↦ hkey (RateCall.increment.inj heq).1
  | reset key' =>
    rw [hcall] at hi
    have hstage : Stage key (calls i) (.done (.ok .done)) (KeyEvent.valuesOf i seen) := by
      rw [hcall, hvalues]
      exact .finished _ fun _ ↦ by simp
    by_cases hkey : key' = key
    · subst hkey
      exact h.deletes hi hstage
    · apply h.quiet hi
      · exact Counters.put_entries_of_ne _ _ (Ne.symm hkey)
      · rintro ⟨⟩
      · rintro _ ⟨⟩
      · exact hstage
  | read key' =>
    rw [hcall] at hi
    apply h.quiet hi
    · rfl
    · rintro ⟨⟩
    · rintro _ ⟨⟩
    · rw [hcall, hvalues]
      exact .finished _ fun _ ↦ by simp

/-- The second turn of an increment. -/
theorem arms {key' : String} {ttlSeconds n : Int} (h : Tracked calls key n₀ seen q)
    (hi : q.rest i = armed key' ttlSeconds n) (hpos : 0 < ttlSeconds)
    (hstage : Stage key (calls i) (.done (.ok (.attempts n))) (KeyEvent.valuesOf i seen)) :
    Tracked calls key n₀ (seen ++ q.shows key (.act i)) (q.step (.act i)) := by
  have hreply : ∃ m, (Counters.exec q.world (.expire key' ttlSeconds)).1 = .ok m := by
    simp only [Counters.exec]
    split
    · exact ⟨_, rfl⟩
    · rw [if_pos hpos]
      exact ⟨_, rfl⟩
  obtain ⟨m, hm⟩ := hreply
  cases he : q.world.entries key' with
  | none =>
    apply h.quiet hi
    · simp only [Counters.exec, he]
    · rintro ⟨⟩
    · intro seconds heq
      rw [← (CounterOp.expire.inj heq).1]
      exact he
    · rw [hm]
      exact hstage
  | some e =>
    by_cases hkey : key' = key
    · subst hkey
      exact h.expires hi hpos he hstage
    · apply h.quiet hi
      · simp only [Counters.exec, he, if_pos hpos]
        exact Counters.put_entries_of_ne _ _ (Ne.symm hkey)
      · rintro ⟨⟩
      · intro seconds heq
        exact absurd (CounterOp.expire.inj heq).1 hkey
      · rw [hm]
        exact hstage

/-- The invariant is kept by every turn in which no call fails. -/
theorem step (h : Tracked calls key n₀ seen q)
    (hpos : ∀ i key ttlSeconds, calls i = .increment key ttlSeconds → 0 < ttlSeconds)
    (t : LimiterTurn ι) (ht : ∀ i e, t ≠ .fail i e) :
    Tracked calls key n₀ (seen ++ q.shows key t) (q.step t) := by
  cases t with
  | fail i e => exact absurd rfl (ht i e)
  | pass ms => exact h.passes ms
  | act i =>
    have hstage := h.stage i
    generalize hcall : calls i = c, hrest : q.rest i = r, hvalues : KeyEvent.valuesOf i seen = vs
      at hstage
    cases hstage with
    | waiting => exact h.starts (by rw [hrest, hcall]) hvalues
    | arms ttlSeconds n =>
      exact h.arms hrest (hpos i _ _ hcall) (by rw [hcall, hvalues]; exact .counted _ _)
    | counted ttlSeconds n => exact h.idle hrest
    | armsOther ttlSeconds n hne =>
      refine h.arms hrest (hpos i _ _ hcall) ?_
      rw [hcall, hvalues]
      exact .finished _ fun _ heq ↦ hne (RateCall.increment.inj heq).1
    | finished a hother => exact h.idle hrest

end Tracked

/-- What is promised of a key: between two removals of it the increments answer one, two, three and
so on; a run returns the number that its only increment answered; and when the key has no end, a
run is about to give it one. -/
structure CountsAndExpires (calls : ι → RateCall) (key : String) (w : Counters)
    (schedule : List (LimiterTurn ι)) : Prop where
  counts : ∀ before between after,
    (Limiters.start calls w).history key schedule = before ++ between ++ after →
    before.getLast? = some .removed ∨ before = [] ∧ w.entries key = none → .removed ∉ between →
    KeyEvent.values between = (List.range between.length).map fun k : Nat ↦ (k : Int) + 1
  returns : ∀ i ttlSeconds a, calls i = .increment key ttlSeconds →
    ((Limiters.start calls w).play Counters.exec Counters.pass schedule).Returned i a →
    ∃ n, a = .attempts n ∧
      KeyEvent.valuesOf i ((Limiters.start calls w).history key schedule) = [n]
  expires : ∀ e,
    ((Limiters.start calls w).play Counters.exec Counters.pass schedule).world.entries key =
      some e → e.expiresAt = none →
    ∃ i ttlSeconds, calls i = .increment key ttlSeconds ∧
      ((Limiters.start calls w).play Counters.exec Counters.pass schedule).pending i =
        some (.expire key ttlSeconds) ∧
      ∃ e' at', (Limiters.step ((Limiters.start calls w).play Counters.exec Counters.pass schedule)
        (.act i)).world.entries key = some e' ∧ e'.expiresAt = some at'

/-- Before any run has started. -/
theorem tracked_start (calls : ι → RateCall) (key : String) (w : Counters)
    (hw : ∀ e, w.entries key = some e → e.expiresAt ≠ none) :
    Tracked calls key (w.value key) [] (Limiters.start calls w) where
  exact := trivial
  value := rfl
  stage i := .waiting (calls i)
  arming e he hend := absurd hend (hw e he)

/-- In every interleaving of increments with positive times to live, resets and reads, in which no
call fails, the increments count exactly and the key does not stay without an end. -/
theorem counters_expire (calls : ι → RateCall) (key : String) (w : Counters)
    (hw : ∀ e, w.entries key = some e → e.expiresAt ≠ none)
    (hpos : ∀ i key ttlSeconds, calls i = .increment key ttlSeconds → 0 < ttlSeconds)
    (schedule : List (LimiterTurn ι)) (hschedule : ∀ t ∈ schedule, ∀ i e, t ≠ .fail i e) :
    CountsAndExpires calls key w schedule := by
  have htracked : Tracked calls key (w.value key) ((Limiters.start calls w).history key schedule)
      ((Limiters.start calls w).play Counters.exec Counters.pass schedule) :=
    Pool.observe_invariant (A := fun t ↦ ∀ i e, t ≠ .fail i e)
      (J := Tracked calls key (w.value key)) (tracked_start calls key w hw)
      (fun seen q t ht h ↦ h.step hpos t ht) hschedule
  constructor
  · intro before between after hhistory hstart hbetween
    have hzero : KeyEvent.tally (w.value key) before = 0 := by
      rcases hstart with hremoved | ⟨rfl, hnone⟩
      · exact KeyEvent.tally_of_removed hremoved _
      · show w.value key = 0
        unfold Counters.value
        rw [hnone]
        rfl
    have hexact := htracked.exact
    rw [hhistory, KeyEvent.exact_append, KeyEvent.exact_append, hzero] at hexact
    rw [KeyEvent.values_of_exact hexact.1.2 hbetween]
    exact List.map_congr_left fun k _ ↦ by omega
  · intro i ttlSeconds a hcall hreturned
    have hstage := htracked.stage i
    rw [hcall, show _ = _ from hreturned] at hstage
    generalize hvalues : KeyEvent.valuesOf i _ = vs at hstage
    cases hstage with
    | counted ttlSeconds n => exact ⟨n, rfl, rfl⟩
    | finished a hother => exact absurd rfl (hother ttlSeconds)
  · intro e he hend
    obtain ⟨i, ttlSeconds, n, hcall, hrest⟩ := htracked.arming e he hend
    refine ⟨i, ttlSeconds, hcall, Pool.pending_of_rest hrest, ?_⟩
    rw [Limiters.step_act hrest]
    simp only [Pool.record, Counters.exec, he, if_pos (hpos i key ttlSeconds hcall),
      Counters.put_entries]
    exact ⟨_, _, rfl, rfl⟩

end Runs

/-! ### A reset between the two round trips -/

namespace Sample

/-- Two increments of a key, and a reset of it. -/
def attempts : Nat → RateCall
  | 0 => .increment "rate:123" 60
  | 1 => .increment "rate:123" 60
  | _ => .reset "rate:123"

/-- The key is not there. -/
def noCounters : Counters := ⟨fun _ ↦ none, 0⟩

/-- The reset comes between the two round trips of the first increment, and the second increment
counts before the first one sets its time to live. -/
def resetBetween : List (LimiterTurn Nat) := [.act 0, .act 2, .act 1, .act 0]

example : (Limiters.start attempts noCounters).history "rate:123" resetBetween =
    [.incremented 0 1, .removed, .incremented 1 1] := by decide

end Sample

/-- The case of that schedule. -/
theorem counters_expire_resetBetween :
    CountsAndExpires Sample.attempts "rate:123" Sample.noCounters Sample.resetBetween :=
  counters_expire Sample.attempts "rate:123" Sample.noCounters (fun _ he ↦ by cases he)
    (fun i key ttlSeconds h ↦ by
      unfold Sample.attempts at h
      split at h <;> cases h <;> decide)
    Sample.resetBetween (by simp [Sample.resetBetween])

end Bankos
