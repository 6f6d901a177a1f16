import Bankos.Base.Pool
import Mathlib.Order.Closure
import Mathlib.Order.CompletePartialOrder

/-!
# Clients

A client makes some of the requests of a pool. It knows some messages at first, it learns what its
requests are answered with, and it derives further messages from these. Each of its requests starts
with messages that it can derive by then. So what has been shown of the answers up to some moment
may be used for whatever is presented then, and for the answers to it.
-/

namespace Effects

open Prog

/-- Which requests a client makes, what it knows at first, and what it can derive. -/
structure Client (ι M : Type) where
  makes : ι → Prop
  knows : Set M
  derive : ClosureOperator (Set M)

/-- What is known and what can be made. -/
def Client.adding {M : Type} (made : Set M) : ClosureOperator (Set M) where
  toFun known := known ∪ made
  monotone' _ _ h := Set.union_subset_union_left _ h
  le_closure' _ := Set.subset_union_left
  idempotent' known := by
    show known ∪ _ ∪ _ = known ∪ _
    rw [Set.union_assoc, Set.union_self]

namespace Pool

variable {I : Interface} {ε ι α W T M : Type} [DecidableEq ι]

/-- What the client knows and what it has been told. -/
def learnt (c : Client ι M) (tells : α → Set M) (q : Pool I ε ι α W) : Set M :=
  c.knows ∪ {m | ∃ i a, c.makes i ∧ q.Returned i a ∧ m ∈ tells a}

/-- The turns in which the client starts a request only with messages that it can derive. -/
def derives (c : Client ι M) (tells : α → Set M) (presents : ι → Set M) (q : Pool I ε ι α W) :
    Turn ε ι T → Prop
  | .act i => c.makes i → q.NotStarted i → presents i ⊆ c.derive (q.learnt c tells)
  | .fail i _ => c.makes i → q.NotStarted i → presents i ⊆ c.derive (q.learnt c tells)
  | .pass _ => True

variable {exec : Handler I ε W} {pass : T → W → W} {ok : Pool I ε ι α W → Turn ε ι T → Prop}
  {p q : Pool I ε ι α W} {c : Client ι M} {tells : α → Set M} {presents : ι → Set M}

/-- What a turn can do. -/
theorem step_cases (exec : Handler I ε W) (pass : T → W → W) (q : Pool I ε ι α W)
    (t : Turn ε ι T) :
    ((q.step exec pass t).rest = q.rest ∧ (q.step exec pass t).log = q.log) ∨
      ∃ i op r next w, q.rest i = .call op next ∧ q.step exec pass t = q.record i op r next w ∧
        (t = .act i ∨ ∃ e, t = .fail i e) := by
  cases t with
  | act i =>
    cases hi : q.rest i with
    | done r =>
      left
      simp only [Pool.step, hi, and_self]
    | call op next =>
      right
      exact ⟨i, op, _, next, _, hi, by simp only [Pool.step, hi]; rfl, .inl rfl⟩
  | fail i e =>
    cases hi : q.rest i with
    | done r =>
      left
      simp only [Pool.step, hi, and_self]
    | call op next =>
      right
      exact ⟨i, op, .error e, next, q.world, hi, by simp only [Pool.step, hi], .inr ⟨e, rfl⟩⟩
  | pass t => exact .inl ⟨rfl, rfl⟩

/-- An answer stays. -/
theorem Returned.step {i : ι} {a : α} (h : q.Returned i a) (t : Turn ε ι T) :
    (q.step exec pass t).Returned i a := by
  rcases step_cases exec pass q t with
    ⟨hrest, -⟩ | ⟨j, op, r, next, w, hj, heq, -⟩
  · unfold Returned
    rw [hrest]
    exact h
  · have hne : i ≠ j := by
      rintro rfl
      rw [h] at hj
      cases hj
    rw [heq]
    show Function.update q.rest j (next r) i = _
    rw [Function.update_of_ne hne]
    exact h

/-- Answers stay along a run. -/
theorem Returned.stays {i : ι} {a : α} (h : p.Returned i a) (hq : Reaches exec pass ok p q) :
    q.Returned i a := by
  induction hq with
  | refl => exact h
  | step t _ _ ih => exact ih.step t

/-- A client forgets nothing. -/
theorem learnt_subset (hq : Reaches exec pass ok p q) : p.learnt c tells ⊆ q.learnt c tells := by
  rintro m (hm | ⟨i, a, hi, ha, hm⟩)
  · exact .inl hm
  · exact .inr ⟨i, a, hi, ha.stays hq, hm⟩

/-- The rule for the answers to a client: an answer may be judged by those that were there before,
with what the request has presented derived from these. -/
theorem Reaches.answers (c : Client ι M) (tells : α → Set M) (presents : ι → Set M) {w : W}
    {rest : ι → Prog I ε α} {J : Pool I ε ι α W → ι → α → Prop}
    (hq : Reaches exec pass ok (start w rest) q)
    (hok : ∀ q t, ok q t → q.derives c tells presents t)
    (hmono : ∀ {p q}, Reaches exec pass ok p q → ∀ i a, J p i a → J q i a)
    (hdone : ∀ i a, c.makes i → rest i = .done (.ok a) → J (start w rest) i a)
    (hstep : ∀ p q, Reaches exec pass ok (start w rest) p → Reaches exec pass ok p q →
      (∀ j b, c.makes j → p.Returned j b → J q j b) →
      ∀ i a, c.makes i → q.Returned i a → presents i ⊆ c.derive (p.learnt c tells) → J q i a) :
    ∀ i a, c.makes i → q.Returned i a → J q i a := by
  suffices h : (∀ i, c.makes i → ¬ q.NotStarted i → presents i ⊆ c.derive (q.learnt c tells)) ∧
      ∀ i a, c.makes i → q.Returned i a → J q i a from h.2
  induction hq with
  | refl => exact ⟨fun i _ hi ↦ (hi fun e he ↦ nomatch he).elim, hdone⟩
  | @step q t hq ht ih =>
    obtain ⟨hpresented, hanswers⟩ := ih
    have hnext : Reaches exec pass ok q (q.step exec pass t) := .step t .refl ht
    have hlearnt : c.derive (q.learnt c tells) ⊆
        c.derive ((q.step exec pass t).learnt c tells) :=
      c.derive.monotone (learnt_subset hnext)
    have hkept : ∀ j b, c.makes j → q.Returned j b → J (q.step exec pass t) j b :=
      fun j b hj hb ↦ hmono hnext j b (hanswers j b hj hb)
    rcases step_cases exec pass q t with
      ⟨hrest, hlog⟩ | ⟨i, op, r, next, w', hi, heq, hturn⟩
    · refine ⟨fun j hj hstarted ↦ ?_, fun j b hj hb ↦ ?_⟩
      · apply (hpresented j hj _).trans hlearnt
        unfold NotStarted at hstarted ⊢
        rwa [hlog] at hstarted
      · apply hkept j b hj
        unfold Returned at hb ⊢
        rwa [hrest] at hb
    · -- the request of this turn presents what was derived before the turn
      have hown : c.makes i → presents i ⊆ c.derive (q.learnt c tells) := by
        intro hmakes
        by_cases hstarted : q.NotStarted i
        · have hderives := hok q t ht
          rcases hturn with rfl | ⟨e, rfl⟩
          · exact hderives hmakes hstarted
          · exact hderives hmakes hstarted
        · exact hpresented i hmakes hstarted
      refine ⟨fun j hj hstarted ↦ ?_, fun j b hj hb ↦ ?_⟩
      · by_cases hij : i = j
        · subst hij
          exact (hown hj).trans hlearnt
        · apply (hpresented j hj _).trans hlearnt
          intro hn
          apply hstarted
          rw [heq]
          exact (notStarted_record _ _ _ _ _ _ _).mpr ⟨hn, hij⟩
      · by_cases hij : j = i
        · subst hij
          exact hstep q _ hq hnext hkept j b hj hb (hown hj)
        · apply hkept j b hj
          rw [heq] at hb
          have hb : Function.update q.rest i (next r) j = .done (.ok b) := hb
          rwa [Function.update_of_ne hij] at hb

/-- The moment at which a call was answered, if it did not fail. -/
theorem Reaches.moment (hq : Reaches exec pass ok p q) {e : Entry I ε ι} (he : e ∈ q.log) :
    e ∈ p.log ∨ (∃ x, e.reply = .error x) ∨
      ∃ m m', Reaches exec pass ok p m ∧ Reaches exec pass ok m m' ∧ Reaches exec pass ok m' q ∧
        exec m.world e.op = (e.reply, m'.world) := by
  induction hq with
  | refl => exact .inl he
  | @step q t hq ht ih =>
    have hnext : Reaches exec pass ok q (q.step exec pass t) := .step t .refl ht
    have hearlier : e ∈ q.log → e ∈ p.log ∨ (∃ x, e.reply = .error x) ∨
        ∃ m m', Reaches exec pass ok p m ∧ Reaches exec pass ok m m' ∧
          Reaches exec pass ok m' (q.step exec pass t) ∧
          exec m.world e.op = (e.reply, m'.world) := by
      intro he
      rcases ih he with he | herror | ⟨m, m', hm, hmm', hq', hreply⟩
      · exact .inl he
      · exact .inr (.inl herror)
      · exact .inr (.inr ⟨m, m', hm, hmm', hq'.trans hnext, hreply⟩)
    cases t with
    | act i =>
      cases hi : q.rest i with
      | done r =>
        simp only [Pool.step, hi] at he
        exact hearlier he
      | call op next =>
        have hlog : (q.step exec pass (.act i)).log = q.log ++ [⟨i, op, (exec q.world op).1⟩] := by
          simp only [Pool.step, hi, record]
        have hworld : (q.step exec pass (.act i)).world = (exec q.world op).2 := by
          simp only [Pool.step, hi, record]
        rw [hlog] at he
        rcases List.mem_append.mp he with he | he
        · exact hearlier he
        · rw [List.mem_singleton.mp he]
          refine .inr (.inr ⟨q, _, hq, hnext, .refl, ?_⟩)
          rw [hworld]
    | fail i x =>
      cases hi : q.rest i with
      | done r =>
        simp only [Pool.step, hi] at he
        exact hearlier he
      | call op next =>
        simp only [Pool.step, hi] at he
        rcases List.mem_append.mp he with he | he
        · exact hearlier he
        · rw [List.mem_singleton.mp he]
          exact .inr (.inl ⟨x, rfl⟩)
    | pass d => exact hearlier he

end Pool
end Effects
