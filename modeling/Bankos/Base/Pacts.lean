import Bankos.Base.Pool

/-!
# Pacts

Between two calls of a program the other programs of a pool may change the world and extend the
log. A pact says how this scene may change at all, and which calls each program may make in which
scene, such that these calls change the scene as agreed. Programs that each keep to the pact,
relying on the others for it, keep to it together in every interleaving.
-/

namespace Effects

open Prog

/-- The world, and the calls that have been answered so far. -/
structure Scene (I : Interface) (ε ι W : Type) where
  world : W
  log : List (Entry I ε ι)

namespace Scene

variable {I : Interface} {ε ι W : Type}

/-- The call of `i` is answered with `r`, and the world becomes `w`. -/
def record (s : Scene I ε ι W) (i : ι) (op : I.Op) (r : Except ε (I.Reply op)) (w : W) :
    Scene I ε ι W :=
  ⟨w, s.log ++ [⟨i, op, r⟩]⟩

/-- The call of `i` is made. -/
def act (exec : Handler I ε W) (s : Scene I ε ι W) (i : ι) (op : I.Op) : Scene I ε ι W :=
  s.record i op (exec s.world op).1 (exec s.world op).2

/-- The program `i` has made the call and been answered with `a`. -/
def Answered (s : Scene I ε ι W) (i : ι) (op : I.Op) (a : I.Reply op) : Prop :=
  ⟨i, op, .ok a⟩ ∈ s.log

/-- A call that has just been made has been answered. -/
theorem answered_act {exec : Handler I ε W} {s : Scene I ε ι W} {i : ι} {op : I.Op}
    {a : I.Reply op} (h : (exec s.world op).1 = .ok a) : (s.act exec i op).Answered i op a := by
  show _ ∈ s.log ++ [⟨i, op, (exec s.world op).1⟩]
  rw [h]
  exact List.mem_append_right _ (List.mem_singleton.mpr rfl)

/-- What has been answered after a call was answered before, or is this call. -/
theorem of_answered_act {exec : Handler I ε W} {s : Scene I ε ι W} {i j : ι} {op op' : I.Op}
    {a : I.Reply op'} (h : (s.act exec i op).Answered j op' a) :
    s.Answered j op' a ∨ j = i ∧ op = op' ∧ (exec s.world op').1 = .ok a := by
  rcases List.mem_append.mp h with hold | hnew
  · exact .inl hold
  · have hentry : (⟨j, op', .ok a⟩ : Entry I ε ι) = ⟨i, op, (exec s.world op).1⟩ :=
      List.mem_singleton.mp hnew
    injection hentry with hwho hop hreply
    subst hop
    exact .inr ⟨hwho, rfl, (eq_of_heq hreply).symm⟩

/-- A call that fails is not answered. -/
theorem of_answered_fail {s : Scene I ε ι W} {i j : ι} {op op' : I.Op} {a : I.Reply op'} {e : ε}
    {w : W} (h : (s.record i op (.error e) w).Answered j op' a) : s.Answered j op' a := by
  rcases List.mem_append.mp h with hold | hnew
  · exact hold
  · have hentry : (⟨j, op', .ok a⟩ : Entry I ε ι) = ⟨i, op, .error e⟩ := List.mem_singleton.mp hnew
    injection hentry with _ hop hreply
    subst hop
    cases eq_of_heq hreply

end Scene

/-- What the programs of a pool have in common. -/
def Pool.scene {I : Interface} {ε ι α W : Type} (p : Pool I ε ι α W) : Scene I ε ι W :=
  ⟨p.world, p.log⟩

/-- How the scene may change, and which calls may be made when, by whom. -/
structure Pact {I : Interface} {ε W : Type} (exec : Handler I ε W) (ι : Type) where
  leads : Scene I ε ι W → Scene I ε ι W → Prop
  refl : ∀ s, leads s s
  trans : ∀ {s s' s''}, leads s s' → leads s' s'' → leads s s''
  allows : ι → Scene I ε ι W → I.Op → Prop
  keeps : ∀ {i s op}, allows i s op → leads s (s.act exec i op)
  fails : ∀ s i op e, leads s (s.record i op (.error e) s.world)

namespace Prog

variable {I : Interface} {ε ι α β γ W : Type} {exec : Handler I ε W} {P : Pact exec ι} {i : ι}
  {s s' : Scene I ε ι W}

/-- From the scene `s` on, the program keeps to the pact as `i`, and when it returns, then what it
returns satisfies `Q` from then on. Any call may fail. -/
def Keeps (P : Pact exec ι) (i : ι) : Prog I ε α → (Scene I ε ι W → α → Prop) →
    Scene I ε ι W → Prop
  | done r, Q, s => ∀ s', P.leads s s' → ∀ a, r = .ok a → Q s' a
  | call op next, Q, s => ∀ s', P.leads s s' → P.allows i s' op ∧
      (next (exec s'.world op).1).Keeps P i Q (s'.act exec i op) ∧
      ∀ e, (next (.error e)).Keeps P i Q (s'.record i op (.error e) s'.world)

/-- What keeps to the pact still does later. -/
theorem Keeps.later {p : Prog I ε α} {Q : Scene I ε ι W → α → Prop} (h : p.Keeps P i Q s)
    (hs : P.leads s s') : p.Keeps P i Q s' := by
  cases p with
  | done r => exact fun s'' hs' ↦ h s'' (P.trans hs hs')
  | call op next => exact fun s'' hs' ↦ h s'' (P.trans hs hs')

/-- A program that returns at once. -/
theorem keeps_pure {a : α} {Q : Scene I ε ι W → α → Prop} (h : ∀ s', P.leads s s' → Q s' a) :
    (pure a : Prog I ε α).Keeps P i Q s := by
  rintro s' hs _ ⟨⟩
  exact h s' hs

/-- A program that throws at once. -/
theorem keeps_throw {e : ε} {Q : Scene I ε ι W → α → Prop} :
    (throw e : Prog I ε α).Keeps P i Q s := by
  rintro s' hs _ ⟨⟩

/-- One call. -/
theorem keeps_perform {op : I.Op} {Q : Scene I ε ι W → I.Reply op → Prop}
    (h : ∀ s', P.leads s s' → P.allows i s' op ∧
      ∀ a, (exec s'.world op).1 = .ok a → ∀ s'', P.leads (s'.act exec i op) s'' → Q s'' a) :
    (perform op : Prog I ε (I.Reply op)).Keeps P i Q s := by
  intro s' hs
  obtain ⟨hallows, hreply⟩ := h s' hs
  refine ⟨hallows, fun s'' hs' a ha ↦ hreply a ha s'' hs', fun e s'' _ a ha ↦ ?_⟩
  cases ha

/-- A weaker condition, where the scene may have changed. -/
theorem Keeps.mono {p : Prog I ε α} {Q Q' : Scene I ε ι W → α → Prop} (hp : p.Keeps P i Q s)
    (h : ∀ s' a, P.leads s s' → Q s' a → Q' s' a) : p.Keeps P i Q' s := by
  induction p generalizing s with
  | done r => exact fun s' hs a ha ↦ h s' a hs (hp s' hs a ha)
  | call op next ih =>
    intro s' hs
    obtain ⟨hallows, hnext, herror⟩ := hp s' hs
    refine ⟨hallows, ih _ hnext fun s'' a hs' ↦ h s'' a ?_, fun e ↦ ih _ (herror e)
      fun s'' a hs' ↦ h s'' a ?_⟩
    · exact P.trans hs (P.trans (P.keeps hallows) hs')
    · exact P.trans hs (P.trans (P.fails s' i op e) hs')

/-- A sequence. -/
theorem Keeps.bind {p : Prog I ε α} {f : α → Prog I ε β} {Q : Scene I ε ι W → β → Prop}
    (h : p.Keeps P i (fun s' a ↦ (f a).Keeps P i Q s') s) : (p >>= f).Keeps P i Q s := by
  induction p generalizing s with
  | done r =>
    cases r with
    | ok a => exact h s (P.refl s) a rfl
    | error e =>
      rintro s' hs b ⟨⟩
  | call op next ih =>
    intro s' hs
    obtain ⟨hallows, hnext, herror⟩ := h s' hs
    exact ⟨hallows, ih _ hnext, fun e ↦ ih _ (herror e)⟩

/-- A sequence whose first part returns what satisfies `R`. -/
theorem Keeps.seq {p : Prog I ε α} {f : α → Prog I ε β} {R : Scene I ε ι W → α → Prop}
    {Q : Scene I ε ι W → β → Prop} (hp : p.Keeps P i R s)
    (hf : ∀ s' a, P.leads s s' → R s' a → (f a).Keeps P i Q s') : (p >>= f).Keeps P i Q s :=
  Keeps.bind (hp.mono hf)

/-- A guarded program. -/
theorem keeps_tryCatch {p : Prog I ε α} {h : ε → Prog I ε α} {Q : Scene I ε ι W → α → Prop}
    (hp : p.Keeps P i Q s) (hh : ∀ e s', P.leads s s' → (h e).Keeps P i Q s') :
    (MonadExcept.tryCatch p h : Prog I ε α).Keeps P i Q s := by
  induction p generalizing s with
  | done r =>
    cases r with
    | ok a => exact hp
    | error e => exact hh e s (P.refl s)
  | call op next ih =>
    intro s' hs
    obtain ⟨hallows, hnext, herror⟩ := hp s' hs
    refine ⟨hallows, ih _ hnext fun e s'' hs' ↦ hh e s'' ?_, fun e ↦ ih _ (herror e)
      fun e' s'' hs' ↦ hh e' s'' ?_⟩
    · exact P.trans hs (P.trans (P.keeps hallows) hs')
    · exact P.trans hs (P.trans (P.fails s' i op e) hs')

/-- A program that makes no call but allowed ones. -/
theorem Uses.keeps {p : Prog I ε α} {allowed : I.Op → Prop} (hp : p.Uses allowed)
    (h : ∀ s' op, P.leads s s' → allowed op → P.allows i s' op) :
    p.Keeps P i (fun _ _ ↦ True) s := by
  induction p generalizing s with
  | done r => exact fun _ _ _ _ ↦ trivial
  | call op next ih =>
    intro s' hs
    have hallows := h s' op hs hp.1
    refine ⟨hallows, ih _ (hp.2 _) fun s'' op' hs' ↦ h s'' op' ?_, fun e ↦ ih _ (hp.2 _)
      fun s'' op' hs' ↦ h s'' op' ?_⟩
    · exact P.trans hs (P.trans (P.keeps hallows) hs')
    · exact P.trans hs (P.trans (P.fails s' i op e) hs')

/-- Any program that makes no call but allowed ones in front of a program. -/
theorem Uses.keeps_then {p : Prog I ε α} {f : α → Prog I ε β} {allowed : I.Op → Prop}
    {Q : Scene I ε ι W → β → Prop} (hp : p.Uses allowed)
    (h : ∀ s' op, P.leads s s' → allowed op → P.allows i s' op)
    (hf : ∀ s' a, P.leads s s' → (f a).Keeps P i Q s') : (p >>= f).Keeps P i Q s :=
  (hp.keeps h).seq fun s' a hs _ ↦ hf s' a hs

end Prog

namespace Pool

variable {I : Interface} {ε ι α W T : Type} [DecidableEq ι] {exec : Handler I ε W}
  {pass : T → W → W} {ok : Pool I ε ι α W → Turn ε ι T → Prop} {q : Pool I ε ι α W}
  {P : Pact exec ι} {w : W} {rest : ι → Prog I ε α} {Q : ι → Scene I ε ι W → α → Prop}

/-- Programs that each keep to the pact keep to it together. -/
theorem Reaches.keeps (hq : Reaches exec pass ok (start w rest) q)
    (hpass : ∀ (s : Scene I ε ι W) t, P.leads s ⟨pass t s.world, s.log⟩)
    (hrest : ∀ i, (rest i).Keeps P i (Q i) ⟨w, []⟩) :
    P.leads ⟨w, []⟩ q.scene ∧ ∀ i, (q.rest i).Keeps P i (Q i) q.scene := by
  have hrecord : ∀ (q : Pool I ε ι α W) j op (r : Except ε (I.Reply op))
      (next : Except ε (I.Reply op) → Prog I ε α) w',
      P.leads q.scene (q.scene.record j op r w') →
      (next r).Keeps P j (Q j) (q.scene.record j op r w') →
      (P.leads ⟨w, []⟩ q.scene ∧ ∀ i, (q.rest i).Keeps P i (Q i) q.scene) →
      P.leads ⟨w, []⟩ (q.scene.record j op r w') ∧
        ∀ i, ((q.record j op r next w').rest i).Keeps P i (Q i) (q.scene.record j op r w') := by
    rintro q j op r next w' hstep hnext ⟨hleads, hkeeps⟩
    refine ⟨P.trans hleads hstep, fun i ↦ ?_⟩
    show Keeps P i (Function.update q.rest j _ i) (Q i) _
    by_cases hi : i = j
    · subst hi
      rw [Function.update_self]
      exact hnext
    · rw [Function.update_of_ne hi]
      exact (hkeeps i).later hstep
  apply hq.invariant (J := fun q ↦ P.leads ⟨w, []⟩ q.scene ∧
    ∀ i, (q.rest i).Keeps P i (Q i) q.scene)
  · exact ⟨P.refl _, hrest⟩
  · rintro q i op next _ hJ _ hi
    have hown := hJ.2 i
    rw [hi] at hown
    obtain ⟨hallows, hnext, -⟩ := hown q.scene (P.refl _)
    exact hrecord q i op _ next _ (P.keeps hallows) hnext hJ
  · rintro q i e op next _ hJ _ hi
    have hown := hJ.2 i
    rw [hi] at hown
    obtain ⟨-, -, herror⟩ := hown q.scene (P.refl _)
    exact hrecord q i op _ next _ (P.fails q.scene i op e) (herror e) hJ
  · rintro q t ⟨hleads, hkeeps⟩ _
    exact ⟨P.trans hleads (hpass q.scene t), fun j ↦ (hkeeps j).later (hpass q.scene t)⟩

/-- What a program has returned satisfies its condition. -/
theorem Reaches.keeps_returned (hq : Reaches exec pass ok (start w rest) q)
    (hpass : ∀ (s : Scene I ε ι W) t, P.leads s ⟨pass t s.world, s.log⟩)
    (hrest : ∀ i, (rest i).Keeps P i (Q i) ⟨w, []⟩) {i : ι} {a : α} (h : q.Returned i a) :
    Q i q.scene a := by
  have hend := (hq.keeps hpass hrest).2 i
  rw [h] at hend
  exact hend q.scene (P.refl _) a rfl

end Pool
end Effects
