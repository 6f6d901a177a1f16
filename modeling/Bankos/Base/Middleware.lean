import Mathlib.Tactic.Common

/-!
# Chains of middlewares

A middleware receives an exchange and passes it on, ends it with a response, or throws. A chain
hands the exchange from one middleware to the next as long as it is passed on. What gets through a
chain has got through each of its parts, and what holds of whatever a middleware makes of an
exchange holds of what the chain makes of it.
-/

namespace Middleware

/-- What becomes of an exchange. -/
inductive Flow (X R E : Type) where
  | next (x : X)
  | ended (response : R)
  | thrown (x : X) (error : E)

variable {X R E : Type}

/-- The middlewares one after the other. -/
def chain : List (X → Flow X R E) → X → Flow X R E
  | [], x => .next x
  | m :: ms, x =>
    match m x with
    | .next y => chain ms y
    | .ended r => .ended r
    | .thrown y e => .thrown y e

/-- The exchange `y` comes out of `x` when every middleware of the list passes it on. -/
inductive Passes : List (X → Flow X R E) → X → X → Prop
  | nil (x : X) : Passes [] x x
  | cons {m : X → Flow X R E} {ms : List (X → Flow X R E)} {x y z : X} :
      m x = .next y → Passes ms y z → Passes (m :: ms) x z

variable {m : X → Flow X R E} {ms : List (X → Flow X R E)} {x y z : X}

/-- An empty chain passes everything on. -/
theorem passes_nil : Passes ([] : List (X → Flow X R E)) x y ↔ x = y := by
  constructor
  · rintro ⟨⟩
    rfl
  · rintro rfl
    exact .nil x

/-- The first middleware passes the exchange on to the others. -/
theorem passes_cons : Passes (m :: ms) x z ↔ ∃ y, m x = .next y ∧ Passes ms y z := by
  constructor
  · rintro (_ | ⟨hm, hms⟩)
    exact ⟨_, hm, hms⟩
  · rintro ⟨y, hm, hms⟩
    exact .cons hm hms

/-- A chain passes on what each of its middlewares passes on. -/
theorem chain_eq_next : chain ms x = .next y ↔ Passes ms x y := by
  induction ms generalizing x with
  | nil =>
    rw [passes_nil]
    exact ⟨fun h ↦ Flow.next.inj h, congrArg Flow.next⟩
  | cons m ms ih =>
    rw [passes_cons]
    unfold chain
    constructor
    · intro h
      cases hm : m x with
      | next z =>
        rw [hm] at h
        exact ⟨z, rfl, ih.mp h⟩
      | ended r =>
        rw [hm] at h
        cases h
      | thrown z e =>
        rw [hm] at h
        cases h
    · rintro ⟨z, hm, hms⟩
      rw [hm]
      exact ih.mpr hms

/-- What is passed on, responded and thrown meets the conditions. -/
def Flow.Meets (J : X → Prop) (P : R → Prop) (Q : X → E → Prop) : Flow X R E → Prop
  | .next x => J x
  | .ended r => P r
  | .thrown x e => Q x e

/-- The rule for an invariant of the exchange: what each middleware makes of an exchange that meets
it, the chain does. -/
theorem chain_meets {J : X → Prop} {P : R → Prop} {Q : X → E → Prop}
    (hstep : ∀ m ∈ ms, ∀ x, J x → (m x).Meets J P Q) (hx : J x) :
    (chain ms x).Meets J P Q := by
  induction ms generalizing x with
  | nil => exact hx
  | cons m ms ih =>
    have hm := hstep m List.mem_cons_self x hx
    unfold chain
    cases hflow : m x with
    | next y =>
      rw [hflow] at hm
      exact ih (fun m' hm' ↦ hstep m' (List.mem_cons_of_mem _ hm')) hm
    | ended r =>
      rw [hflow] at hm
      exact hm
    | thrown y e =>
      rw [hflow] at hm
      exact hm

/-- Two flows that an observer of `S` cannot tell apart: related exchanges go on, the responses are
the same. -/
def Flow.Alike (S : X → X → Prop) : Flow X R E → Flow X R E → Prop
  | .next x, .next y => S x y
  | .ended r, .ended r' => r = r'
  | .thrown x e, .thrown y e' => S x y ∧ e = e'
  | _, _ => False

/-- Two such flows are of one kind. -/
theorem Flow.Alike.cases {S : X → X → Prop} {f f' : Flow X R E} (h : f.Alike S f') :
    (∃ r, f = .ended r ∧ f' = .ended r) ∨
      (∃ x y e, f = .thrown x e ∧ f' = .thrown y e ∧ S x y) ∨
      ∃ x y, f = .next x ∧ f' = .next y ∧ S x y := by
  cases f with
  | next x =>
    cases f' with
    | next y => exact .inr (.inr ⟨x, y, rfl, rfl, h⟩)
    | _ => exact h.elim
  | ended r =>
    cases f' with
    | ended r' =>
      obtain rfl : r = r' := h
      exact .inl ⟨r, rfl, rfl⟩
    | _ => exact h.elim
  | thrown x e =>
    cases f' with
    | thrown y e' =>
      obtain ⟨hxy, rfl⟩ := h
      exact .inr (.inl ⟨x, y, e, rfl, rfl, hxy⟩)
    | _ => exact h.elim

/-- The rule for two exchanges: what no middleware tells apart, the chain does not. -/
theorem chain_alike {S : X → X → Prop}
    (hstep : ∀ m ∈ ms, ∀ x y, S x y → (m x).Alike S (m y)) (hxy : S x y) :
    (chain ms x).Alike S (chain ms y) := by
  induction ms generalizing x y with
  | nil => exact hxy
  | cons m ms ih =>
    unfold chain
    rcases (hstep m List.mem_cons_self x y hxy).cases with
      ⟨r, hx, hy⟩ | ⟨x', y', e, hx, hy, h⟩ | ⟨x', y', hx, hy, h⟩
    · rw [hx, hy]
      exact rfl
    · rw [hx, hy]
      exact ⟨h, rfl⟩
    · rw [hx, hy]
      exact ih (fun m' hm' ↦ hstep m' (List.mem_cons_of_mem _ hm')) h

end Middleware
