import Mathlib.Data.Set.Insert
import Mathlib.Logic.Function.Basic
import Mathlib.Tactic.Common

/-!
# Objects on a heap

An object has keys, and under each key a primitive or the address of another object, so objects may
be shared. A walk follows allowed keys only. Writing one value under every barred key that a walk
comes by changes no walk, so the order of the writes does not matter.
-/

namespace Heap

variable {K P : Type}

/-- What stands under a key. -/
inductive Slot (P : Type) where
  | prim (p : P)
  | ref (address : Nat)

/-- An object: its keys, and what stands under them. -/
structure Object (K P : Type) where
  keys : List K
  get : K → Slot P

/-- The object at each address; a new object gets the next one. -/
abbrev Store (K P : Type) := List (Object K P)

/-- What stands under the key of the object at the address. -/
def entry (h : Store K P) (a : Nat) (key : K) : Option (Slot P) := h[a]?.map fun o ↦ o.get key

/-- The value is written under the key of the object at the address. -/
def assign [DecidableEq K] (h : Store K P) (a : Nat) (key : K) (v : Slot P) : Store K P :=
  h.modify a fun o ↦ { o with get := Function.update o.get key v }

/-- A walk from the slot over allowed keys leads to the address. -/
inductive Leads (h : Store K P) (allowed : K → Prop) : Slot P → Nat → Prop
  | here {a : Nat} {o : Object K P} : h[a]? = some o → Leads h allowed (.ref a) a
  | there {a b : Nat} {o : Object K P} {key : K} : h[a]? = some o → key ∈ o.keys → allowed key →
      Leads h allowed (o.get key) b → Leads h allowed (.ref a) b

/-- Every walk from the slot over allowed keys ends after at most so many objects. So it does in a
tree, and wherever objects are shared without a cycle. -/
def Bounded (h : Store K P) (allowed : K → Prop) : Nat → Slot P → Prop
  | _, .prim _ => True
  | 0, .ref _ => False
  | n + 1, .ref a =>
    ∃ o, h[a]? = some o ∧ ∀ key ∈ o.keys, allowed key → Bounded h allowed n (o.get key)

/-- The barred keys of the objects that are reached from the slot. -/
def barred (h : Store K P) (allowed : K → Prop) (slot : Slot P) : Set (Nat × K) :=
  {place | Leads h allowed slot place.1 ∧ (∃ o, h[place.1]? = some o ∧ place.2 ∈ o.keys) ∧
    ¬ allowed place.2}

/-- Every object of the first heap is in the second one as well, with the same keys and the same
under the allowed keys. -/
def Alike (allowed : K → Prop) (h h' : Store K P) : Prop :=
  ∀ (a : Nat) (o : Object K P), h[a]? = some o → ∃ o' : Object K P, h'[a]? = some o' ∧
    o'.keys = o.keys ∧ ∀ key, allowed key → o'.get key = o.get key

open Classical in
/-- The value is written at all of the places at once. -/
noncomputable def overwrite (v : Slot P) (places : Set (Nat × K)) (h : Store K P) : Store K P :=
  h.mapIdx fun a o ↦
    { o with get := fun key ↦ if (a, key) ∈ places then v else o.get key }

variable {h : Store K P} {allowed : K → Prop} {slot v : Slot P} {places : Set (Nat × K)}
  {a b n : Nat} {o : Object K P} {key : K}

/-! ### Writing -/

open Classical in
/-- An overwritten heap has the same objects, up to the entries at the places. -/
theorem getElem?_overwrite :
    (overwrite v places h)[a]? = h[a]?.map fun o ↦
      { o with get := fun key ↦ if (a, key) ∈ places then v else o.get key } := by
  simp [overwrite, List.getElem?_mapIdx]

open Classical in
/-- An object of the heap after an overwriting. -/
theorem getElem?_overwrite_of_some (ho : h[a]? = some o) :
    (overwrite v places h)[a]? =
      some { o with get := fun key ↦ if (a, key) ∈ places then v else o.get key } := by
  rw [getElem?_overwrite, ho]
  rfl

/-- Writing nowhere changes nothing. -/
theorem overwrite_empty : overwrite v ∅ h = h := by
  apply List.ext_getElem?
  intro a
  rw [getElem?_overwrite]
  cases h[a]? <;> simp

/-- Writing twice is writing at the places of both. -/
theorem overwrite_overwrite (places' : Set (Nat × K)) :
    overwrite v places' (overwrite v places h) = overwrite v (places ∪ places') h := by
  classical
  apply List.ext_getElem?
  intro a
  rw [getElem?_overwrite, getElem?_overwrite, getElem?_overwrite]
  cases h[a]? with
  | none => rfl
  | some o =>
    simp only [Option.map_some, Set.mem_union]
    congr 2
    funext key
    by_cases hplace : (a, key) ∈ places <;> by_cases hplace' : (a, key) ∈ places' <;>
      simp [hplace, hplace']

/-- An assignment writes at one place. -/
theorem assign_eq_overwrite [DecidableEq K] : assign h a key v = overwrite v {(a, key)} h := by
  classical
  apply List.ext_getElem?
  intro b
  rw [getElem?_overwrite]
  unfold assign
  rw [List.getElem?_modify]
  cases h[b]? with
  | none => simp
  | some o =>
    by_cases hab : a = b
    · subst hab
      simp only [if_true, Option.map_eq_map, Option.map_some, Set.mem_singleton_iff, Prod.mk.injEq,
        true_and]
      congr 2
      funext key'
      by_cases hkey : key' = key
      · subst hkey
        simp
      · simp [hkey]
    · have hba : b ≠ a := fun hba ↦ hab hba.symm
      simp [hab, hba]

/-- An object stays as it is when the value stands at its places already. -/
theorem getElem?_overwrite_eq_iff :
    (overwrite v places h)[a]? = h[a]? ↔
      ∀ o, h[a]? = some o → ∀ key, (a, key) ∈ places → o.get key = v := by
  classical
  rw [getElem?_overwrite]
  cases ho : h[a]? with
  | none => simp
  | some o =>
    constructor
    · intro hsame o' ho' key hplace
      cases ho'
      have hget := congrArg (fun o : Object K P ↦ o.get key) (Option.some.inj hsame)
      simpa [hplace] using hget.symm
    · intro hplaces
      have hget : (fun key ↦ if (a, key) ∈ places then v else o.get key) = o.get := by
        funext key
        by_cases hplace : (a, key) ∈ places
        · rw [if_pos hplace, hplaces o rfl key hplace]
        · rw [if_neg hplace]
      rw [Option.map_some, hget]

/-- A key at none of the places keeps what stands under it. -/
theorem entry_overwrite (hplaces : (a, key) ∉ places) :
    entry (overwrite v places h) a key = entry h a key := by
  classical
  unfold entry
  rw [getElem?_overwrite]
  cases h[a]? <;> simp [hplaces]

/-! ### Walking -/

/-- A walk to an object goes on from there. -/
theorem Leads.trans (hab : Leads h allowed slot a) (hb : Leads h allowed (.ref a) b) :
    Leads h allowed slot b := by
  induction hab with
  | here _ => exact hb
  | there ho hkey hallowed _ ih => exact .there ho hkey hallowed (ih hb)

/-- A walk stays one when more keys are allowed. -/
theorem Leads.of_imp {allowed' : K → Prop} (himp : ∀ key, allowed key → allowed' key)
    (hlead : Leads h allowed slot b) : Leads h allowed' slot b := by
  induction hlead with
  | here ho => exact .here ho
  | there ho hkey hallowed _ ih => exact .there ho hkey (himp _ hallowed) ih

/-- A walk that reaches anything starts at an object. -/
theorem Leads.exists_object (hlead : Leads h allowed (.ref a) b) : ∃ o, h[a]? = some o := by
  cases hlead with
  | here ho => exact ⟨_, ho⟩
  | there ho _ _ _ => exact ⟨_, ho⟩

/-- A walk ends at an object. -/
theorem Leads.exists_target (hlead : Leads h allowed slot b) : ∃ o, h[b]? = some o := by
  induction hlead with
  | here ho => exact ⟨_, ho⟩
  | there _ _ _ _ ih => exact ih

/-- A bound stays one when fewer keys are allowed. -/
theorem Bounded.of_imp {allowed' : K → Prop} (himp : ∀ key, allowed' key → allowed key)
    (hbounded : Bounded h allowed n slot) : Bounded h allowed' n slot := by
  induction n generalizing slot with
  | zero =>
    cases slot with
    | prim p => exact trivial
    | ref a => exact hbounded
  | succ n ih =>
    cases slot with
    | prim p => exact trivial
    | ref a =>
      obtain ⟨o, ho, hentries⟩ := hbounded
      exact ⟨o, ho, fun key hkey hallowed ↦ ih (hentries key hkey (himp key hallowed))⟩

/-- A bounded walk from a slot is bounded in a heap like this one, and it reaches the same. -/
theorem Alike.bounded_and_leads {h' : Store K P} (halike : Alike allowed h h')
    (hbounded : Bounded h allowed n slot) :
    Bounded h' allowed n slot ∧ ∀ b, Leads h' allowed slot b ↔ Leads h allowed slot b := by
  induction n generalizing slot with
  | zero =>
    cases slot with
    | prim p => exact ⟨trivial, fun b ↦ ⟨nofun, nofun⟩⟩
    | ref a => exact absurd hbounded id
  | succ n ih =>
    cases slot with
    | prim p => exact ⟨trivial, fun b ↦ ⟨nofun, nofun⟩⟩
    | ref a =>
      obtain ⟨o, ho, hentries⟩ := hbounded
      obtain ⟨o', ho', hkeys, hget⟩ := halike a o ho
      refine ⟨⟨o', ho', fun key hkey hallowed ↦ ?_⟩, fun b ↦ ⟨fun hlead ↦ ?_, fun hlead ↦ ?_⟩⟩
      · rw [hkeys] at hkey
        rw [hget key hallowed]
        exact (ih (hentries key hkey hallowed)).1
      · cases hlead with
        | here _ => exact .here ho
        | there hobject hkey hallowed hrest =>
          rw [ho'] at hobject
          cases hobject
          rw [hkeys] at hkey
          rw [hget _ hallowed] at hrest
          exact .there ho hkey hallowed (((ih (hentries _ hkey hallowed)).2 b).mp hrest)
      · cases hlead with
        | here _ => exact .here ho'
        | there hobject hkey hallowed hrest =>
          rw [ho] at hobject
          cases hobject
          have hrest' := ((ih (hentries _ hkey hallowed)).2 b).mpr hrest
          rw [← hget _ hallowed] at hrest'
          exact .there ho' (hkeys ▸ hkey) hallowed hrest'

/-- A heap with more objects is like the one before. -/
theorem alike_append (more : Store K P) : Alike allowed h (h ++ more) := by
  intro a o ho
  refine ⟨o, ?_, rfl, fun _ _ ↦ rfl⟩
  rw [List.getElem?_append_left (List.getElem?_eq_some_iff.mp ho).1, ho]

/-- Writing under barred keys leaves a heap like the one before. -/
theorem alike_overwrite (hplaces : ∀ place ∈ places, ¬ allowed place.2) :
    Alike allowed h (overwrite v places h) := by
  classical
  intro a o ho
  refine ⟨_, getElem?_overwrite_of_some ho, rfl, fun key hallowed ↦ ?_⟩
  exact if_neg fun hplace ↦ hplaces _ hplace hallowed

/-! ### The barred places -/

/-- The key of a barred place is not allowed. -/
theorem not_allowed_of_mem_barred {place : Nat × K} (hplace : place ∈ barred h allowed slot) :
    ¬ allowed place.2 := hplace.2.2

/-- From a primitive there is nowhere to go. -/
theorem barred_prim (p : P) : barred h allowed (.prim p) = ∅ := by
  apply Set.eq_empty_of_forall_notMem
  intro place hplace
  cases hplace.1

/-- From an object one comes by its own barred keys and by those beneath its allowed keys. -/
theorem mem_barred_ref {place : Nat × K} (ho : h[a]? = some o) :
    place ∈ barred h allowed (.ref a) ↔ ∃ key ∈ o.keys,
      (¬ allowed key ∧ place = (a, key)) ∨
        (allowed key ∧ place ∈ barred h allowed (o.get key)) := by
  constructor
  · rintro ⟨hlead, hobject, hbarred⟩
    generalize hb : place.1 = b at hlead
    cases hlead with
    | here _ =>
      obtain ⟨o', ho', hkey⟩ := hobject
      rw [hb, ho] at ho'
      cases ho'
      exact ⟨place.2, hkey, .inl ⟨hbarred, Prod.ext hb rfl⟩⟩
    | there ho' hkey hallowed hrest =>
      rw [ho] at ho'
      cases ho'
      rw [← hb] at hrest
      exact ⟨_, hkey, .inr ⟨hallowed, hrest, hobject, hbarred⟩⟩
  · rintro ⟨key, hkey, ⟨hbarred, rfl⟩ | ⟨hallowed, hlead, hobject, hbarred⟩⟩
    · exact ⟨.here ho, ⟨o, ho, hkey⟩, hbarred⟩
    · exact ⟨.there ho hkey hallowed hlead, hobject, hbarred⟩

/-- A bounded walk comes by the same barred places after writing at barred ones. -/
theorem barred_overwrite (hplaces : ∀ place ∈ places, ¬ allowed place.2)
    (hbounded : Bounded h allowed n slot) :
    barred (overwrite v places h) allowed slot = barred h allowed slot := by
  apply Set.ext
  intro place
  have hleads := ((alike_overwrite (v := v) hplaces).bounded_and_leads hbounded).2 place.1
  have hobject : (∃ o, (overwrite v places h)[place.1]? = some o ∧ place.2 ∈ o.keys) ↔
      ∃ o, h[place.1]? = some o ∧ place.2 ∈ o.keys := by
    rw [getElem?_overwrite]
    cases h[place.1]? <;> simp
  exact and_congr hleads (and_congr_left' hobject)

/-- A loop writes at the places of all its keys, if each key writes at its own places whatever has
been written under barred keys before. -/
theorem foldlM_overwrite (allowed : K → Prop) {step : Store K P → K → Option (Store K P)}
    {written : K → Set (Nat × K)} (keys : List K)
    (hwritten : ∀ key ∈ keys, ∀ place ∈ written key, ¬ allowed place.2)
    (hstep : ∀ key ∈ keys, ∀ places, (∀ place ∈ places, ¬ allowed place.2) →
      step (overwrite v places h) key = some (overwrite v (places ∪ written key) h))
    (hplaces : ∀ place ∈ places, ¬ allowed place.2) :
    keys.foldlM step (overwrite v places h) =
      some (overwrite v (places ∪ {place | ∃ key ∈ keys, place ∈ written key}) h) := by
  induction keys generalizing places with
  | nil =>
    have hempty : {place : Nat × K | ∃ key ∈ [], place ∈ written key} = ∅ := by simp
    rw [hempty, Set.union_empty]
    rfl
  | cons key keys ih =>
    have hnext : ∀ place ∈ places ∪ written key, ¬ allowed place.2 := by
      rintro place (hplace | hplace)
      · exact hplaces place hplace
      · exact hwritten key List.mem_cons_self place hplace
    have hrest := ih (fun k hk ↦ hwritten k (List.mem_cons_of_mem key hk))
      (fun k hk ↦ hstep k (List.mem_cons_of_mem key hk)) hnext
    have hunion : {place : Nat × K | ∃ k ∈ key :: keys, place ∈ written k} =
        written key ∪ {place | ∃ k ∈ keys, place ∈ written k} := by
      ext place
      simp
    rw [List.foldlM_cons, hstep key List.mem_cons_self places hplaces, hunion, ← Set.union_assoc]
    exact hrest

/-- Once a primitive stands at the barred places of the walks from a slot, the walks over all keys
from where those lead lead nowhere else. -/
theorem leads_of_overwrite_barred {p : P} {start : Slot P}
    (hlead : Leads (overwrite (.prim p) (barred h allowed slot) h) (fun _ ↦ True) start b)
    (hstart : ∀ a, start = .ref a → Leads h allowed slot a) : Leads h allowed slot b := by
  classical
  induction hlead with
  | here _ => exact hstart _ rfl
  | @there a b o key ho hkey _ hrest ih =>
    have hled : Leads h allowed slot a := hstart a rfl
    rw [getElem?_overwrite] at ho
    obtain ⟨o', ho', rfl⟩ := Option.map_eq_some_iff.mp ho
    dsimp only at hkey hrest ih
    by_cases hplace : (a, key) ∈ barred h allowed slot
    · rw [if_pos hplace] at hrest
      cases hrest
    · rw [if_neg hplace] at hrest ih
      have hallowed : allowed key := by
        by_contra hbarred
        exact hplace ⟨hled, ⟨o', ho', hkey⟩, hbarred⟩
      apply ih
      intro c hc
      rw [hc] at hrest
      obtain ⟨next, hnext⟩ := hrest.exists_object
      rw [getElem?_overwrite] at hnext
      obtain ⟨next', hnext', -⟩ := Option.map_eq_some_iff.mp hnext
      exact hled.trans (.there ho' hkey hallowed (hc ▸ .here hnext'))

end Heap
