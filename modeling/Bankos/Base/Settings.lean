import Mathlib.Tactic.Common

/-!
# Validated settings

A program reads its settings from named strings. A `Schema` says how one of them, or its absence, is
read; a `Reader` reads a record of them. Readers are combined applicatively: every setting is read,
and the complaints about all of them are collected.
-/

namespace Settings

/-- The named settings that are present. -/
abbrev Environment := String → Option String

/-- What is wrong with an input: the messages of the schema, `none` where it gives none. -/
abbrev Complaints := List (Option String)

/-- How one setting is read. -/
abbrev Schema (α : Type) := Option String → Except Complaints α

/-- A condition on a value, with the message of the schema for its failure. -/
structure Check (α : Type) where
  accepts : α → Bool
  message : Option String := none

namespace Schema

variable {α β : Type} {s : Option String}

/-- Any string. -/
def string : Schema String
  | some s => .ok s
  | none => .error [none]

/-- An absent setting has the value `a`. -/
def withDefault (a : α) (schema : Schema α) : Schema α
  | some s => schema (some s)
  | none => .ok a

/-- An absent setting stays absent. -/
def optional (schema : Schema α) : Schema (Option α)
  | some s => (schema (some s)).map some
  | none => .ok none

/-- What was read is converted, or refused with a message. -/
def convert (f : α → Except (Option String) β) (schema : Schema α) : Schema β := fun s ↦
  match schema s with
  | .error e => .error e
  | .ok a => (f a).mapError fun message ↦ [message]

/-- What was read is changed. -/
def transform (f : α → β) (schema : Schema α) : Schema β := fun s ↦ (schema s).map f

/-- What was read meets all of the checks, and each one that fails complains. -/
def check (checks : List (Check α)) (schema : Schema α) : Schema α := fun s ↦
  match schema s with
  | .error e => .error e
  | .ok a =>
    if checks.all fun c ↦ c.accepts a then .ok a
    else .error ((checks.filter fun c ↦ !c.accepts a).map (·.message))

/-- One of the listed strings. -/
def enum (values : List (String × α)) : Schema α :=
  string.convert fun s ↦
    match values.lookup s with
    | some a => .ok a
    | none => .error none

/-- A value that was read meets the checks. -/
theorem check_eq_ok {checks : List (Check α)} {schema : Schema α} {a : α} :
    schema.check checks s = .ok a ↔ schema s = .ok a ∧ ∀ c ∈ checks, c.accepts a = true := by
  unfold check
  cases schema s with
  | error e => simp
  | ok b =>
    by_cases hall : checks.all (fun c ↦ c.accepts b) = true
    · simp only [hall, if_true]
      rw [List.all_eq_true] at hall
      constructor
      · rintro ⟨rfl⟩
        exact ⟨rfl, hall⟩
      · exact fun h ↦ h.1
    · simp only [hall]
      rw [List.all_eq_true] at hall
      constructor
      · rintro ⟨⟩
      · rintro ⟨⟨rfl⟩, h⟩
        exact absurd h hall

/-- With a default an absent setting is the default, and a present one is read. -/
theorem withDefault_eq_ok {a b : α} {schema : Schema α} :
    schema.withDefault a s = .ok b ↔
      s = none ∧ a = b ∨ s.isSome = true ∧ schema s = .ok b := by
  cases s <;> simp [withDefault]

/-- A setting that is there has been read. -/
theorem optional_eq_some {a : α} {schema : Schema α} :
    schema.optional s = .ok (some a) ↔ s.isSome = true ∧ schema s = .ok a := by
  cases s with
  | none => simp [optional]
  | some s => cases h : schema (some s) <;> simp [optional, h, Except.map]

end Schema

/-! ### Records -/

/-- A complaint about the setting at a path. -/
structure Issue where
  path : List String
  message : Option String
  deriving DecidableEq, Repr

/-- How a record of settings is read. -/
def Reader (α : Type) := Environment → Except (List Issue) α

/-- Two outcomes in one: the complaints of both are collected. -/
def collect {α β : Type} :
    Except (List Issue) (α → β) → Except (List Issue) α → Except (List Issue) β
  | .ok g, .ok a => .ok (g a)
  | .ok _, .error issues => .error issues
  | .error issues, .ok _ => .error issues
  | .error issues, .error issues' => .error (issues ++ issues')

/-- Nothing is to be complained of when nothing is wrong with either. -/
theorem collect_eq_ok {α β : Type} {f : Except (List Issue) (α → β)}
    {x : Except (List Issue) α} {b : β} :
    collect f x = .ok b ↔ ∃ g a, f = .ok g ∧ x = .ok a ∧ g a = b := by
  cases f <;> cases x <;> simp [collect]

/-- A collected complaint is one of the two. -/
theorem mem_of_collect {α β : Type} {f : Except (List Issue) (α → β)}
    {x : Except (List Issue) α} {issues : List Issue} {i : Issue}
    (h : collect f x = .error issues) (hi : i ∈ issues) :
    (∃ issues, f = .error issues ∧ i ∈ issues) ∨ ∃ issues, x = .error issues ∧ i ∈ issues := by
  cases f with
  | ok g =>
    cases x with
    | ok a => cases h
    | error e =>
      cases h
      exact .inr ⟨_, rfl, hi⟩
  | error e =>
    cases x with
    | ok a =>
      cases h
      exact .inl ⟨_, rfl, hi⟩
    | error e' =>
      cases h
      rcases List.mem_append.mp hi with hi | hi
      · exact .inl ⟨_, rfl, hi⟩
      · exact .inr ⟨_, rfl, hi⟩

namespace Reader

variable {α β : Type} {env : Environment} {keys keys' : List String}

/-- Every part is read. -/
instance : Applicative Reader where
  pure a _ := .ok a
  seq f x env := collect (f env) (x () env)

/-- The setting of the given name. -/
def field (key : String) (schema : Schema α) : Reader α := fun env ↦
  (schema (env key)).mapError fun messages ↦ messages.map fun message ↦ ⟨[key], message⟩

/-- A record that was read is looked over once more as a whole. -/
def refine (complain : α → List Issue) (r : Reader α) : Reader α := fun env ↦
  match r env with
  | .error issues => .error issues
  | .ok a => if (complain a).isEmpty then .ok a else .error (complain a)

/-- A setting is read when its schema reads it. -/
theorem field_eq_ok {key : String} {schema : Schema α} {a : α} :
    field key schema env = .ok a ↔ schema (env key) = .ok a := by
  unfold field
  cases schema (env key) <;> simp [Except.mapError]

/-- A record is read when both of its parts are. -/
theorem seq_eq_ok {f : Reader (α → β)} {x : Reader α} {b : β} :
    (f <*> x) env = .ok b ↔ ∃ g a, f env = .ok g ∧ x env = .ok a ∧ g a = b := collect_eq_ok

/-- The first part of a record has been read. -/
theorem map_eq_ok {f : α → β} {x : Reader α} {b : β} :
    (f <$> x) env = .ok b ↔ ∃ a, x env = .ok a ∧ f a = b := by
  change (pure f <*> x : Reader β) env = .ok b ↔ _
  rw [seq_eq_ok]
  constructor
  · rintro ⟨g, a, ⟨rfl⟩, ha, hb⟩
    exact ⟨a, ha, hb⟩
  · rintro ⟨a, ha, hb⟩
    exact ⟨f, a, rfl, ha, hb⟩

/-- Whatever the reader returns has the property. -/
def Yields (env : Environment) (r : Reader α) (P : α → Prop) : Prop := ∀ a, r env = .ok a → P a

/-- The rule for the first setting of a record. -/
theorem yields_map {key : String} {schema : Schema α} {f : α → β} {P : β → Prop}
    (h : ∀ a, schema (env key) = .ok a → P (f a)) : Yields env (f <$> field key schema) P := by
  intro b hb
  obtain ⟨a, ha, rfl⟩ := map_eq_ok.mp hb
  exact h a (field_eq_ok.mp ha)

/-- The rule for one more setting of a record. -/
theorem yields_seq {key : String} {schema : Schema α} {f : Reader (α → β)} {P : β → Prop}
    (h : Yields env f fun g ↦ ∀ a, schema (env key) = .ok a → P (g a)) :
    Yields env (f <*> field key schema) P := by
  intro b hb
  obtain ⟨g, a, hg, ha, rfl⟩ := seq_eq_ok.mp hb
  exact h g hg a (field_eq_ok.mp ha)

/-- A record that was looked over is accepted when there is nothing to complain of. -/
theorem refine_eq_ok {complain : α → List Issue} {r : Reader α} {a : α} :
    r.refine complain env = .ok a ↔ r env = .ok a ∧ complain a = [] := by
  unfold refine
  cases r env with
  | error issues => simp
  | ok b =>
    by_cases h : complain b = []
    · simp only [h, List.isEmpty_nil, if_true]
      constructor
      · rintro ⟨rfl⟩
        exact ⟨rfl, h⟩
      · exact fun h ↦ h.1
    · have hne : (complain b).isEmpty = false := by simpa using h
      simp only [hne]
      constructor
      · rintro ⟨⟩
      · rintro ⟨⟨rfl⟩, hnil⟩
        exact absurd hnil h

/-! ### Which settings a reader is about -/

/-- The reader looks at no setting but the given ones, and every complaint names one of them. -/
structure Covers (keys : List String) (r : Reader α) : Prop where
  reads : ∀ env env', (∀ k ∈ keys, env k = env' k) → r env = r env'
  names : ∀ env issues, r env = .error issues → ∀ i ∈ issues, ∃ k ∈ keys, i.path = [k]

/-- A field is about its setting. -/
theorem covers_field (key : String) (schema : Schema α) : Covers [key] (field key schema) where
  reads env env' h := by
    unfold field
    rw [h key (List.mem_singleton.mpr rfl)]
  names env issues h i hi := by
    unfold field at h
    cases hs : schema (env key) with
    | ok a =>
      rw [hs] at h
      cases h
    | error messages =>
      rw [hs] at h
      cases h
      obtain ⟨message, -, rfl⟩ := List.mem_map.mp hi
      exact ⟨key, List.mem_singleton.mpr rfl, rfl⟩

/-- A combination is about the settings of its parts. -/
theorem Covers.seq {f : Reader (α → β)} {x : Reader α} (hf : Covers keys f)
    (hx : Covers keys' x) : Covers (keys ++ keys') (f <*> x) where
  reads env env' h := by
    have hf' := hf.reads env env' fun k hk ↦ h k (List.mem_append_left _ hk)
    have hx' := hx.reads env env' fun k hk ↦ h k (List.mem_append_right _ hk)
    change collect (f env) (x env) = collect (f env') (x env')
    rw [hf', hx']
  names env issues h i hi := by
    rcases mem_of_collect h hi with ⟨e, he, hi⟩ | ⟨e, he, hi⟩
    · obtain ⟨k, hk, hpath⟩ := hf.names env e he i hi
      exact ⟨k, List.mem_append_left _ hk, hpath⟩
    · obtain ⟨k, hk, hpath⟩ := hx.names env e he i hi
      exact ⟨k, List.mem_append_right _ hk, hpath⟩

/-- The first part of a record is about its settings. -/
theorem Covers.map {f : α → β} {x : Reader α} (hx : Covers keys x) : Covers keys (f <$> x) := by
  have hpure : Covers [] (pure f : Reader (α → β)) := by
    constructor
    · exact fun _ _ _ ↦ rfl
    · rintro _ _ ⟨⟩
  exact hpure.seq hx

/-- A second look is about the settings that its complaints name. -/
theorem Covers.refine {complain : α → List Issue} {r : Reader α} (hr : Covers keys r)
    (h : ∀ a, ∀ i ∈ complain a, ∃ k ∈ keys, i.path = [k]) : Covers keys (r.refine complain) where
  reads env env' henv := by
    unfold Reader.refine
    rw [hr.reads env env' henv]
  names env issues he i hi := by
    unfold Reader.refine at he
    cases hr' : r env with
    | error e =>
      rw [hr'] at he
      cases he
      exact hr.names env _ hr' i hi
    | ok a =>
      rw [hr'] at he
      dsimp only at he
      split at he
      · cases he
      · cases he
        exact h a i hi

end Reader
end Settings
