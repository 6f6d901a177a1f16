import Mathlib.Tactic.Common

/-!
# Documents and their shapes

JSON documents, and parsers that check a document against a shape and rebuild it. An object is
rebuilt from the fields of its shape, so what a shape does not name does not get through.
-/

namespace Shapes

/-- A JSON document. -/
inductive Document where
  | null
  | bool (b : Bool)
  | num (q : Rat)
  | str (s : String)
  | arr (items : List Document)
  | obj (fields : List (String × Document))

/-- `document[key]`; `none` is `undefined`. -/
def Document.field : Document → String → Option Document
  | obj fields, key => fields.lookup key
  | _, _ => none

/-- A parser of a document that may be missing: the rebuilt document, or nothing if it throws. -/
abbrev Parser := Option Document → Option (Option Document)

/-- `document[key]`, where a string is expected. -/
def Document.stringField (document : Document) (key : String) : Option String :=
  match document.field key with
  | some (.str s) => some s
  | _ => none

/-- `document[key] = value`. -/
def Document.set (document : Document) (key : String) (value : Document) : Document :=
  match document with
  | .obj fields => .obj ((key, value) :: fields.filter fun f ↦ decide (f.1 ≠ key))
  | _ => document

/-- A field that is set is there. -/
theorem Document.field_set_self (fields : List (String × Document)) (key : String)
    (value : Document) : ((Document.obj fields).set key value).field key = some value :=
  List.lookup_cons_self

/-- Setting a field leaves the other fields as they are. -/
theorem Document.field_set_of_ne (document : Document) {key key' : String} (h : key' ≠ key)
    (value : Document) : (document.set key value).field key' = document.field key' := by
  cases document with
  | obj fields =>
    have hkept : (fields.filter fun f ↦ decide (f.1 ≠ key)).lookup key' = fields.lookup key' := by
      induction fields with
      | nil => rfl
      | cons f fields ih =>
        obtain ⟨k, v⟩ := f
        by_cases hk : k = key
        · subst hk
          rw [List.filter_cons_of_neg (by simp), ih, List.lookup_cons, beq_eq_false_iff_ne.mpr h]
        · rw [List.filter_cons_of_pos (by simpa using hk), List.lookup_cons, List.lookup_cons, ih]
    show List.lookup key' ((key, value) :: _) = List.lookup key' fields
    rw [List.lookup_cons, beq_eq_false_iff_ne.mpr h]
    exact hkept
  | _ => rfl

namespace Parser

/-- The parser takes the document. -/
def accepts (p : Parser) (document : Option Document) : Bool := (p document).isSome

/-- A string that meets all of the checks. -/
def string (checks : List (String → Bool)) : Parser
  | some (.str s) => if checks.all fun check ↦ check s then some (some (.str s)) else none
  | _ => none

/-- A boolean. -/
def boolean : Parser
  | some (.bool b) => some (some (.bool b))
  | _ => none

/-- A document that may be missing. -/
def optional (p : Parser) : Parser
  | none => some none
  | some document => p (some document)

/-- What becomes of the fields that a shape does not name. -/
inductive Unknown where
  | stripped
  | refused
  deriving DecidableEq, Repr

/-- The fields of a shape, each parsed; a field that is missing is left out. -/
def fields (document : Document) : List (String × Parser) → Option (List (String × Document))
  | [] => some []
  | (key, p) :: shape => do
    let value ← p (document.field key)
    let rest ← fields document shape
    pure (match value with
      | some value => (key, value) :: rest
      | none => rest)

/-- An object of the given shape. -/
def object (shape : List (String × Parser)) (unknown : Unknown) : Parser
  | some (.obj given) =>
    if unknown = .refused ∧ ¬ given.all (fun f ↦ (shape.lookup f.1).isSome) = true then none
    else (fields (.obj given) shape).map fun parsed ↦ some (.obj parsed)
  | _ => none

/-- Only fields of the shape get through. -/
theorem mem_shape_of_fields {document : Document} {shape : List (String × Parser)}
    {parsed : List (String × Document)} (h : fields document shape = some parsed) :
    ∀ f ∈ parsed, f.1 ∈ shape.map Prod.fst := by
  induction shape generalizing parsed with
  | nil =>
    cases h
    exact fun f hf ↦ absurd hf List.not_mem_nil
  | cons entry shape ih =>
    obtain ⟨key, p⟩ := entry
    simp only [fields, Option.bind_eq_bind, Option.bind_eq_some_iff, Option.pure_def,
      Option.some.injEq] at h
    obtain ⟨value, -, rest, hrest, rfl⟩ := h
    intro f hf
    rw [List.map_cons]
    cases value with
    | none => exact List.mem_cons_of_mem _ (ih hrest f hf)
    | some value =>
      rcases List.mem_cons.mp hf with rfl | hf
      · exact List.mem_cons_self
      · exact List.mem_cons_of_mem _ (ih hrest f hf)

/-- A field of the shape is what its parser made of the field of the document. -/
theorem field_of_fields {document : Document} {shape : List (String × Parser)}
    {parsed : List (String × Document)} (h : fields document shape = some parsed)
    (hnodup : (shape.map Prod.fst).Nodup) {key : String} {p : Parser} (hp : (key, p) ∈ shape) :
    p (document.field key) = some ((Document.obj parsed).field key) := by
  induction shape generalizing parsed with
  | nil => cases hp
  | cons entry shape ih =>
    obtain ⟨k, q⟩ := entry
    simp only [fields, Option.bind_eq_bind, Option.bind_eq_some_iff, Option.pure_def,
      Option.some.injEq] at h
    obtain ⟨value, hvalue, rest, hrest, rfl⟩ := h
    obtain ⟨hk, hnodup⟩ := List.nodup_cons.mp hnodup
    have hmissing : rest.lookup k = none := by
      rw [List.lookup_eq_none_iff]
      intro f hf
      have hmem := mem_shape_of_fields hrest f hf
      simp only [bne_iff_ne, ne_eq]
      rintro rfl
      exact hk hmem
    rcases List.mem_cons.mp hp with heq | hlater
    · cases heq
      rw [hvalue]
      cases value with
      | none => exact congrArg some hmissing.symm
      | some value => exact congrArg some List.lookup_cons_self.symm
    · rw [ih hrest hnodup hlater]
      have hne : key ≠ k := by
        intro heq
        subst heq
        exact hk (List.mem_map.mpr ⟨(key, p), hlater, rfl⟩)
      cases value with
      | none => rfl
      | some value =>
        show some (rest.lookup key) = some (List.lookup key ((k, value) :: rest))
        rw [List.lookup_cons, beq_eq_false_iff_ne.mpr hne]

/-- What a string parser lets through is a string that meets the checks, as it came. -/
theorem string_eq_some {checks : List (String → Bool)} {document parsed : Option Document}
    (h : string checks document = some parsed) :
    ∃ s, document = some (.str s) ∧ parsed = some (.str s) ∧ ∀ check ∈ checks, check s = true := by
  unfold string at h
  split at h
  · next s =>
    split at h
    · next hall =>
      cases h
      exact ⟨s, rfl, rfl, by simpa using hall⟩
    · cases h
  · cases h

/-- A string field of a shape comes through as it came, and meets its checks. -/
theorem stringField_of_object {shape : List (String × Parser)} {unknown : Unknown}
    {document : Option Document} {parsed : Option Document}
    (h : object shape unknown document = some parsed) (hnodup : (shape.map Prod.fst).Nodup)
    {key : String} {checks : List (String → Bool)} (hp : (key, string checks) ∈ shape) :
    ∃ given result s, document = some (.obj given) ∧ parsed = some (.obj result) ∧
      (Document.obj given).stringField key = some s ∧
      (Document.obj result).stringField key = some s ∧ ∀ check ∈ checks, check s = true := by
  unfold object at h
  split at h
  · next given =>
    split at h
    · cases h
    · obtain ⟨result, hresult, rfl⟩ := Option.map_eq_some_iff.mp h
      obtain ⟨s, hgiven, hparsed, hchecks⟩ := string_eq_some (field_of_fields hresult hnodup hp)
      refine ⟨given, result, s, rfl, rfl, ?_, ?_, hchecks⟩
      · unfold Document.stringField
        rw [hgiven]
      · unfold Document.stringField
        rw [hparsed]
  · cases h

/-- A strict object parser refuses what has a field that the shape does not name. -/
theorem named_of_object {shape : List (String × Parser)} {given : List (String × Document)}
    {parsed : Option Document} (h : object shape .refused (some (.obj given)) = some parsed) :
    ∀ f ∈ given, f.1 ∈ shape.map Prod.fst := by
  unfold object at h
  dsimp only at h
  split at h
  · cases h
  · next hall =>
    have hall : given.all (fun f ↦ (shape.lookup f.1).isSome) = true := by simpa using hall
    intro f hf
    have hsome := List.all_eq_true.mp hall f hf
    by_contra hmem
    have hnone : shape.lookup f.1 = none := by
      rw [List.lookup_eq_none_iff]
      intro entry hentry
      simp only [bne_iff_ne, ne_eq]
      intro heq
      exact hmem (heq ▸ List.mem_map_of_mem hentry)
    rw [hnone] at hsome
    cases hsome

/-- The fields are parsed if each of them is. -/
theorem isSome_fields {document : Document} {shape : List (String × Parser)} :
    (fields document shape).isSome = true ↔
      ∀ f ∈ shape, f.2.accepts (document.field f.1) = true := by
  induction shape with
  | nil => simp [fields]
  | cons entry shape ih =>
    obtain ⟨key, p⟩ := entry
    rw [List.forall_mem_cons, ← ih]
    unfold accepts
    cases hp : p (document.field key) with
    | none => simp [fields, hp]
    | some value => cases hrest : fields document shape <;> simp [fields, hp, hrest]

/-- The parsers of an object of strings, each with its check. -/
def strings (checks : List (String × (String → Bool))) : List (String × Parser) :=
  checks.map fun f ↦ (f.1, string [f.2])

/-- A strict object of strings lets through an object that has these strings, each with its check,
and nothing else. -/
theorem object_strings {checks : List (String × (String → Bool))} {document : Option Document}
    (hnodup : (checks.map Prod.fst).Nodup) :
    (∃ parsed, object (strings checks) .refused document = some parsed) ↔
      ∃ given, document = some (.obj given) ∧ (∀ f ∈ given, f.1 ∈ checks.map Prod.fst) ∧
        ∀ f ∈ checks, ∃ s, (Document.obj given).stringField f.1 = some s ∧ f.2 s = true := by
  have hkeys : (strings checks).map Prod.fst = checks.map Prod.fst := by
    unfold strings
    rw [List.map_map]
    rfl
  constructor
  · rintro ⟨parsed, h⟩
    obtain ⟨given, rfl⟩ : ∃ given, document = some (.obj given) := by
      unfold object at h
      split at h
      · next given => exact ⟨given, rfl⟩
      · cases h
    refine ⟨given, rfl, ?_, ?_⟩
    · rw [← hkeys]
      exact named_of_object h
    · intro f hf
      have hmem : (f.1, string [f.2]) ∈ strings checks := List.mem_map.mpr ⟨f, hf, rfl⟩
      obtain ⟨given', result, s, heq, -, hs, -, hcheck⟩ :=
        stringField_of_object h (by rw [hkeys]; exact hnodup) hmem
      cases heq
      exact ⟨s, hs, hcheck f.2 (by simp)⟩
  · rintro ⟨given, rfl, honly, hstrings⟩
    have hnamed : given.all (fun f ↦ ((strings checks).lookup f.1).isSome) = true := by
      rw [List.all_eq_true]
      intro f hf
      have hmem := honly f hf
      rw [← hkeys] at hmem
      by_contra hnone
      rw [Bool.not_eq_true, Option.isSome_eq_false_iff, Option.isNone_iff_eq_none,
        List.lookup_eq_none_iff] at hnone
      obtain ⟨entry, hentry, heq⟩ := List.mem_map.mp hmem
      have hne := hnone entry hentry
      rw [heq] at hne
      simp at hne
    have hfields : (fields (.obj given) (strings checks)).isSome = true := by
      rw [isSome_fields]
      intro entry hentry
      obtain ⟨f, hf, rfl⟩ := List.mem_map.mp hentry
      obtain ⟨s, hs, hcheck⟩ := hstrings f hf
      have hfield : (Document.obj given).field f.1 = some (.str s) := by
        unfold Document.stringField at hs
        split at hs
        · next hfield =>
          cases hs
          exact hfield
        · cases hs
      show ((string [f.2]) ((Document.obj given).field f.1)).isSome = true
      rw [hfield]
      simp [string, hcheck]
    obtain ⟨result, hresult⟩ := Option.isSome_iff_exists.mp hfields
    refine ⟨some (.obj result), ?_⟩
    unfold object
    dsimp only
    rw [if_neg fun h ↦ h.2 hnamed, hresult]
    rfl

/-- The strings come through as they came. -/
theorem stringField_of_strings {checks : List (String × (String → Bool))}
    {given : List (String × Document)} {parsed : Option Document}
    (h : object (strings checks) .refused (some (.obj given)) = some parsed)
    (hnodup : (checks.map Prod.fst).Nodup) :
    ∃ result, parsed = some (.obj result) ∧ ∀ key ∈ checks.map Prod.fst,
      (Document.obj result).stringField key = (Document.obj given).stringField key := by
  have hkeys : (strings checks).map Prod.fst = checks.map Prod.fst := by
    unfold strings
    rw [List.map_map]
    rfl
  obtain ⟨result, rfl⟩ : ∃ result, parsed = some (.obj result) := by
    unfold object at h
    dsimp only at h
    split at h
    · cases h
    · obtain ⟨result, -, rfl⟩ := Option.map_eq_some_iff.mp h
      exact ⟨result, rfl⟩
  refine ⟨result, rfl, fun key hkey ↦ ?_⟩
  obtain ⟨f, hf, rfl⟩ := List.mem_map.mp hkey
  have hmem : (f.1, string [f.2]) ∈ strings checks := List.mem_map.mpr ⟨f, hf, rfl⟩
  obtain ⟨given', result', s, hgiven, hresult, hs, hs', -⟩ :=
    stringField_of_object h (by rw [hkeys]; exact hnodup) hmem
  cases hgiven
  cases hresult
  rw [hs, hs']

/-- A field that the shape does not name is missing in what an object parser returns. -/
theorem field_of_object {shape : List (String × Parser)} {unknown : Unknown}
    {document : Option Document} {parsed : Option Document}
    (h : object shape unknown document = some parsed) :
    ∃ result, parsed = some result ∧ ∀ key, key ∉ shape.map Prod.fst → result.field key = none := by
  unfold object at h
  split at h
  · next given =>
    split at h
    · cases h
    · obtain ⟨entries, hentries, rfl⟩ := Option.map_eq_some_iff.mp h
      refine ⟨.obj entries, rfl, fun key hkey ↦ ?_⟩
      show entries.lookup key = none
      rw [List.lookup_eq_none_iff]
      intro f hf
      have hmem := mem_shape_of_fields hentries f hf
      simp only [bne_iff_ne, ne_eq]
      rintro rfl
      exact hkey hmem
  · cases h

end Parser
end Shapes
