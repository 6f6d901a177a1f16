import Mathlib.Tactic.Common

/-!
# Redacted log records

`maskSensitiveData` of `identity/src/observability/logger.ts`, through which every record goes on
its way to the console. It hides what it should at every depth. It also rebuilds every object from
`Object.keys`, so symbols get lost, and dates and errors become objects without what they hold.
`lower` stands for `toLowerCase`.
-/

namespace Bankos

/-- A symbol: that of `Symbol.for(key)`, or one that was made once. -/
inductive JsSymbol where
  | registered (key : String)
  | unique (id : Nat)
  deriving DecidableEq, Repr

/-- A value that is not an object. -/
inductive Primitive where
  | undefined
  | null
  | bool (b : Bool)
  | number (x : Float)
  | bigint (n : Int)
  | str (s : String)
  | symbol (s : JsSymbol)

/-- The key of an entry. -/
inductive LogKey where
  | name (key : String)
  | symbol (s : JsSymbol)
  deriving DecidableEq, Repr

/-- A value in a log record. The entries of an object and of an error are its own enumerable ones,
in their order, with distinct keys. The time of an invalid date is missing. -/
inductive LogValue where
  | primitive (p : Primitive)
  | array (items : List LogValue)
  | object (entries : List (LogKey × LogValue))
  | date (time : Option Int)
  | error (name message stack : String) (entries : List (LogKey × LogValue))

namespace Logger

/-- `logger.ts:5–18`. -/
def SENSITIVE_KEYS : List String :=
  ["password", "passwordhash", "token", "refreshtoken", "accesstoken", "jwt", "authorization",
    "cookie", "set-cookie", "smtppassword", "jwtprivatekey", "secret"]

/-- `SENSITIVE_KEYS.has(key.toLowerCase())`. -/
def isSensitive (lower : String → String) (key : String) : Bool :=
  decide (lower key ∈ SENSITIVE_KEYS)

/-- The value that stands for a secret, `logger.ts:32`. -/
def REDACTED : LogValue := .primitive (.str "[REDACTED]")

mutual

/-- `logger.ts:20–39`. A date has no keys, and the message and the stack of an error are no entries
of it. -/
def maskSensitiveData (lower : String → String) : LogValue → LogValue
  | .primitive p => .primitive p
  | .array items => .array (maskItems lower items)
  | .object entries => .object (maskEntries lower entries)
  | .date _ => .object []
  | .error _ _ _ entries => .object (maskEntries lower entries)

/-- `obj.map(maskSensitiveData)`. -/
def maskItems (lower : String → String) : List LogValue → List LogValue
  | [] => []
  | item :: items => maskSensitiveData lower item :: maskItems lower items

/-- The loop over `Object.keys`, `logger.ts:30–36`. An assignment to `__proto__` makes no entry. -/
def maskEntries (lower : String → String) : List (LogKey × LogValue) → List (LogKey × LogValue)
  | [] => []
  | (.symbol _, _) :: entries => maskEntries lower entries
  | (.name key, value) :: entries =>
    if key = "__proto__" then maskEntries lower entries
    else
      (.name key, if isSensitive lower key then REDACTED else maskSensitiveData lower value) ::
        maskEntries lower entries

end

/-! ### What masking is for -/

/-- The entry holds a secret. -/
def holdsSecret (lower : String → String) : LogKey → Bool
  | .name key => isSensitive lower key
  | .symbol _ => false

mutual

/-- The value with every secret hidden and all else as it was. -/
def redacted (lower : String → String) : LogValue → LogValue
  | .primitive p => .primitive p
  | .array items => .array (redactedItems lower items)
  | .object entries => .object (redactedEntries lower entries)
  | .date time => .date time
  | .error name message stack entries =>
    .error name message stack (redactedEntries lower entries)

/-- The items with every secret hidden. -/
def redactedItems (lower : String → String) : List LogValue → List LogValue
  | [] => []
  | item :: items => redacted lower item :: redactedItems lower items

/-- The entries with every secret hidden. -/
def redactedEntries (lower : String → String) :
    List (LogKey × LogValue) → List (LogKey × LogValue)
  | [] => []
  | (key, value) :: entries =>
    (key, if holdsSecret lower key then REDACTED else redacted lower value) ::
      redactedEntries lower entries

end

mutual

/-- Every secret in the value is hidden. -/
def Hidden (lower : String → String) : LogValue → Prop
  | .primitive _ => True
  | .array items => HiddenItems lower items
  | .object entries => HiddenEntries lower entries
  | .date _ => True
  | .error _ _ _ entries => HiddenEntries lower entries

/-- Every secret in the items is hidden. -/
def HiddenItems (lower : String → String) : List LogValue → Prop
  | [] => True
  | item :: items => Hidden lower item ∧ HiddenItems lower items

/-- Every secret in the entries is hidden. -/
def HiddenEntries (lower : String → String) : List (LogKey × LogValue) → Prop
  | [] => True
  | (key, value) :: entries =>
    (if holdsSecret lower key then value = REDACTED else Hidden lower value) ∧
      HiddenEntries lower entries

end

mutual

/-- Outside of the secrets there are no dates and no errors in the value, and no symbol and no
`__proto__` among the keys. -/
def Plain (lower : String → String) : LogValue → Prop
  | .primitive _ => True
  | .array items => PlainItems lower items
  | .object entries => PlainEntries lower entries
  | .date _ => False
  | .error .. => False

/-- The items are of this kind. -/
def PlainItems (lower : String → String) : List LogValue → Prop
  | [] => True
  | item :: items => Plain lower item ∧ PlainItems lower items

/-- The entries are of this kind. -/
def PlainEntries (lower : String → String) : List (LogKey × LogValue) → Prop
  | [] => True
  | (.symbol _, _) :: _ => False
  | (.name key, value) :: entries =>
    key ≠ "__proto__" ∧ (isSensitive lower key = true ∨ Plain lower value) ∧
      PlainEntries lower entries

end

variable {lower : String → String}

/-! ### No secret is left -/

mutual

/-- Whatever the value is, masking hides its secrets. -/
theorem hidden_maskSensitiveData (v : LogValue) : Hidden lower (maskSensitiveData lower v) := by
  cases v with
  | primitive p => exact trivial
  | array items => exact hiddenItems_maskItems items
  | object entries => exact hiddenEntries_maskEntries entries
  | date time => exact trivial
  | error name message stack entries => exact hiddenEntries_maskEntries entries

/-- The items of a masked array hide what is sensitive. -/
theorem hiddenItems_maskItems (items : List LogValue) :
    HiddenItems lower (maskItems lower items) := by
  cases items with
  | nil => exact trivial
  | cons item items => exact ⟨hidden_maskSensitiveData item, hiddenItems_maskItems items⟩

/-- The entries of a masked object hide what is sensitive. -/
theorem hiddenEntries_maskEntries (entries : List (LogKey × LogValue)) :
    HiddenEntries lower (maskEntries lower entries) := by
  match entries with
  | [] => exact trivial
  | (.symbol _, _) :: entries => exact hiddenEntries_maskEntries entries
  | (.name key, value) :: entries =>
    unfold maskEntries
    split
    · exact hiddenEntries_maskEntries entries
    · refine ⟨?_, hiddenEntries_maskEntries entries⟩
      show if isSensitive lower key = true then _ else _
      split
      · rfl
      · exact hidden_maskSensitiveData value

end

/-! ### What else is lost -/

/-- Masking makes no entries. -/
theorem length_maskEntries_le (entries : List (LogKey × LogValue)) :
    (maskEntries lower entries).length ≤ entries.length := by
  induction entries with
  | nil => exact Nat.le_refl _
  | cons entry entries ih =>
    obtain ⟨key, value⟩ := entry
    cases key with
    | symbol s => exact Nat.le_succ_of_le ih
    | name key =>
      unfold maskEntries
      split
      · exact Nat.le_succ_of_le ih
      · exact Nat.succ_le_succ ih

/-- The redaction keeps the number of entries. -/
theorem length_redactedEntries (entries : List (LogKey × LogValue)) :
    (redactedEntries lower entries).length = entries.length := by
  induction entries with
  | nil => rfl
  | cons entry entries ih =>
    unfold redactedEntries
    rw [List.length_cons, ih, List.length_cons]

/-- An entry that is lost is not made up for. -/
theorem maskEntries_ne_redactedEntries_cons (entry : LogKey × LogValue)
    (entries : List (LogKey × LogValue)) :
    maskEntries lower entries ≠ redactedEntries lower (entry :: entries) := by
  intro h
  have hle : (maskEntries lower entries).length ≤ entries.length := length_maskEntries_le entries
  rw [h, length_redactedEntries, List.length_cons] at hle
  omega

mutual

/-- Masking hides the secrets and nothing else in plain values only. -/
theorem maskSensitiveData_eq_redacted_iff (v : LogValue) :
    maskSensitiveData lower v = redacted lower v ↔ Plain lower v := by
  cases v with
  | primitive p => exact ⟨fun _ ↦ trivial, fun _ ↦ rfl⟩
  | array items =>
    unfold maskSensitiveData redacted Plain
    rw [LogValue.array.injEq]
    exact maskItems_eq_redactedItems_iff items
  | object entries =>
    unfold maskSensitiveData redacted Plain
    rw [LogValue.object.injEq]
    exact maskEntries_eq_redactedEntries_iff entries
  | date time => exact ⟨nofun, nofun⟩
  | error name message stack entries => exact ⟨nofun, nofun⟩

/-- An array is masked as it should be exactly when its items are plain. -/
theorem maskItems_eq_redactedItems_iff (items : List LogValue) :
    maskItems lower items = redactedItems lower items ↔ PlainItems lower items := by
  cases items with
  | nil => exact ⟨fun _ ↦ trivial, fun _ ↦ rfl⟩
  | cons item items =>
    unfold maskItems redactedItems PlainItems
    rw [List.cons.injEq]
    exact and_congr (maskSensitiveData_eq_redacted_iff item) (maskItems_eq_redactedItems_iff items)

/-- The entries are masked as they should be exactly when they are plain. -/
theorem maskEntries_eq_redactedEntries_iff (entries : List (LogKey × LogValue)) :
    maskEntries lower entries = redactedEntries lower entries ↔ PlainEntries lower entries := by
  match entries with
  | [] => exact ⟨fun _ ↦ trivial, fun _ ↦ rfl⟩
  | (.symbol s, value) :: entries =>
    have hlost : maskEntries lower entries ≠
        redactedEntries lower ((.symbol s, value) :: entries) :=
      maskEntries_ne_redactedEntries_cons _ entries
    exact ⟨fun h ↦ absurd h hlost, nofun⟩
  | (.name key, value) :: entries =>
    by_cases hproto : key = "__proto__"
    · have hlost : maskEntries lower entries ≠
          redactedEntries lower ((.name key, value) :: entries) :=
        maskEntries_ne_redactedEntries_cons _ entries
      rw [maskEntries, if_pos hproto]
      exact ⟨fun h ↦ absurd h hlost, fun h ↦ absurd hproto h.1⟩
    · rw [maskEntries, if_neg hproto, redactedEntries, PlainEntries, List.cons.injEq, Prod.mk.injEq]
      have hrest := maskEntries_eq_redactedEntries_iff entries
      have hvalue := maskSensitiveData_eq_redacted_iff value
      by_cases hsecret : isSensitive lower key = true
      · simp [hsecret, hrest, holdsSecret, hproto]
      · simp [hsecret, hrest, hvalue, holdsSecret, hproto]

end

end Logger

open Logger

/-- What masking is to do with a record: the secrets are hidden, and nothing else is different. -/
structure HidesExactly (lower : String → String) (record : LogValue) : Prop where
  hidden : Hidden lower (maskSensitiveData lower record)
  kept : maskSensitiveData lower record = redacted lower record

/-- Masking hides the secrets of a record and nothing else if and only if, outside of the secrets,
there are no symbols, dates and errors in it and no `__proto__` among its keys. -/
theorem hides_exactly_iff (lower : String → String) (record : LogValue) :
    HidesExactly lower record ↔ Plain lower record := by
  constructor
  · intro h
    exact maskSensitiveData_eq_redacted_iff record |>.mp h.kept
  · intro hplain
    exact ⟨hidden_maskSensitiveData record,
      (maskSensitiveData_eq_redacted_iff record).mpr hplain⟩

/-! ### The level of a record -/

namespace Sample

/-- `toLowerCase` of ASCII. -/
def lower (s : String) : String := String.ofList (s.toList.map Char.toLower)

/-- A record as it comes from `logger.info('Server started')`. -/
def record : LogValue := .object
  [(.name "level", .primitive (.str "info")), (.name "message", .primitive (.str "Server started")),
    (.symbol (.registered "level"), .primitive (.str "info"))]

/-- The symbol-keyed level of the record, by which the transports take it, is lost. -/
example : maskSensitiveData lower record = .object
    [(.name "level", .primitive (.str "info")),
      (.name "message", .primitive (.str "Server started"))] := rfl

end Sample

/-- Every record of the logger has its level under a symbol, and masking drops it. -/
theorem hides_exactly_drops_level : ¬ ∀ (lower : String → String) (record : LogValue),
    HidesExactly lower record := by
  intro h
  have hkept := (h Sample.lower Sample.record).kept
  have hplain := (maskSensitiveData_eq_redacted_iff Sample.record).mp hkept
  -- the third key is a symbol
  exact hplain.2.2.2.2

end Bankos
