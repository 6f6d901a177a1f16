import Mathlib.Tactic.Common

/-!
# The text of a document

What `JSON.stringify` writes for strings, lists and records, and a reader of such texts. What is
written is read back, so two documents with one text are the same.
-/

namespace JsonText

/-- A document without numbers. -/
inductive Tree where
  | null
  | bool (b : Bool)
  | str (s : String)
  | arr (items : List Tree)
  | obj (members : List (String × Tree))

/-- The value of the first member with the name. -/
def Tree.member : Tree → String → Option Tree
  | obj members, name => members.lookup name
  | _, _ => none

/-- The string under the name. -/
def Tree.stringMember (tree : Tree) (name : String) : Option String :=
  match tree.member name with
  | some (.str s) => some s
  | _ => none

/-! ### Strings -/

/-- A hexadecimal digit in lower case. -/
def hexDigit (n : Nat) : Char := if n < 10 then Char.ofNat (48 + n) else Char.ofNat (87 + n)

/-- The value of such a digit. -/
def hexValue (c : Char) : Nat := if c.toNat < 97 then c.toNat - 48 else c.toNat - 87

/-- How a character is written in a string. -/
def escape (c : Char) : List Char :=
  if c = '"' then ['\\', '"']
  else if c = '\\' then ['\\', '\\']
  else if c = '\x08' then ['\\', 'b']
  else if c = '\t' then ['\\', 't']
  else if c = '\n' then ['\\', 'n']
  else if c = '\x0c' then ['\\', 'f']
  else if c = '\r' then ['\\', 'r']
  else if c.toNat < 32 then ['\\', 'u', '0', '0', hexDigit (c.toNat / 16), hexDigit (c.toNat % 16)]
  else [c]

/-- A string between its quotes. -/
def quote (s : String) : List Char := '"' :: (s.toList.flatMap escape ++ ['"'])

/-- The character that a letter after a backslash stands for. -/
def named : Char → Option Char
  | '"' => some '"'
  | '\\' => some '\\'
  | 'b' => some '\x08'
  | 't' => some '\t'
  | 'n' => some '\n'
  | 'f' => some '\x0c'
  | 'r' => some '\r'
  | _ => none

/-- The characters up to the closing quote, and what stands behind it. -/
def readChars : List Char → Option (List Char × List Char)
  | [] => none
  | '"' :: text => some ([], text)
  | '\\' :: 'u' :: a :: b :: c :: d :: text => do
    let (chars, rest) ← readChars text
    pure (Char.ofNat (hexValue a * 4096 + hexValue b * 256 + hexValue c * 16 + hexValue d) :: chars,
      rest)
  | '\\' :: letter :: text => do
    let c ← named letter
    let (chars, rest) ← readChars text
    pure (c :: chars, rest)
  | c :: text => do
    let (chars, rest) ← readChars text
    pure (c :: chars, rest)

/-- A string and what stands behind its opening quote. -/
def readString (text : List Char) : Option (String × List Char) := do
  let (chars, rest) ← readChars text
  pure (String.ofList chars, rest)

/-! ### Lists and records -/

/-- A reader takes a value from the front of a text. -/
abbrev Reader (α : Type) := List Char → Option (α × List Char)

/-- The texts behind a first one, each after a comma, and the bracket. -/
def following (close : Char) : List (List Char) → List Char
  | [] => [close]
  | text :: texts => ',' :: text ++ following close texts

/-- The texts with commas between them, and the bracket. -/
def separated (close : Char) : List (List Char) → List Char
  | [] => [close]
  | text :: texts => text ++ following close texts

/-- Reads values after commas up to the bracket. -/
def readFollowing {α : Type} (close : Char) (read : Reader α) : Nat → Reader (List α)
  | 0, _ => none
  | _, [] => none
  | n + 1, c :: text =>
    if c = close then some ([], text)
    else if c = ',' then do
      let (a, text) ← read text
      let (as, text) ← readFollowing close read n text
      pure (a :: as, text)
    else none

/-- Reads values with commas between them up to the bracket. -/
def readSeparated {α : Type} (close : Char) (read : Reader α) : Reader (List α)
  | [] => none
  | c :: text =>
    if c = close then some ([], text)
    else do
      let (a, text) ← read (c :: text)
      let (as, text) ← readFollowing close read (text.length + 1) text
      pure (a :: as, text)

/-- A member of a record. -/
def readMember {α : Type} (read : Reader α) : Reader (String × α)
  | '"' :: text => do
    let (name, text) ← readString text
    match text with
    | ':' :: text =>
      let (a, text) ← read text
      pure ((name, a), text)
    | _ => none
  | _ => none

mutual

/-- `JSON.stringify`. -/
def stringify : Tree → List Char
  | .null => ['n', 'u', 'l', 'l']
  | .bool true => ['t', 'r', 'u', 'e']
  | .bool false => ['f', 'a', 'l', 's', 'e']
  | .str s => quote s
  | .arr items => '[' :: separated ']' (itemTexts items)
  | .obj members => '{' :: separated '}' (memberTexts members)

/-- The texts of the items. -/
def itemTexts : List Tree → List (List Char)
  | [] => []
  | item :: items => stringify item :: itemTexts items

/-- The texts of the members. -/
def memberTexts : List (String × Tree) → List (List Char)
  | [] => []
  | (name, value) :: members => (quote name ++ ':' :: stringify value) :: memberTexts members

end

/-- `JSON.parse` of a compact text, as deep as the bound. -/
def readTree : Nat → Reader Tree
  | 0, _ => none
  | _ + 1, 'n' :: 'u' :: 'l' :: 'l' :: text => some (.null, text)
  | _ + 1, 't' :: 'r' :: 'u' :: 'e' :: text => some (.bool true, text)
  | _ + 1, 'f' :: 'a' :: 'l' :: 's' :: 'e' :: text => some (.bool false, text)
  | _ + 1, '"' :: text => (readString text).map fun r ↦ (.str r.1, r.2)
  | n + 1, '[' :: text => (readSeparated ']' (readTree n) text).map fun r ↦ (.arr r.1, r.2)
  | n + 1, '{' :: text =>
    (readSeparated '}' (readMember (readTree n)) text).map fun r ↦ (.obj r.1, r.2)
  | _ + 1, _ => none

/-- `JSON.parse` of a compact text. -/
def parse (text : List Char) : Option Tree :=
  match readTree text.length text with
  | some (tree, []) => some tree
  | _ => none

/-! ### What is written is read back -/

/-- The reader takes the value from the front of every text that starts with this one. -/
def Reads {α : Type} (read : Reader α) (text : List Char) (a : α) : Prop :=
  ∀ rest, read (text ++ rest) = some (a, rest)

/-- The character that the digits of a control character stand for. -/
theorem ofNat_hexValue {c : Char} (h : c.toNat < 32) :
    Char.ofNat (hexValue '0' * 4096 + hexValue '0' * 256 + hexValue (hexDigit (c.toNat / 16)) * 16 +
      hexValue (hexDigit (c.toNat % 16))) = c := by
  have hdigits : ∀ n < 32, hexValue '0' * 4096 + hexValue '0' * 256 +
      hexValue (hexDigit (n / 16)) * 16 + hexValue (hexDigit (n % 16)) = n := by decide
  rw [hdigits c.toNat h]
  exact Char.ofNat_toNat c

/-- A character that is written is read back. -/
theorem readChars_escape (c : Char) (text : List Char) :
    readChars (escape c ++ text) =
      (readChars text).bind fun r ↦ some (c :: r.1, r.2) := by
  unfold escape
  split_ifs with hquote hslash hb ht hn hf hr hcontrol
  · subst hquote
    rfl
  · subst hslash
    rfl
  · subst hb
    rfl
  · subst ht
    rfl
  · subst hn
    rfl
  · subst hf
    rfl
  · subst hr
    rfl
  · show (readChars text).bind _ = _
    rw [ofNat_hexValue hcontrol]
    rfl
  · show readChars (c :: text) = _
    rw [readChars]
    · rfl
    · exact fun h ↦ hquote h
    · exact fun _ _ _ _ _ h ↦ absurd h hslash
    · exact fun _ _ h ↦ absurd h hslash

/-- The characters of a string that is written are read back. -/
theorem readChars_flatMap_escape (cs rest : List Char) :
    readChars (cs.flatMap escape ++ '"' :: rest) = some (cs, rest) := by
  induction cs with
  | nil => rfl
  | cons c cs ih =>
    rw [List.flatMap_cons, List.append_assoc, readChars_escape, ih]
    rfl

/-- A string that is written is read back. -/
theorem readString_quote (s : String) (rest : List Char) :
    readString ((quote s).tail ++ rest) = some (s, rest) := by
  have htext : (quote s).tail ++ rest = s.toList.flatMap escape ++ '"' :: rest := by
    simp [quote]
  unfold readString
  rw [htext, readChars_flatMap_escape]
  exact congrArg (fun t ↦ some (t, rest)) String.ofList_toList

section Lists

variable {α : Type} {close : Char} {read : Reader α} {write : α → List Char}

/-- Values behind a first one that are written are read back. -/
theorem readFollowing_following (hclose : close ≠ ',') (as : List α)
    (h : ∀ a ∈ as, Reads read (write a) a) {n : Nat} {rest : List Char}
    (hn : (following close (as.map write) ++ rest).length ≤ n) :
    readFollowing close read n (following close (as.map write) ++ rest) = some (as, rest) := by
  induction as generalizing n with
  | nil =>
    cases n with
    | zero => exact absurd hn (by simp [following])
    | succ n =>
      show (if close = close then _ else _) = _
      rw [if_pos rfl]
      rfl
  | cons a as ih =>
    have htext : following close ((a :: as).map write) ++ rest =
        ',' :: (write a ++ (following close (as.map write) ++ rest)) := by
      simp [following]
    rw [htext] at hn ⊢
    cases n with
    | zero => exact absurd hn (by simp)
    | succ n =>
      have hshort : (following close (as.map write) ++ rest).length ≤ n := by
        simp only [List.length_cons, List.length_append] at hn ⊢
        omega
      rw [readFollowing, if_neg (Ne.symm hclose), if_pos rfl, h a List.mem_cons_self]
      show (readFollowing close read n _).bind _ = _
      rw [ih (fun b hb ↦ h b (List.mem_cons_of_mem _ hb)) hshort]
      rfl

/-- Values that are written are read back, if none starts with the bracket. -/
theorem reads_separated (hclose : close ≠ ',') (as : List α)
    (h : ∀ a ∈ as, Reads read (write a) a)
    (hfirst : ∀ a ∈ as, ∃ c text, write a = c :: text ∧ c ≠ close) :
    Reads (readSeparated close read) (separated close (as.map write)) as := by
  intro rest
  cases as with
  | nil =>
    show (if close = close then _ else _) = _
    rw [if_pos rfl]
    rfl
  | cons a as =>
    obtain ⟨c, text, hwrite, hc⟩ := hfirst a List.mem_cons_self
    have hread := h a List.mem_cons_self (following close (as.map write) ++ rest)
    have htext : separated close ((a :: as).map write) ++ rest =
        write a ++ (following close (as.map write) ++ rest) := by
      simp [separated]
    rw [htext]
    rw [hwrite] at hread ⊢
    rw [List.cons_append] at hread ⊢
    rw [readSeparated, if_neg hc, hread]
    show (readFollowing close read _ _).bind _ = _
    rw [readFollowing_following hclose as (fun b hb ↦ h b (List.mem_cons_of_mem _ hb))
      (Nat.le_succ _)]
    rfl

/-- A text is not longer than the list that it is in. -/
theorem length_le_following (close : Char) {text : List Char} {texts : List (List Char)}
    (h : text ∈ texts) : text.length ≤ (following close texts).length := by
  induction texts with
  | nil => cases h
  | cons t ts ih =>
    simp only [following, List.length_append, List.length_cons]
    rcases List.mem_cons.mp h with rfl | h
    · omega
    · have := ih h
      omega

/-- A text is not longer than the list that it is in. -/
theorem length_le_separated (close : Char) {text : List Char} {texts : List (List Char)}
    (h : text ∈ texts) : text.length ≤ (separated close texts).length := by
  cases texts with
  | nil => cases h
  | cons t ts =>
    simp only [separated, List.length_append]
    rcases List.mem_cons.mp h with rfl | h
    · omega
    · have := length_le_following close h
      omega

end Lists

/-- The text of a member. -/
def memberText (m : String × Tree) : List Char := quote m.1 ++ ':' :: stringify m.2

/-- The texts of the items, one by one. -/
theorem itemTexts_eq_map (items : List Tree) : itemTexts items = items.map stringify := by
  induction items with
  | nil => rfl
  | cons item items ih => rw [itemTexts, ih, List.map_cons]

/-- The texts of the members, one by one. -/
theorem memberTexts_eq_map (members : List (String × Tree)) :
    memberTexts members = members.map memberText := by
  induction members with
  | nil => rfl
  | cons m members ih => rw [memberTexts, ih, List.map_cons, memberText]

/-- No text of a document starts with a closing bracket. -/
theorem stringify_head (tree : Tree) : ∃ c text, stringify tree = c :: text ∧ c ≠ ']' := by
  cases tree with
  | null => exact ⟨_, _, by rw [stringify], by decide⟩
  | bool b => cases b <;> exact ⟨_, _, by rw [stringify], by decide⟩
  | str s => exact ⟨_, _, by rw [stringify, quote], by decide⟩
  | arr items => exact ⟨_, _, by rw [stringify], by decide⟩
  | obj members => exact ⟨_, _, by rw [stringify], by decide⟩

/-- A member that is written is read back. -/
theorem reads_member {read : Reader Tree} {m : String × Tree}
    (h : Reads read (stringify m.2) m.2) : Reads (readMember read) (memberText m) m := by
  intro rest
  have htext : memberText m ++ rest =
      '"' :: ((quote m.1).tail ++ (':' :: (stringify m.2 ++ rest))) := by
    simp [memberText, quote]
  rw [htext, readMember, readString_quote]
  show (read (stringify m.2 ++ rest)).bind _ = _
  rw [h rest]
  rfl

/-- A document that is written is read back, if the reader goes deep enough. -/
theorem reads_stringify (n : Nat) (tree : Tree) (h : (stringify tree).length ≤ n) :
    Reads (readTree n) (stringify tree) tree := by
  induction n generalizing tree with
  | zero =>
    obtain ⟨c, text, htext, -⟩ := stringify_head tree
    rw [htext] at h
    exact absurd h (by simp)
  | succ n ih =>
    intro rest
    cases tree with
    | null =>
      rw [stringify]
      rfl
    | bool b =>
      cases b <;>
      · rw [stringify]
        rfl
    | str s =>
      have htext : stringify (.str s) ++ rest = '"' :: ((quote s).tail ++ rest) := by
        rw [stringify]
        rfl
      rw [htext, readTree, readString_quote]
      rfl
    | arr items =>
      rw [stringify, itemTexts_eq_map] at h ⊢
      have hitems : ∀ item ∈ items, Reads (readTree n) (stringify item) item := by
        intro item hitem
        have := length_le_separated ']' (List.mem_map_of_mem (f := stringify) hitem)
        exact ih item (by simp only [List.length_cons] at h; omega)
      rw [List.cons_append, readTree,
        reads_separated (by decide) items hitems fun item _ ↦ stringify_head item]
      rfl
    | obj members =>
      rw [stringify, memberTexts_eq_map] at h ⊢
      have hmembers : ∀ m ∈ members, Reads (readMember (readTree n)) (memberText m) m := by
        intro m hm
        have := length_le_separated '}' (List.mem_map_of_mem (f := memberText) hm)
        apply reads_member
        apply ih
        simp only [memberText, List.length_append, List.length_cons] at this h
        omega
      rw [List.cons_append, readTree,
        reads_separated (by decide) members hmembers fun m _ ↦ ⟨_, _, rfl, by decide⟩]
      rfl

/-- `JSON.parse` undoes `JSON.stringify`. -/
theorem parse_stringify (tree : Tree) : parse (stringify tree) = some tree := by
  have hread := reads_stringify _ tree (Nat.le_refl _) []
  rw [List.append_nil] at hread
  unfold parse
  rw [hread]

end JsonText
