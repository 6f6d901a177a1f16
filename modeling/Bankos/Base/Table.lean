import Mathlib.Tactic.Common

/-!
# Tables with unique keys

A table is a list of rows no two of which clash. The clash of two rows is the violation of
a unique constraint, so a table that breaks its constraints cannot be built.
Rows are kept in the order of their insertion; updates must leave the keys alone.
-/

namespace Storage

/-- A condition that holds of an element of a list, and of no two of them, holds of one. -/
theorem countP_eq_one {α : Type} {l : List α} {p : α → Bool} {a : α} (ha : a ∈ l)
    (hp : p a = true) (h : l.Pairwise fun x y ↦ ¬ (p x = true ∧ p y = true)) :
    l.countP p = 1 := by
  induction l with
  | nil => exact absurd ha List.not_mem_nil
  | cons x l ih =>
    obtain ⟨hx, hl⟩ := List.pairwise_cons.mp h
    rcases List.mem_cons.mp ha with rfl | ha
    · have hrest : l.countP p = 0 := by
        apply List.countP_eq_zero.mpr
        intro y hy hpy
        exact hx y hy ⟨hp, hpy⟩
      rw [List.countP_cons_of_pos hp, hrest]
    · have hnot : ¬ p x = true := fun hpx ↦ hx a ha ⟨hpx, hp⟩
      rw [List.countP_cons_of_neg hnot]
      exact ih ha hl

/-- Rows, no two of which clash. -/
structure Table (Row : Type) (clash : Row → Row → Bool) where
  rows : List Row
  distinct : rows.Pairwise fun r s ↦ clash r s = false

namespace Table

variable {Row : Type} {clash : Row → Row → Bool}

/-- A row is in the table when it is among its rows. -/
instance : Membership Row (Table Row clash) := ⟨fun t r ↦ r ∈ t.rows⟩

/-- Membership is list membership. -/
theorem mem_iff {t : Table Row clash} {r : Row} : r ∈ t ↔ r ∈ t.rows := Iff.rfl

/-- The table without rows. -/
def empty : Table Row clash := ⟨[], .nil⟩

/-- The table with one row. -/
def single (r : Row) : Table Row clash := ⟨[r], List.pairwise_singleton _ _⟩

/-- The first row that satisfies `p`. -/
def find (t : Table Row clash) (p : Row → Bool) : Option Row := t.rows.find? p

/-- Add a row, unless it clashes with one that is there. -/
def insert (t : Table Row clash) (row : Row) : Option (Table Row clash) :=
  if h : ∀ r ∈ t.rows, clash r row = false then
    some ⟨t.rows ++ [row], by
      refine List.pairwise_append.mpr ⟨t.distinct, List.pairwise_singleton _ _, ?_⟩
      intro r hr s hs
      rw [List.mem_singleton.mp hs]
      exact h r hr⟩
  else none

/-- Rewrite every row; `f` must not touch what rows clash about. -/
def map (t : Table Row clash) (f : Row → Row) (hf : ∀ r s, clash (f r) (f s) = clash r s) :
    Table Row clash :=
  ⟨t.rows.map f, List.pairwise_map.mpr (t.distinct.imp fun h ↦ by rw [hf]; exact h)⟩

/-- Keep the rows that satisfy `p`. -/
def keep (t : Table Row clash) (p : Row → Bool) : Table Row clash :=
  ⟨t.rows.filter p, t.distinct.filter p⟩

/-! ### Looking rows up -/

/-- A row that was found is in the table and satisfies the condition. -/
theorem find_some {t : Table Row clash} {p : Row → Bool} {r : Row} (h : t.find p = some r) :
    r ∈ t ∧ p r = true :=
  ⟨List.mem_of_find?_eq_some h, List.find?_some h⟩

/-- Nothing is found exactly when no row satisfies the condition. -/
theorem find_none {t : Table Row clash} {p : Row → Bool} :
    t.find p = none ↔ ∀ r ∈ t, p r = false := by
  simp [find, mem_iff]

/-- Two rows that clash, in either order, are the same row. -/
theorem eq_of_clash {t : Table Row clash} {r s : Row} (hr : r ∈ t) (hs : s ∈ t)
    (h : clash r s = true) (h' : clash s r = true) : r = s := by
  have hd := t.distinct
  rw [mem_iff] at hr hs
  generalize t.rows = rows at hr hs hd
  induction rows with
  | nil => exact absurd hr List.not_mem_nil
  | cons x rows ih =>
    obtain ⟨hx, hrest⟩ := List.pairwise_cons.mp hd
    rcases List.mem_cons.mp hr with he | hr'
    · rcases List.mem_cons.mp hs with he' | hs'
      · rw [he, he']
      · rw [he, hx s hs'] at h
        cases h
    · rcases List.mem_cons.mp hs with he' | hs'
      · rw [he', hx r hr'] at h'
        cases h'
      · exact ih hr' hs' hrest

/-- A condition that only clashing rows share finds the row that meets it. -/
theorem find_of_mem {t : Table Row clash} {p : Row → Bool} {r : Row} (hr : r ∈ t)
    (hp : p r = true) (hunique : ∀ s, p s = true → clash s r = true ∧ clash r s = true) :
    t.find p = some r := by
  cases h : t.find p with
  | none =>
    rw [find_none.mp h r hr] at hp
    cases hp
  | some s =>
    obtain ⟨hs, hps⟩ := find_some h
    obtain ⟨hc, hc'⟩ := hunique s hps
    rw [eq_of_clash hs hr hc hc']

/-! ### Changing the rows -/

/-- An insertion that succeeds adds the row at the end. -/
theorem rows_insert {t t' : Table Row clash} {row : Row} (h : t.insert row = some t') :
    t'.rows = t.rows ++ [row] := by
  unfold insert at h
  split at h
  · cases h
    rfl
  · cases h

/-- The rows after an insertion that succeeded. -/
theorem mem_insert {t t' : Table Row clash} {row r : Row} (h : t.insert row = some t') :
    r ∈ t' ↔ r ∈ t ∨ r = row := by
  simp [mem_iff, rows_insert h]

/-- A row without a clash is inserted. -/
theorem insert_isSome {t : Table Row clash} {row : Row} :
    (t.insert row).isSome ↔ ∀ r ∈ t, clash r row = false := by
  unfold insert
  split
  · next h => simpa [mem_iff] using h
  · next h => simpa [mem_iff] using h

/-- A clash keeps the row out. -/
theorem insert_eq_none {t : Table Row clash} {row : Row} :
    t.insert row = none ↔ ∃ r ∈ t, clash r row = true := by
  rw [← Option.not_isSome_iff_eq_none, insert_isSome]
  simp

/-- The rows of a rewritten table are the rewritten rows. -/
theorem mem_map {t : Table Row clash} {f : Row → Row}
    {hf : ∀ r s, clash (f r) (f s) = clash r s} {r : Row} :
    r ∈ t.map f hf ↔ ∃ s ∈ t, f s = r := by
  simp [mem_iff, map]

/-- The rows that were kept. -/
theorem mem_keep {t : Table Row clash} {p : Row → Bool} {r : Row} :
    r ∈ t.keep p ↔ r ∈ t ∧ p r = true := by
  simp [mem_iff, keep]

/-! ### Flags that go up -/

/-- How many rows that satisfy `p` have the flag down in `t` and, under the same key, up in `t'`. -/
def raised {κ : Type} [DecidableEq κ] (key : Row → κ) (flag p : Row → Bool)
    (t t' : Table Row clash) : Nat :=
  t.rows.countP fun r ↦ p r && !flag r && t'.rows.any fun s ↦ decide (key s = key r) && flag s

section Raised

variable {κ : Type} [DecidableEq κ] {key : Row → κ} {flag : Row → Bool} {t t' : Table Row clash}

/-- No flag goes up where every row that is down stays down. -/
theorem raised_eq_zero (p : Row → Bool)
    (h : ∀ r ∈ t, flag r = false → ∀ s ∈ t', key s = key r → flag s = false) :
    raised key flag p t t' = 0 := by
  apply List.countP_eq_zero.mpr
  intro r hr hcounted
  simp only [Bool.and_eq_true, Bool.not_eq_true', List.any_eq_true, decide_eq_true_eq] at hcounted
  obtain ⟨⟨-, hdown⟩, s, hs, hkey, hup⟩ := hcounted
  rw [h r hr hdown s hs hkey] at hup
  cases hup

/-- A table that stays as it is raises no flag. -/
theorem raised_self (hkey : ∀ r ∈ t, ∀ s ∈ t, key s = key r → s = r) (p : Row → Bool) :
    raised key flag p t t = 0 := by
  apply raised_eq_zero
  intro r hr hdown s hs h
  rw [hkey r hr s hs h]
  exact hdown

variable {f : Row → Row} {hf : ∀ r s, clash (f r) (f s) = clash r s}

/-- A rewrite that leaves the keys raises the flags of the rows whose flag is up afterwards. -/
theorem raised_map (hkey : ∀ r ∈ t, ∀ s ∈ t, key s = key r → s = r)
    (hf' : ∀ r, key (f r) = key r) (p : Row → Bool) :
    raised key flag p t (t.map f hf) = t.rows.countP fun r ↦ p r && !flag r && flag (f r) := by
  apply List.countP_congr
  intro r hr
  simp only [Bool.and_eq_true, List.any_eq_true, decide_eq_true_eq, map, List.mem_map]
  constructor
  · rintro ⟨hdown, _, ⟨s, hs, rfl⟩, hsame, hup⟩
    rw [hf'] at hsame
    rw [hkey r hr s hs hsame] at hup
    exact ⟨hdown, hup⟩
  · rintro ⟨hdown, hup⟩
    exact ⟨hdown, f r, ⟨r, hr, rfl⟩, hf' r, hup⟩

/-- A rewrite that raises the flag of one row, and no other flag. -/
theorem raised_map_single (hkey : ∀ r ∈ t, ∀ s ∈ t, key s = key r → s = r)
    (hf' : ∀ r, key (f r) = key r) (p : Row → Bool) {d : Row} (hd : d ∈ t)
    (hself : clash d d = true) (hdown : flag d = false) (hup : flag (f d) = true)
    (hrest : ∀ r ∈ t, r ≠ d → flag (f r) = flag r) :
    raised key flag p t (t.map f hf) = if p d = true then 1 else 0 := by
  rw [raised_map hkey hf']
  have hcounted : ∀ r ∈ t.rows, (p r && !flag r && flag (f r)) = true → r = d := by
    intro r hr hcounted
    simp only [Bool.and_eq_true, Bool.not_eq_true'] at hcounted
    by_contra hne
    rw [hrest r hr hne, hcounted.1.2] at hcounted
    cases hcounted.2
  by_cases hp : p d = true
  · rw [if_pos hp]
    apply countP_eq_one hd
    · simp [hp, hdown, hup]
    · apply t.distinct.imp_of_mem
      rintro a b ha hb hclash ⟨hpa, hpb⟩
      rw [hcounted a ha hpa, hcounted b hb hpb, hself] at hclash
      cases hclash
  · rw [if_neg hp]
    apply List.countP_eq_zero.mpr
    intro r hr hcounts
    have hrd := hcounted r hr hcounts
    rw [hrd] at hcounts
    simp only [Bool.and_eq_true] at hcounts
    exact hp hcounts.1.1

end Raised

end Table
end Storage
