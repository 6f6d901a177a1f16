import Mathlib.Data.Set.Basic
import Mathlib.Order.Basic
import Mathlib.Tactic.Common

/-!
# Lists of segments

A name written with separators is the list of its segments. What starts with a name and a
separator has the name's segments as a proper prefix. A pattern ends in a star, or it is one name.
-/

namespace Segments

section Split

variable {α : Type} {sep : α}

/-- Segments joined in two halves. -/
theorem intercalate_append {ss ts : List (List α)} (hss : ss ≠ []) (hts : ts ≠ []) :
    [sep].intercalate (ss ++ ts) = [sep].intercalate ss ++ sep :: [sep].intercalate ts := by
  induction ss with
  | nil => exact absurd rfl hss
  | cons s ss ih =>
    cases ss with
    | nil => simp [List.intercalate_cons_of_ne_nil hts]
    | cons s' ss =>
      rw [List.cons_append, List.intercalate_cons_of_ne_nil (by simp),
        List.intercalate_cons_of_ne_nil (by simp), ih (by simp)]
      simp

/-- Nothing but the empty list of pieces is joined to nothing, if no piece is empty. -/
theorem intercalate_eq_nil_iff {ss : List (List α)} (hpieces : ∀ s ∈ ss, s ≠ []) :
    [sep].intercalate ss = [] ↔ ss = [] := by
  cases ss with
  | nil => simp
  | cons s ss =>
    have hs : s ≠ [] := hpieces s List.mem_cons_self
    cases ss with
    | nil => simpa using hs
    | cons s' ss => simp [List.intercalate_cons_cons]

variable [BEq α]

/-- There is at least one segment. -/
theorem splitOn_ne_nil (xs : List α) : xs.splitOn sep ≠ [] := List.splitOnP_ne_nil _ xs

variable [LawfulBEq α]

/-- The parts on both sides of a separator are split on their own. -/
theorem splitOn_append_cons (xs ys : List α) :
    (xs ++ sep :: ys).splitOn sep = xs.splitOn sep ++ ys.splitOn sep :=
  List.splitOnP_append_cons xs ys (beq_self_eq_true sep)

/-- Lists with the same segments are the same. -/
theorem splitOn_injective : Function.Injective fun xs : List α ↦ xs.splitOn sep := by
  intro xs ys h
  calc
    xs = [sep].intercalate (xs.splitOn sep) := (List.intercalate_splitOn sep).symm
    _ = [sep].intercalate (ys.splitOn sep) := congrArg _ h
    _ = ys := List.intercalate_splitOn sep

/-- What was joined is split into the parts of each piece. -/
theorem splitOn_intercalate_eq_flatMap {ss : List (List α)} (hss : ss ≠ []) :
    ([sep].intercalate ss).splitOn sep = ss.flatMap fun s ↦ s.splitOn sep := by
  induction ss with
  | nil => exact absurd rfl hss
  | cons s ss ih =>
    cases ss with
    | nil => simp
    | cons s' ss =>
      rw [List.intercalate_cons_cons, List.append_assoc, List.singleton_append,
        splitOn_append_cons, ih (by simp)]
      rfl

/-- Pieces that are not empty are joined to the same list when they have the same parts. -/
theorem intercalate_eq_iff {ss ts : List (List α)} (hss : ∀ s ∈ ss, s ≠ [])
    (hts : ∀ t ∈ ts, t ≠ []) :
    [sep].intercalate ss = [sep].intercalate ts ↔
      (ss.flatMap fun s ↦ s.splitOn sep) = ts.flatMap fun t ↦ t.splitOn sep := by
  have hnil : ∀ us : List (List α), (us.flatMap fun u ↦ u.splitOn sep) = [] ↔ us = [] := by
    intro us
    cases us with
    | nil => simp
    | cons u us => simp
  by_cases hs : ss = []
  · subst hs
    rw [List.flatMap_nil, List.intercalate_nil, eq_comm, intercalate_eq_nil_iff hts,
      @eq_comm _ [], hnil]
  · by_cases ht : ts = []
    · subst ht
      rw [List.flatMap_nil, List.intercalate_nil, intercalate_eq_nil_iff hss, hnil]
    · rw [← splitOn_intercalate_eq_flatMap hs, ← splitOn_intercalate_eq_flatMap ht]
      exact splitOn_injective.eq_iff.symm

/-- A piece without the separator is its own only part. -/
theorem flatMap_splitOn_of_not_mem {ss : List (List α)} (h : ∀ s ∈ ss, sep ∉ s) :
    (ss.flatMap fun s ↦ s.splitOn sep) = ss := by
  induction ss with
  | nil => rfl
  | cons s ss ih =>
    have hs : s.splitOn sep = [s] := List.splitOn_eq_singleton (h s List.mem_cons_self)
    rw [List.flatMap_cons, hs, ih fun t ht ↦ h t (List.mem_cons_of_mem s ht), List.singleton_append]

/-- A list starts with another one and a separator when the other's segments are a proper prefix of
its own. -/
theorem append_sep_prefix_iff (xs ys : List α) :
    xs ++ [sep] <+: ys ↔
      xs.splitOn sep <+: ys.splitOn sep ∧ xs.splitOn sep ≠ ys.splitOn sep := by
  constructor
  · rintro ⟨rest, rfl⟩
    rw [List.append_assoc, List.singleton_append, splitOn_append_cons]
    refine ⟨List.prefix_append _ _, fun h ↦ ?_⟩
    exact splitOn_ne_nil rest (List.self_eq_append_right.mp h)
  · rintro ⟨⟨rest, hrest⟩, hne⟩
    have hnil : rest ≠ [] := by
      rintro rfl
      exact hne (by simpa using hrest)
    refine ⟨[sep].intercalate rest, ?_⟩
    calc
      xs ++ [sep] ++ [sep].intercalate rest
        = [sep].intercalate (xs.splitOn sep) ++ sep :: [sep].intercalate rest := by
          rw [List.intercalate_splitOn, List.append_assoc, List.singleton_append]
      _ = [sep].intercalate (ys.splitOn sep) := by
          rw [← hrest, intercalate_append (splitOn_ne_nil xs) hnil]
      _ = ys := List.intercalate_splitOn sep

/-- A list whose segments end in `last` is a list with one separator and `last` behind it. -/
theorem splitOn_eq_concat_iff {xs last : List α} {stem : List (List α)}
    (hlast : last.splitOn sep = [last]) :
    xs.splitOn sep = stem ++ [last] ∧ stem ≠ [] ↔
      ∃ ys, xs = ys ++ sep :: last ∧ stem = ys.splitOn sep := by
  constructor
  · rintro ⟨hsplit, hstem⟩
    have hxs : xs = [sep].intercalate stem ++ sep :: last := by
      calc
        xs = [sep].intercalate (stem ++ [last]) := by rw [← hsplit, List.intercalate_splitOn]
        _ = [sep].intercalate stem ++ sep :: last := by
          rw [intercalate_append hstem (by simp), List.intercalate_singleton]
    refine ⟨_, hxs, ?_⟩
    rw [hxs, splitOn_append_cons, hlast] at hsplit
    exact (List.append_cancel_right hsplit).symm
  · rintro ⟨ys, rfl, rfl⟩
    exact ⟨by rw [splitOn_append_cons, hlast], splitOn_ne_nil ys⟩

end Split

/-! ### Patterns -/

section Covers

variable {σ : Type} {star : σ}

/-- A list that covers another one: it is the star alone, the list itself, or a stem with a star
whose stem the other list goes beyond. -/
def Covers (star : σ) (granted required : List σ) : Prop :=
  granted = [star] ∨ granted = required ∨
    ∃ stem, granted = stem ++ [star] ∧ stem ≠ [] ∧ stem <+: required ∧ stem ≠ required

/-- A list covers itself. -/
theorem Covers.refl (s : List σ) : Covers star s s := .inr (.inl rfl)

/-- What goes beyond a stem with a star goes beyond the stem. -/
theorem prefix_of_prefix_concat {stem stem' : List σ} (h : stem <+: stem' ++ [star])
    (hne : stem ≠ stem' ++ [star]) : stem <+: stem' := by
  rcases List.prefix_concat_iff.mp h with heq | hprefix
  · exact absurd heq hne
  · exact hprefix

/-- A proper prefix of a prefix is a proper prefix. -/
theorem ne_of_prefix_of_proper {s t u : List σ} (hst : s <+: t) (htu : t <+: u) (hne : t ≠ u) :
    s ≠ u := by
  rintro rfl
  exact hne (htu.eq_of_length_le hst.length_le)

/-- Covering is transitive. The middle list may be a pattern as well. -/
theorem Covers.trans {s t u : List σ} (hst : Covers star s t) (htu : Covers star t u) :
    Covers star s u := by
  rcases hst with rfl | rfl | ⟨stem, rfl, hstem, hprefix, hne⟩
  · exact .inl rfl
  · exact htu
  · rcases htu with rfl | rfl | ⟨stem', rfl, -, hprefix', hne'⟩
    · -- nothing but the star alone lies beneath a star
      have hstar : stem <+: [] ++ [star] := hprefix
      have hnil : stem <+: [] := prefix_of_prefix_concat hstar hne
      exact absurd (List.prefix_nil.mp hnil) hstem
    · exact .inr (.inr ⟨stem, rfl, hstem, hprefix, hne⟩)
    · have hshort : stem <+: stem' := prefix_of_prefix_concat hprefix hne
      exact .inr (.inr ⟨stem, rfl, hstem, hshort.trans hprefix',
        ne_of_prefix_of_proper hshort hprefix' hne'⟩)

/-- What some of the patterns covers. -/
def reach (star : σ) (patterns : Set (List σ)) : Set (List σ) :=
  {path | ∃ pattern ∈ patterns, Covers star pattern path}

/-- Patterns reach no further than others as soon as the others cover each of them. -/
theorem reach_subset_iff {patterns patterns' : Set (List σ)} :
    reach star patterns ⊆ reach star patterns' ↔ patterns ⊆ reach star patterns' := by
  constructor
  · intro h pattern hpattern
    exact h ⟨pattern, hpattern, .refl pattern⟩
  · rintro h path ⟨pattern, hpattern, hbelow⟩
    obtain ⟨top, htop, habove⟩ := h hpattern
    exact ⟨top, htop, habove.trans hbelow⟩

end Covers
end Segments
