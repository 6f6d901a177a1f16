import Bankos.Auth.Engine
import Bankos.Base.Segments

/-!
# Wildcards

A permission is the list of its segments, and a granted one that ends in a star covers what goes
on beneath it. The evaluator works on the strings.
-/

namespace Bankos

open Js Segments

/-- `permission.split('.')`. -/
def segments (permission : String) : List (List Char) := permission.toList.splitOn '.'

/-- Permissions with the same segments are the same. -/
theorem segments_inj {p q : String} : segments p = segments q ↔ p = q :=
  ⟨fun h ↦ String.toList_injective (splitOn_injective h), congrArg segments⟩

namespace RBACEvaluator

/-- The three ways to match, on the strings. -/
theorem matchPermission_iff (granted required : String) :
    matchPermission granted required = true ↔
      granted = "*" ∨ granted = required ∨
        ∃ stem, granted.toList = stem ++ ['.', '*'] ∧ stem ++ ['.'] <+: required.toList := by
  have hwild : (∃ stem, granted.toList = stem ++ ['.', '*'] ∧ stem ++ ['.'] <+: required.toList) ↔
      ".*".toList <:+ granted.toList ∧ granted.toList.dropLast <+: required.toList := by
    constructor
    · rintro ⟨stem, hgranted, hprefix⟩
      rw [hgranted]
      refine ⟨List.suffix_append _ _, ?_⟩
      simpa using hprefix
    · rintro ⟨⟨stem, hgranted⟩, hprefix⟩
      refine ⟨stem, hgranted.symm, ?_⟩
      rw [← hgranted] at hprefix
      simpa using hprefix
  rw [hwild]
  unfold matchPermission
  by_cases hsame : granted = required
  · simp [hsame]
  · by_cases hstar : granted = "*"
    · simp [hstar]
    · simp [hsame, hstar]

/-- The evaluator decides whether one list of segments covers the other. -/
theorem matchPermission_iff_covers (granted required : String) :
    matchPermission granted required = true ↔
      Covers ['*'] (segments granted) (segments required) := by
  have hstar : ['*'].splitOn '.' = [['*']] := by decide
  have hwild : (∃ stem, granted.toList = stem ++ ['.', '*'] ∧ stem ++ ['.'] <+: required.toList) ↔
      ∃ stem, segments granted = stem ++ [['*']] ∧ stem ≠ [] ∧ stem <+: segments required ∧
        stem ≠ segments required := by
    constructor
    · rintro ⟨stem, hgranted, hprefix⟩
      obtain ⟨hsplit, hne⟩ := (splitOn_eq_concat_iff hstar).mpr ⟨stem, hgranted, rfl⟩
      exact ⟨_, hsplit, hne, (append_sep_prefix_iff _ _).mp hprefix⟩
    · rintro ⟨_, hsplit, hne, hprefix⟩
      obtain ⟨stem, hgranted, rfl⟩ := (splitOn_eq_concat_iff hstar).mp ⟨hsplit, hne⟩
      exact ⟨stem, hgranted, (append_sep_prefix_iff _ _).mpr hprefix⟩
  have hone : granted = "*" ↔ segments granted = [['*']] := by
    rw [← segments_inj]
    rfl
  rw [matchPermission_iff, hwild, hone, ← segments_inj (p := granted) (q := required)]
  rfl

/-- What a granted permission matches, segment by segment. -/
theorem matchPermission_segments (granted required : String) :
    matchPermission granted required = true ↔
      granted = "*" ∨ granted = required ∨
        (2 ≤ (segments granted).length ∧ (segments granted).getLast? = some ['*'] ∧
          (segments granted).dropLast <+: segments required ∧
          (segments granted).dropLast ≠ segments required) := by
  have hone : segments granted = [['*']] ↔ granted = "*" := by
    rw [← segments_inj]
    rfl
  rw [matchPermission_iff_covers, Covers, hone, segments_inj]
  refine or_congr_right (or_congr_right ?_)
  constructor
  · rintro ⟨stem, hgranted, hstem, hproper⟩
    rw [hgranted, List.dropLast_concat]
    refine ⟨?_, List.getLast?_concat, hproper⟩
    have hpos : 0 < stem.length := List.length_pos_iff.mpr hstem
    rw [List.length_append, List.length_singleton]
    omega
  · rintro ⟨hlength, hlast, hproper⟩
    refine ⟨(segments granted).dropLast, ?_, ?_, hproper⟩
    · exact (List.dropLast_append_getLast? _ hlast).symm
    · apply List.ne_nil_of_length_pos
      rw [List.length_dropLast]
      omega

end RBACEvaluator

namespace PolicyEngine

/-- On strings, the policy engine looks for a granted permission that matches. -/
theorem requirePermission_strings (perms : List String) (required : String) :
    requirePermission (.strings perms) required =
      .ok (perms.any fun granted ↦ RBACEvaluator.matchPermission granted required) := by
  change RBACEvaluator.hasPermission (perms.map .str) required = _
  induction perms with
  | nil => rfl
  | cons granted perms ih =>
    rw [List.map_cons, RBACEvaluator.hasPermission, List.any_cons]
    by_cases hmatch : RBACEvaluator.matchPermission granted required = true
    · rw [if_pos hmatch, hmatch, Bool.true_or]
    · rw [if_neg hmatch, ih, Bool.eq_false_iff.mpr hmatch, Bool.false_or]

/-- On strings, all permissions are granted when each of them is. -/
theorem requireAll_strings (perms requireds : List String) :
    requireAll (.strings perms) requireds = .ok true ↔
      ∀ required ∈ requireds, requirePermission (.strings perms) required = .ok true := by
  induction requireds with
  | nil => simp [requireAll]
  | cons required requireds ih =>
    rw [List.forall_mem_cons, ← ih, requireAll, requirePermission_strings]
    cases perms.any fun granted ↦ RBACEvaluator.matchPermission granted required with
    | true => exact ⟨fun h ↦ ⟨rfl, h⟩, fun h ↦ h.2⟩
    | false => exact ⟨fun h ↦ (nomatch h), fun h ↦ (nomatch h.1)⟩

/-- The paths that a list of permissions reaches. -/
def reached (perms : List String) : Set (List (List Char)) :=
  reach ['*'] {path | ∃ granted ∈ perms, segments granted = path}

/-- A required permission is one that is reached. -/
theorem requirePermission_iff_reached (perms : List String) (required : String) :
    requirePermission (.strings perms) required = .ok true ↔
      segments required ∈ reached perms := by
  rw [requirePermission_strings, Except.ok.injEq, List.any_eq_true]
  constructor
  · rintro ⟨granted, hgranted, hmatch⟩
    exact ⟨_, ⟨granted, hgranted, rfl⟩, (RBACEvaluator.matchPermission_iff_covers _ _).mp hmatch⟩
  · rintro ⟨_, ⟨granted, hgranted, rfl⟩, hcovers⟩
    exact ⟨granted, hgranted, (RBACEvaluator.matchPermission_iff_covers _ _).mpr hcovers⟩

/-- All permissions of a list are granted when the list reaches no further. -/
theorem requireAll_iff_reached (granted delegated : List String) :
    requireAll (.strings granted) delegated = .ok true ↔ reached delegated ⊆ reached granted := by
  rw [requireAll_strings]
  unfold reached
  rw [reach_subset_iff]
  constructor
  · rintro hall _ ⟨required, hrequired, rfl⟩
    exact (requirePermission_iff_reached _ _).mp (hall required hrequired)
  · intro hsubset required hrequired
    exact (requirePermission_iff_reached _ _).mpr (hsubset ⟨required, hrequired, rfl⟩)

/-- Whoever delegates only what they hold delegates nothing that they do not hold. -/
theorem requirePermission_of_requireAll {granted delegated : List String} {required : String}
    (hall : requireAll (.strings granted) delegated = .ok true)
    (hrequired : requirePermission (.strings delegated) required = .ok true) :
    requirePermission (.strings granted) required = .ok true := by
  have hreached := (requirePermission_iff_reached _ _).mp hrequired
  have hfurther := (requireAll_iff_reached _ _).mp hall
  exact (requirePermission_iff_reached _ _).mpr (hfurther hreached)

/-- A wildcard delegated beneath a wildcard, and a permission beneath that one. -/
theorem requirePermission_account_users_read :
    requirePermission (.strings ["account.*"]) "account.users.read" = .ok true :=
  have hall : requireAll (.strings ["account.*"]) ["account.users.*"] = .ok true := by decide
  have hrequired :
      requirePermission (.strings ["account.users.*"]) "account.users.read" = .ok true := by decide
  requirePermission_of_requireAll hall hrequired

end PolicyEngine
end Bankos
