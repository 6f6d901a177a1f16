import Mathlib.Data.List.Nodup
import Mathlib.Data.List.Perm.Subperm
import Mathlib.Logic.Relation

/-!
# Marking walks

Every node has at most one link to another one. A walk marks the nodes it passes, in order, and
ends at a marked node, at an unknown one or at one without a link. Walks from several nodes share
their marks, and what they mark in the end is what can be reached along known nodes, whatever
cycles there are. Where links descend in some rank, there are no cycles, and following them comes
to an end without marks.
-/

namespace Walks

variable {α : Type}

/-- The walk from `x` over the marks `marked`, of at most `fuel` nodes. -/
def walk [DecidableEq α] (known : α → Bool) (next : α → Option α) : Nat → List α → α → List α
  | 0, marked, _ => marked
  | fuel + 1, marked, x =>
    if x ∈ marked then marked
    else if known x then
      match next x with
      | none => marked ++ [x]
      | some y => walk known next fuel (marked ++ [x]) y
    else marked

/-- The walk from `x` over the marks `marked` comes to an end, and leaves the marks `out`. -/
inductive Walk (known : α → Bool) (next : α → Option α) : List α → α → List α → Prop
  | marked {marked : List α} {x : α} (hx : x ∈ marked) : Walk known next marked x marked
  | unknown {marked : List α} {x : α} (hx : x ∉ marked) (hk : known x = false) :
      Walk known next marked x marked
  | stop {marked : List α} {x : α} (hx : x ∉ marked) (hk : known x = true) (hn : next x = none) :
      Walk known next marked x (marked ++ [x])
  | follow {marked out : List α} {x y : α} (hx : x ∉ marked) (hk : known x = true)
      (hn : next x = some y) (hw : Walk known next (marked ++ [x]) y out) :
      Walk known next marked x out

/-- The walks from the given nodes, one after the other, come to an end. -/
inductive Walked (known : α → Bool) (next : α → Option α) : List α → List α → List α → Prop
  | nil {marked : List α} : Walked known next marked [] marked
  | cons {marked middle out : List α} {x : α} {xs : List α}
      (hw : Walk known next marked x middle) (hrest : Walked known next middle xs out) :
      Walked known next marked (x :: xs) out

/-- There is a link between two nodes, and the second one is known. -/
def Link (known : α → Bool) (next : α → Option α) (x y : α) : Prop :=
  next x = some y ∧ known y = true

/-- Every link from a marked node leads to a marked node, or to the node `pending`. -/
def ClosedBut (known : α → Bool) (next : α → Option α) (marked : List α) (pending : α → Prop) :
    Prop :=
  ∀ x ∈ marked, ∀ y, Link known next x y → y ∈ marked ∨ pending y

variable {known : α → Bool} {next : α → Option α} {marked out xs : List α} {x z : α}

/-! ### Walks end -/

/-- A new mark leaves fewer nodes without one. -/
theorem length_unmarked_lt [DecidableEq α] {nodes : List α} (hnode : x ∈ nodes) (hx : x ∉ marked) :
    (nodes.filter fun y ↦ decide (y ∉ marked ++ [x])).length <
      (nodes.filter fun y ↦ decide (y ∉ marked)).length := by
  have hsplit : (nodes.filter fun y ↦ decide (y ∉ marked ++ [x])) =
      (nodes.filter fun y ↦ decide (y ∉ marked)).filter fun y ↦ decide (y ≠ x) := by
    rw [List.filter_filter]
    apply List.filter_congr
    intro y _
    by_cases hy : y = x
    · simp [hy]
    · simp [hy]
  rw [hsplit]
  apply List.length_filter_lt_length_iff_exists.mpr
  exact ⟨x, by simp [hnode, hx], by simp⟩

/-- A walk ends within as many steps as there are known nodes without a mark. -/
theorem walk_ends [DecidableEq α] {nodes : List α} (hnodes : ∀ y, known y = true → y ∈ nodes)
    (fuel : Nat)
    (hfuel : (nodes.filter fun y ↦ decide (y ∉ marked)).length < fuel) :
    Walk known next marked x (walk known next fuel marked x) := by
  induction fuel generalizing marked x with
  | zero => omega
  | succ fuel ih =>
    unfold walk
    by_cases hx : x ∈ marked
    · rw [if_pos hx]
      exact .marked hx
    · rw [if_neg hx]
      by_cases hk : known x = true
      · rw [if_pos hk]
        cases hn : next x with
        | none => exact .stop hx hk hn
        | some y =>
          apply Walk.follow hx hk hn
          apply ih
          have hlt := length_unmarked_lt (hnodes x hk) hx
          omega
      · rw [if_neg hk]
        exact .unknown hx (by simpa using hk)

/-- Walks from several nodes end, each with a step for every known node and one to spare. -/
theorem foldl_walk_ends [DecidableEq α] {nodes : List α}
    (hnodes : ∀ y, known y = true → y ∈ nodes) {fuel : Nat} (hfuel : nodes.length < fuel) :
    Walked known next marked xs (xs.foldl (walk known next fuel) marked) := by
  induction xs generalizing marked with
  | nil => exact .nil
  | cons x xs ih =>
    apply Walked.cons
    · apply walk_ends hnodes fuel
      have hle := List.length_filter_le (fun y ↦ decide (y ∉ marked)) nodes
      omega
    · exact ih

/-- A walk has one end. -/
theorem Walk.unique {out' : List α} (h : Walk known next marked x out)
    (h' : Walk known next marked x out') : out = out' := by
  induction h with
  | marked hx =>
    cases h' with
    | marked => rfl
    | unknown hx' => exact absurd hx hx'
    | stop hx' => exact absurd hx hx'
    | follow hx' => exact absurd hx hx'
  | unknown hx hk =>
    cases h' with
    | marked hx' => exact absurd hx' hx
    | unknown => rfl
    | stop _ hk' => simp [hk] at hk'
    | follow _ hk' => simp [hk] at hk'
  | stop hx hk hn =>
    cases h' with
    | marked hx' => exact absurd hx' hx
    | unknown _ hk' => simp [hk] at hk'
    | stop => rfl
    | follow _ _ hn' => simp [hn] at hn'
  | follow hx hk hn hw ih =>
    cases h' with
    | marked hx' => exact absurd hx' hx
    | unknown _ hk' => simp [hk] at hk'
    | stop _ _ hn' => simp [hn] at hn'
    | follow _ _ hn' hw' =>
      rw [hn, Option.some.injEq] at hn'
      subst hn'
      exact ih hw'

/-- Walks one after the other have one end. -/
theorem Walked.unique {out' : List α} (h : Walked known next marked xs out)
    (h' : Walked known next marked xs out') : out = out' := by
  induction h with
  | nil =>
    cases h'
    rfl
  | cons hw hrest ih =>
    cases h' with
    | cons hw' hrest' =>
      rw [← hw.unique hw'] at hrest'
      exact ih hrest'

/-! ### What a walk marks -/

/-- Marks stay. -/
theorem Walk.subset (h : Walk known next marked x out) : marked ⊆ out := by
  induction h with
  | marked hx => exact List.Subset.refl _
  | unknown hx hk => exact List.Subset.refl _
  | stop hx hk hn => exact List.subset_append_left _ _
  | follow hx hk hn hw ih => exact List.Subset.trans (List.subset_append_left _ _) ih

/-- No node is marked twice. -/
theorem Walk.nodup (h : Walk known next marked x out) (hm : marked.Nodup) : out.Nodup := by
  have hnew : ∀ {marked : List α} {x : α}, x ∉ marked → marked.Nodup →
      (marked ++ [x]).Nodup := by
    intro marked x hx hm
    rw [List.nodup_append]
    refine ⟨hm, List.nodup_singleton x, ?_⟩
    intro y hy z hz hyz
    rw [List.mem_singleton.mp hz] at hyz
    exact hx (hyz ▸ hy)
  induction h with
  | marked hx => exact hm
  | unknown hx hk => exact hm
  | stop hx hk hn => exact hnew hx hm
  | follow hx hk hn hw ih => exact ih (hnew hx hm)

/-- A known node is marked by the walk from it. -/
theorem Walk.mem_self (h : Walk known next marked x out) (hk : known x = true) : x ∈ out := by
  cases h with
  | marked hx => exact hx
  | unknown hx hk' =>
    rw [hk] at hk'
    cases hk'
  | stop hx hk hn => simp
  | follow hx hk hn hw => exact hw.subset (by simp)

/-- What a walk marks can be reached from its start. -/
theorem Walk.reaches (h : Walk known next marked x out) (hz : z ∈ out) :
    z ∈ marked ∨ known x = true ∧ Relation.ReflTransGen (Link known next) x z := by
  induction h with
  | marked hx => exact .inl hz
  | unknown hx hk => exact .inl hz
  | stop hx hk hn =>
    rcases List.mem_append.mp hz with hz | hz
    · exact .inl hz
    · rw [List.mem_singleton.mp hz]
      exact .inr ⟨hk, .refl⟩
  | follow hx hk hn hw ih =>
    rcases ih hz with hz | ⟨hky, hreach⟩
    · rcases List.mem_append.mp hz with hz | hz
      · exact .inl hz
      · rw [List.mem_singleton.mp hz]
        exact .inr ⟨hk, .refl⟩
    · exact .inr ⟨hk, .head ⟨hn, hky⟩ hreach⟩

/-- A walk from the one node that links still lead to closes the marks. -/
theorem Walk.closed (h : Walk known next marked x out)
    (hm : ClosedBut known next marked fun y ↦ y = x) :
    ClosedBut known next out fun _ ↦ False := by
  induction h with
  | marked hx =>
    intro a ha b hab
    rcases hm a ha b hab with hb | rfl
    · exact .inl hb
    · exact .inl hx
  | unknown hx hk =>
    intro a ha b hab
    rcases hm a ha b hab with hb | rfl
    · exact .inl hb
    · rw [hab.2] at hk
      cases hk
  | @stop marked x hx hk hn =>
    intro a ha b hab
    rcases List.mem_append.mp ha with ha | ha
    · rcases hm a ha b hab with hb | rfl
      · exact .inl (List.mem_append_left _ hb)
      · exact .inl (by simp)
    · rw [List.mem_singleton.mp ha, Link, hn] at hab
      cases hab.1
  | @follow marked out x y hx hk hn hw ih =>
    apply ih
    intro a ha b hab
    rcases List.mem_append.mp ha with ha | ha
    · rcases hm a ha b hab with hb | rfl
      · exact .inl (List.mem_append_left _ hb)
      · exact .inl (by simp)
    · rw [List.mem_singleton.mp ha, Link, hn] at hab
      exact .inr (Option.some.inj hab.1).symm

/-! ### What several walks mark -/

/-- Marks stay. -/
theorem Walked.subset (h : Walked known next marked xs out) : marked ⊆ out := by
  induction h with
  | nil => exact List.Subset.refl _
  | cons hw hrest ih => exact List.Subset.trans hw.subset ih

/-- No node is marked twice. -/
theorem Walked.nodup (h : Walked known next marked xs out) (hm : marked.Nodup) : out.Nodup := by
  induction h with
  | nil => exact hm
  | cons hw hrest ih => exact ih (hw.nodup hm)

/-- Every known node that a walk starts from is marked. -/
theorem Walked.mem_start (h : Walked known next marked xs out) (hx : x ∈ xs)
    (hk : known x = true) : x ∈ out := by
  induction h with
  | nil => cases hx
  | cons hw hrest ih =>
    rcases List.mem_cons.mp hx with rfl | hx
    · exact hrest.subset (hw.mem_self hk)
    · exact ih hx

/-- What walks mark can be reached from one of their starts. -/
theorem Walked.reaches (h : Walked known next marked xs out) (hz : z ∈ out) :
    z ∈ marked ∨
      ∃ x ∈ xs, known x = true ∧ Relation.ReflTransGen (Link known next) x z := by
  induction h with
  | nil => exact .inl hz
  | @cons marked middle out x xs hw hrest ih =>
    rcases ih hz with hz | ⟨y, hy, hreach⟩
    · rcases hw.reaches hz with hz | hreach
      · exact .inl hz
      · exact .inr ⟨x, List.mem_cons_self, hreach⟩
    · exact .inr ⟨y, List.mem_cons_of_mem _ hy, hreach⟩

/-- Walks over closed marks leave closed marks. -/
theorem Walked.closed (h : Walked known next marked xs out)
    (hm : ClosedBut known next marked fun _ ↦ False) :
    ClosedBut known next out fun _ ↦ False := by
  induction h with
  | nil => exact hm
  | cons hw hrest ih => exact ih (hw.closed fun a ha b hab ↦ (hm a ha b hab).imp_right False.elim)

/-- Closed marks hold all that can be reached from them. -/
theorem ClosedBut.mem_of_reaches (hm : ClosedBut known next out fun _ ↦ False) (hx : x ∈ out)
    (h : Relation.ReflTransGen (Link known next) x z) : z ∈ out := by
  induction h with
  | refl => exact hx
  | tail _ hlink ih => exact (hm _ ih _ hlink).resolve_right id

/-- Walks without earlier marks mark exactly what can be reached from their known starts. -/
theorem Walked.mem_iff (h : Walked known next [] xs out) :
    z ∈ out ↔ ∃ x ∈ xs, known x = true ∧ Relation.ReflTransGen (Link known next) x z := by
  constructor
  · intro hz
    exact (h.reaches hz).resolve_left List.not_mem_nil
  · rintro ⟨x, hx, hk, hreach⟩
    have hclosed := h.closed fun a ha ↦ absurd ha List.not_mem_nil
    exact hclosed.mem_of_reaches (h.mem_start hx hk) hreach

/-! ### Links that descend -/

/-- The nodes from `x` along the links, up to one without a link. -/
inductive Climb (next : α → Option α) : α → List α → Prop
  | top {x : α} (hn : next x = none) : Climb next x [x]
  | step {x y : α} {l : List α} (hn : next x = some y) (hc : Climb next y l) :
      Climb next x (x :: l)

/-- A relation that descends in rank has no cycle. -/
theorem not_transGen_of_rank {r : α → α → Prop} (rank : α → Nat)
    (hrank : ∀ x y, r x y → rank y < rank x) (x : α) : ¬ Relation.TransGen r x x := by
  have hlt : ∀ y, Relation.TransGen r x y → rank y < rank x := by
    intro y h
    induction h with
    | single h => exact hrank _ _ h
    | tail _ h ih => exact Nat.lt_trans (hrank _ _ h) ih
  intro h
  exact Nat.lt_irrefl _ (hlt x h)

/-- Links that descend in rank and stay among the given nodes lead to a node without a link, over
nodes of ever lower rank. -/
theorem exists_climb {nodes : List α} (rank : α → Nat)
    (hlinks : ∀ x ∈ nodes, ∀ y, next x = some y → y ∈ nodes ∧ rank y < rank x) (hx : x ∈ nodes) :
    ∃ l, Climb next x l ∧ l ⊆ nodes ∧ l.Pairwise (fun a b ↦ rank b < rank a) ∧
      ∀ z ∈ l, rank z ≤ rank x := by
  induction hn : rank x using Nat.strongRecOn generalizing x with
  | ind n ih =>
    subst hn
    cases hnext : next x with
    | none =>
      refine ⟨[x], .top hnext, ?_, List.pairwise_singleton _ _, ?_⟩
      · intro z hz
        rw [List.mem_singleton.mp hz]
        exact hx
      · intro z hz
        exact Nat.le_of_eq (congrArg rank (List.mem_singleton.mp hz))
    | some y =>
      obtain ⟨hy, hlt⟩ := hlinks x hx y hnext
      obtain ⟨l, hc, hsub, hdescends, hle⟩ := ih (rank y) hlt hy rfl
      refine ⟨x :: l, .step hnext hc, ?_, ?_, ?_⟩
      · exact List.cons_subset.mpr ⟨hx, hsub⟩
      · rw [List.pairwise_cons]
        exact ⟨fun z hz ↦ Nat.lt_of_le_of_lt (hle z hz) hlt, hdescends⟩
      · intro z hz
        rcases List.mem_cons.mp hz with rfl | hz
        · exact Nat.le_refl _
        · exact Nat.le_of_lt (Nat.lt_of_le_of_lt (hle z hz) hlt)

/-- Along links that descend in a rank, a climb from a node is no longer than there are nodes. -/
theorem exists_short_climb {nodes : List α} (rank : α → Nat)
    (hlinks : ∀ x ∈ nodes, ∀ y, next x = some y → y ∈ nodes ∧ rank y < rank x) (hx : x ∈ nodes) :
    ∃ l, Climb next x l ∧ l.length ≤ nodes.length := by
  obtain ⟨l, hc, hsub, hdescends, -⟩ := exists_climb rank hlinks hx
  have hnodup : l.Nodup := hdescends.imp fun h he ↦ by
    rw [he] at h
    exact Nat.lt_irrefl _ h
  exact ⟨l, hc, (hnodup.subperm hsub).length_le⟩

end Walks
