import Bankos.Auth.Engine
import Bankos.Base.Walk

/-!
# The closure of roles

`PermissionResolver` follows the parent of each role with a recursion that marks a role before it
goes on. It ends on every table, parent cycles included, and what it marks is the closure of the
listed roles under the parent links.
-/

namespace Bankos

open Relation Walks

/-- The table has the role `s` as the parent of its role `r`. -/
def Role.ParentIn (roles : List Role) (r s : Role) : Prop :=
  r ∈ roles ∧ s ∈ roles ∧ r.parentId = some s.id

/-- A key without repetitions finds exactly the element that has it. -/
theorem find?_eq_some_iff_of_nodup {α : Type} {key : α → String} {l : List α}
    (hl : (l.map key).Nodup) {k : String} {a : α} :
    (l.find? fun x ↦ decide (key x = k)) = some a ↔ a ∈ l ∧ key a = k := by
  constructor
  · intro h
    exact ⟨List.mem_of_find?_eq_some h, by simpa using List.find?_some h⟩
  · rintro ⟨ha, hk⟩
    cases h : l.find? fun x ↦ decide (key x = k) with
    | none =>
      have := List.find?_eq_none.mp h a ha
      simp [hk] at this
    | some b =>
      have hb : key b = k := by simpa using List.find?_some h
      rw [List.inj_on_of_nodup_map hl (List.mem_of_find?_eq_some h) ha (hb.trans hk.symm)]

/-- The role `s` is the parent of the role `r`, and the resolver does not take its id for an absent
one. -/
def Role.InheritsIn (roles : List Role) (r s : Role) : Prop := r.ParentIn roles s ∧ s.id ≠ ""

/-- Where ids are not empty, every parent is inherited from. -/
theorem Role.inheritsIn_eq {roles : List Role} (hset : ∀ r ∈ roles, r.id ≠ "") :
    Role.InheritsIn roles = Role.ParentIn roles := by
  funext r s
  apply propext
  exact ⟨fun h ↦ h.1, fun h ↦ ⟨h, hset s h.2.1⟩⟩

namespace PermissionResolver

/-- The role map has a role of the name. -/
def known (roles : List Role) (name : String) : Bool := (roleMap roles name).isSome

/-- The name of the parent that `PermissionResolver.ts:67–72` goes on with. -/
def parentName (roles : List Role) (name : String) : Option String :=
  match (roleMap roles name).bind (·.parentId) with
  | none => none
  | some parentId =>
    if parentId = "" then none
    else (roles.find? fun r ↦ decide (r.id = parentId)).map (·.name)

/-- The recursion of `PermissionResolver.ts:62–77` over the names comes to an end, with the set
`out`. -/
def Collects (roles : List Role) (roleNames out : List String) : Prop :=
  Walked (known roles) (parentName roles) [] roleNames out

/-- Collecting the roles above a name is a marking walk. -/
theorem collectRoles_eq_walk (roles : List Role) (fuel : Nat) (effectiveRoles : List String)
    (name : String) :
    collectRoles roles fuel effectiveRoles name =
      walk (known roles) (parentName roles) fuel effectiveRoles name := by
  induction fuel generalizing effectiveRoles name with
  | zero => rfl
  | succ fuel ih =>
    unfold collectRoles walk
    by_cases hmem : name ∈ effectiveRoles
    · simp [hmem]
    · cases hrole : roleMap roles name with
      | none =>
        have hk : known roles name = false := by simp [known, hrole]
        simp [hmem, hk]
      | some role =>
        have hk : known roles name = true := by simp [known, hrole]
        cases hparent : role.parentId with
        | none =>
          have hn : parentName roles name = none := by simp [parentName, hrole, hparent]
          simp [hmem, hk, hn, hparent]
        | some parentId =>
          by_cases hempty : parentId = ""
          · have hn : parentName roles name = none := by
              simp [parentName, hrole, hparent, hempty]
            simp [hmem, hk, hn, hparent, hempty]
          · cases hfind : roles.find? fun r ↦ decide (r.id = parentId) with
            | none =>
              have hn : parentName roles name = none := by
                simp [parentName, hrole, hparent, hempty, hfind]
              simp [hmem, hk, hn, hparent, hempty, hfind]
            | some parentRole =>
              have hn : parentName roles name = some parentRole.name := by
                simp [parentName, hrole, hparent, hempty, hfind]
              simp [hmem, hk, hn, hparent, hempty, hfind, ih]

/-- The name of every known role is a name of the table. -/
theorem mem_names_of_known {roles : List Role} {name : String} (h : known roles name = true) :
    name ∈ roles.map (·.name) := by
  obtain ⟨r, hr⟩ := Option.isSome_iff_exists.mp h
  have hname : r.name = name := by simpa using List.find?_some hr
  rw [List.mem_map]
  exact ⟨r, List.mem_reverse.mp (List.mem_of_find?_eq_some hr), hname⟩

/-- Once there is more fuel than roles, the recursion comes to its own end. -/
theorem collects_of_fuel (roles : List Role) (roleNames : List String) {fuel : Nat}
    (hfuel : roles.length < fuel) :
    Collects roles roleNames (roleNames.foldl (collectRoles roles fuel) []) := by
  have hwalk : collectRoles roles fuel = walk (known roles) (parentName roles) fuel := by
    funext effectiveRoles name
    exact collectRoles_eq_walk roles fuel effectiveRoles name
  rw [hwalk]
  apply foldl_walk_ends fun _ ↦ mem_names_of_known
  rw [List.length_map]
  exact hfuel

/-- The recursion comes to its own end on every table. -/
theorem collects_resolveEffectiveRoles (roles : List Role) (roleNames : List String) :
    Collects roles roleNames (resolveEffectiveRoles roleNames roles) :=
  collects_of_fuel roles roleNames (Nat.lt_succ_self _)

section Keys

variable {roles : List Role} (hnames : (roles.map (·.name)).Nodup)
  (hids : (roles.map (·.id)).Nodup)
include hnames

/-- With unique names the role map has every role under its name. -/
theorem roleMap_eq_some {name : String} {r : Role} :
    roleMap roles name = some r ↔ r ∈ roles ∧ r.name = name := by
  have hreverse : (roles.reverse.map (·.name)).Nodup := by
    rw [List.map_reverse]
    exact List.nodup_reverse.mpr hnames
  rw [roleMap, find?_eq_some_iff_of_nodup hreverse, List.mem_reverse]

/-- The known names are the names of the roles. -/
theorem known_iff {name : String} : known roles name = true ↔ ∃ r ∈ roles, r.name = name := by
  rw [known, Option.isSome_iff_exists]
  simp only [roleMap_eq_some hnames]

include hids

/-- The walk goes from a role to its parent in the table. -/
theorem parentName_eq_some {name parent : String} :
    parentName roles name = some parent ↔
      ∃ r s : Role, r.InheritsIn roles s ∧ r.name = name ∧ s.name = parent := by
  unfold parentName
  constructor
  · intro h
    split at h
    · cases h
    · next parentId hparent =>
      obtain ⟨r, hr, hparent⟩ := Option.bind_eq_some_iff.mp hparent
      obtain ⟨hr, hname⟩ := (roleMap_eq_some hnames).mp hr
      split at h
      · cases h
      · next hne =>
        obtain ⟨s, hs, hsname⟩ := Option.map_eq_some_iff.mp h
        obtain ⟨hs, hid⟩ := (find?_eq_some_iff_of_nodup hids).mp hs
        exact ⟨r, s, ⟨⟨hr, hs, by rw [hparent, hid]⟩, by rw [hid]; exact hne⟩, hname, hsname⟩
  · rintro ⟨r, s, ⟨⟨hr, hs, hparent⟩, hne⟩, hname, hsname⟩
    have hrole := (roleMap_eq_some hnames).mpr ⟨hr, hname⟩
    have hfind := (find?_eq_some_iff_of_nodup hids (k := s.id)).mpr ⟨hs, rfl⟩
    simp [hrole, hparent, hne, hfind, hsname]

/-- A link of the walk is a parent link between two roles. -/
theorem link_iff {a b : String} :
    Link (known roles) (parentName roles) a b ↔
      ∃ r s : Role, r.InheritsIn roles s ∧ r.name = a ∧ s.name = b := by
  rw [Link, parentName_eq_some hnames hids]
  constructor
  · rintro ⟨h, -⟩
    exact h
  · intro h
    refine ⟨h, ?_⟩
    obtain ⟨r, s, ⟨⟨-, hs, -⟩, -⟩, -, hb⟩ := h
    exact (known_iff hnames).mpr ⟨s, hs, hb⟩

/-- What the walk reaches from the name of a role are the names of its ancestors. -/
theorem reaches_iff {r : Role} (hr : r ∈ roles) {name : String} :
    ReflTransGen (Link (known roles) (parentName roles)) r.name name ↔
      ∃ s, ReflTransGen (Role.InheritsIn roles) r s ∧ s.name = name := by
  constructor
  · intro h
    have hmem : ∃ s ∈ roles, ReflTransGen (Role.InheritsIn roles) r s ∧ s.name = name := by
      induction h with
      | refl => exact ⟨r, hr, .refl, rfl⟩
      | tail _ hlink ih =>
        obtain ⟨s, hs, hreach, hname⟩ := ih
        obtain ⟨s', t, hparent, hname', ht⟩ := (link_iff hnames hids).mp hlink
        have hs' : s' = s :=
          List.inj_on_of_nodup_map hnames hparent.1.1 hs (hname'.trans hname.symm)
        subst hs'
        exact ⟨t, hparent.1.2.1, hreach.tail hparent, ht⟩
    obtain ⟨s, -, hreach, hname⟩ := hmem
    exact ⟨s, hreach, hname⟩
  · rintro ⟨s, hreach, rfl⟩
    apply hreach.lift
    intro a b hab
    exact (link_iff hnames hids).mpr ⟨a, b, hab, rfl, rfl⟩

/-- The effective roles are the names reachable from the listed roles. -/
theorem mem_resolveEffectiveRoles {roleNames : List String} {name : String} :
    name ∈ resolveEffectiveRoles roleNames roles ↔
      ∃ r ∈ roles, r.name ∈ roleNames ∧
        ∃ s, ReflTransGen (Role.InheritsIn roles) r s ∧ s.name = name := by
  rw [Walked.mem_iff (collects_resolveEffectiveRoles roles roleNames)]
  constructor
  · rintro ⟨x, hx, hk, hreach⟩
    obtain ⟨r, hr, rfl⟩ := (known_iff hnames).mp hk
    exact ⟨r, hr, hx, (reaches_iff hnames hids hr).mp hreach⟩
  · rintro ⟨r, hr, hlisted, hreach⟩
    exact ⟨r.name, hlisted, (known_iff hnames).mpr ⟨r, hr, rfl⟩,
      (reaches_iff hnames hids hr).mpr hreach⟩

end Keys

/-- No name is resolved twice. -/
theorem nodup_resolveEffectiveRoles (roleNames : List String) (roles : List Role) :
    (resolveEffectiveRoles roleNames roles).Nodup :=
  Walked.nodup (collects_resolveEffectiveRoles roles roleNames) List.nodup_nil

/-- The order of the names and of the table does not matter for what is resolved. -/
theorem perm_resolveEffectiveRoles {roles roles' : List Role} {roleNames roleNames' : List String}
    (hnames : (roles.map (·.name)).Nodup) (hids : (roles.map (·.id)).Nodup)
    (hperm : roles.Perm roles') (hlisted : roleNames.Perm roleNames') :
    (resolveEffectiveRoles roleNames roles).Perm (resolveEffectiveRoles roleNames' roles') := by
  have hnames' : (roles'.map (·.name)).Nodup := (hperm.map _).nodup_iff.mp hnames
  have hids' : (roles'.map (·.id)).Nodup := (hperm.map _).nodup_iff.mp hids
  have hparent : Role.InheritsIn roles = Role.InheritsIn roles' := by
    funext r s
    simp only [Role.InheritsIn, Role.ParentIn, hperm.mem_iff]
  rw [List.perm_ext_iff_of_nodup (nodup_resolveEffectiveRoles ..) (nodup_resolveEffectiveRoles ..)]
  intro name
  rw [mem_resolveEffectiveRoles hnames hids, mem_resolveEffectiveRoles hnames' hids', hparent]
  simp only [hperm.mem_iff, hlisted.mem_iff]

/-- On every table with unique names and ids the resolution of role names ends, and gives without
repetitions the names of the listed roles and of all their ancestors, whatever the order of the
names and of the table. An id is a UUID, so it is not empty. -/
theorem resolveEffectiveRoles_closure (roles : List Role) (roleNames : List String)
    (hnames : (roles.map (·.name)).Nodup) (hids : (roles.map (·.id)).Nodup)
    (hset : ∀ r ∈ roles, r.id ≠ "") :
    Collects roles roleNames (resolveEffectiveRoles roleNames roles) ∧
      (∀ fuel, roles.length < fuel →
        roleNames.foldl (collectRoles roles fuel) [] = resolveEffectiveRoles roleNames roles) ∧
      (resolveEffectiveRoles roleNames roles).Nodup ∧
      (∀ name, name ∈ resolveEffectiveRoles roleNames roles ↔
        ∃ r ∈ roles, r.name ∈ roleNames ∧
          ∃ s, ReflTransGen (Role.ParentIn roles) r s ∧ s.name = name) ∧
      ∀ roles' roleNames', roles.Perm roles' → roleNames.Perm roleNames' →
        (resolveEffectiveRoles roleNames roles).Perm (resolveEffectiveRoles roleNames' roles') := by
  have hends := collects_resolveEffectiveRoles roles roleNames
  refine ⟨hends, ?_, nodup_resolveEffectiveRoles roleNames roles, ?_, ?_⟩
  · intro fuel hfuel
    exact Walked.unique (collects_of_fuel roles roleNames hfuel) hends
  · intro name
    rw [mem_resolveEffectiveRoles hnames hids, Role.inheritsIn_eq hset]
  · intro roles' roleNames' hperm hlisted
    exact perm_resolveEffectiveRoles hnames hids hperm hlisted

end PermissionResolver

/-- Two roles that are each other's parent, one that is its own, and one whose parent is gone. -/
def Sample.tangledRoles : List Role :=
  [⟨"1", "admin", none, false, some "2"⟩, ⟨"2", "auditor", none, false, some "1"⟩,
    ⟨"3", "clerk", none, false, some "3"⟩, ⟨"4", "guest", none, false, some "9"⟩]

/-- The closure over parent cycles, for a list with a repetition and an unknown name. -/
theorem PermissionResolver.resolveEffectiveRoles_closure_tangled :
    "admin" ∈ resolveEffectiveRoles ["auditor", "nobody", "guest", "auditor"]
        Sample.tangledRoles ↔
      ∃ r ∈ Sample.tangledRoles, r.name ∈ ["auditor", "nobody", "guest", "auditor"] ∧
        ∃ s, ReflTransGen (Role.ParentIn Sample.tangledRoles) r s ∧ s.name = "admin" :=
  (resolveEffectiveRoles_closure Sample.tangledRoles _ (by decide) (by decide) (by decide)).2.2.2.1
    "admin"

end Bankos
