import Bankos.Base.Segments
import Bankos.Gateway.Headers
import Bankos.Rbac.Validation

/-!
# Roles in a header

`CreateRoleService` takes every name that its schema admits, and `gateway/src/middlewares/auth.ts`
joins the names of a token with commas. A comma in a name is not told from a comma between names,
so the header shows the parts between all commas. Of names without commas these are the names.
-/

namespace Bankos

open Js Jwt Effects Prog Shapes

/-- The schema of `createRole` admits the name, `RbacValidators.ts:7`. -/
def AdmittedName (name : String) : Prop :=
  (Parser.string [RbacValidators.min 1, RbacValidators.max 255]).accepts (some (.str name)) = true

instance (name : String) : Decidable (AdmittedName name) :=
  inferInstanceAs (Decidable (_ = true))

/-- The parts of the names between their commas. -/
def pieces (roles : List String) : List (List Char) :=
  roles.flatMap fun name ↦ name.toList.splitOn ','

namespace Gateway

/-- `req.headers['x-user-roles']` after `authMiddleware`, if it calls `next`. -/
def xUserRoles (env : Env) (req : Incoming) (w : World) : Option String :=
  match ((authMiddleware env req.authorization).run (exec env) w).1 with
  | .ok verdict => (inject req.headers verdict).bind fun headers ↦ headers "x-user-roles"
  | .error _ => none

/-- The request has a token that the gateway admits and that carries the roles. -/
def Carries (env : Env) (req : Incoming) (w : World) (roles : List String) : Prop :=
  ∃ token decoded, bearerToken req.authorization = .ok token ∧
    verifyAt env token w.now = .ok decoded ∧ decoded.roles = .strings roles

variable {env : Env} {req : Incoming} {w : World} {roles : List String}

/-- The roles of the token are joined with commas. -/
theorem xUserRoles_of_carries (h : Carries env req w roles) :
    xUserRoles env req w = some (",".intercalate roles) := by
  obtain ⟨token, decoded, htoken, hverify, hroles⟩ := h
  have hheader : rolesHeader decoded = some (",".intercalate roles) := by
    unfold rolesHeader PolicyEngine.orEmpty
    rw [hroles]
    simp [Value.strings, Value.truthy, Item.text, Function.comp_def]
  unfold xUserRoles authMiddleware
  rw [htoken]
  dsimp only
  rw [run_bind, run_now]
  dsimp only
  rw [hverify]
  show (inject req.headers
    (.next (userIdHeader env decoded) (rolesHeader decoded))).bind _ = _
  cases hinject : inject req.headers (.next (userIdHeader env decoded) (rolesHeader decoded)) with
  | none => cases hinject
  | some headers =>
    show headers "x-user-roles" = _
    rw [inject_apply hinject]
    simp [written, hheader]

end Gateway

open Gateway

/-- An admitted name is not empty. -/
theorem AdmittedName.toList_ne_nil {name : String} (h : AdmittedName name) : name.toList ≠ [] := by
  intro hnil
  have hname : name = "" := String.toList_eq_nil_iff.mp hnil
  subst hname
  revert h
  unfold AdmittedName
  decide

/-- Admitted names are joined to the same header if and only if they have the same parts. -/
theorem intercalate_comma_eq_iff {roles roles' : List String}
    (h : ∀ name ∈ roles, AdmittedName name) (h' : ∀ name ∈ roles', AdmittedName name) :
    ",".intercalate roles = ",".intercalate roles' ↔ pieces roles = pieces roles' := by
  have hne : ∀ names : List String, (∀ name ∈ names, AdmittedName name) →
      ∀ s ∈ names.map String.toList, s ≠ [] := by
    intro names hnames s hs
    obtain ⟨name, hname, rfl⟩ := List.mem_map.mp hs
    exact (hnames name hname).toList_ne_nil
  have hparts : [','].intercalate (roles.map String.toList) =
        [','].intercalate (roles'.map String.toList) ↔ _ :=
    Segments.intercalate_eq_iff (hne roles h) (hne roles' h')
  rw [List.flatMap_map, List.flatMap_map] at hparts
  rw [← String.toList_inj, String.toList_intercalate, String.toList_intercalate]
  exact hparts

/-- Of names without commas the parts are the names. -/
theorem pieces_of_no_comma {roles : List String} (h : ∀ name ∈ roles, ',' ∉ name.toList) :
    pieces roles = roles.map String.toList := by
  have hnames : ∀ s ∈ roles.map String.toList, ',' ∉ s := by
    intro s hs
    obtain ⟨name, hname, rfl⟩ := List.mem_map.mp hs
    exact h name hname
  have hparts := Segments.flatMap_splitOn_of_not_mem hnames
  rwa [List.flatMap_map] at hparts

/-- Tokens with admitted names give different headers if and only if the names have different parts
between their commas. So they do for different sets of names without commas. -/
theorem xUserRoles_ne_iff (env : Env) (req req' : Incoming) (w w' : World)
    (roles roles' : List String) (hadmitted : ∀ name ∈ roles, AdmittedName name)
    (hadmitted' : ∀ name ∈ roles', AdmittedName name) (hcarries : Carries env req w roles)
    (hcarries' : Carries env req' w' roles') :
    (xUserRoles env req w ≠ xUserRoles env req' w' ↔ pieces roles ≠ pieces roles') ∧
      ((∀ name ∈ roles ++ roles', ',' ∉ name.toList) →
        {name | name ∈ roles} ≠ {name | name ∈ roles'} →
          xUserRoles env req w ≠ xUserRoles env req' w') := by
  have hiff : xUserRoles env req w = xUserRoles env req' w' ↔ pieces roles = pieces roles' := by
    rw [xUserRoles_of_carries hcarries, xUserRoles_of_carries hcarries', Option.some_inj]
    exact intercalate_comma_eq_iff hadmitted hadmitted'
  refine ⟨not_congr hiff, fun hcomma hsets hsame ↦ hsets ?_⟩
  have hpieces : pieces roles = pieces roles' := hiff.mp hsame
  rw [pieces_of_no_comma fun name hname ↦ hcomma name (List.mem_append_left _ hname),
    pieces_of_no_comma fun name hname ↦ hcomma name (List.mem_append_right _ hname)] at hpieces
  have hroles : roles = roles' :=
    (List.map_inj_right fun _ _ hsame ↦ String.toList_inj.mp hsame).mp hpieces
  rw [hroles]

namespace Sample

/-- A request with a token for the roles. -/
def requestOf (roles : List String) : Incoming where
  authorization := some [.plain "Bearer", .jws ⟨⟨"HS256", none⟩,
    { gatewayClaims with roles := .strings roles },
    .hs256 "a gateway secret of more than 32 characters"⟩]
  headers := fun _ ↦ none

/-- The gateway admits the token. -/
theorem carries_requestOf (roles : List String) :
    Carries env (requestOf roles) registered roles :=
  ⟨_, _, rfl, rfl, rfl⟩

end Sample

/-- The case of an auditor and of an auditor who is an admin too. -/
theorem xUserRoles_ne_iff_auditor :
    Gateway.xUserRoles Sample.env (Sample.requestOf ["auditor"]) Sample.registered ≠
      Gateway.xUserRoles Sample.env (Sample.requestOf ["admin", "auditor"]) Sample.registered :=
  (xUserRoles_ne_iff Sample.env (Sample.requestOf ["auditor"])
    (Sample.requestOf ["admin", "auditor"]) Sample.registered Sample.registered ["auditor"]
    ["admin", "auditor"] (by decide) (by decide) (Sample.carries_requestOf _)
    (Sample.carries_requestOf _)).1.mpr (by decide)

/-- One role named `admin,auditor` gives the header of the two roles. -/
theorem xUserRoles_same_for_comma :
    ¬ ∀ (env : Env) (req req' : Incoming) (w w' : World) (roles roles' : List String),
      (∀ name ∈ roles, AdmittedName name) → (∀ name ∈ roles', AdmittedName name) →
      Carries env req w roles → Carries env req' w' roles' →
      {name | name ∈ roles} ≠ {name | name ∈ roles'} →
        Gateway.xUserRoles env req w ≠ Gateway.xUserRoles env req' w' := by
  intro h
  apply h Sample.env (Sample.requestOf ["admin,auditor"]) (Sample.requestOf ["admin", "auditor"])
    Sample.registered Sample.registered ["admin,auditor"] ["admin", "auditor"] (by decide)
    (by decide) (Sample.carries_requestOf _) (Sample.carries_requestOf _)
  · intro hsets
    have hmem : "admin" ∈ {name | name ∈ ["admin,auditor"]} := by
      rw [hsets]
      exact List.mem_cons_self
    revert hmem
    decide
  · rw [xUserRoles_of_carries (Sample.carries_requestOf _),
      xUserRoles_of_carries (Sample.carries_requestOf _)]
    rfl

end Bankos
