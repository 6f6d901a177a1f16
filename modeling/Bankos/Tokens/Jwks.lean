import Bankos.Base.JsonText
import Bankos.Config.Identity

/-!
# The published key set

`JwksBuilder.ts` and `JwksController.ts`: the public halves of the configured keys, as the text
that is built when the service starts.
-/

namespace Bankos

open Js JsonText

/-- What `export` makes of a public key; a modulus and an exponent are members of RSA keys. -/
structure ExportedKey where
  kty : String
  n : Option String
  e : Option String

/-- What the two use of `crypto`. -/
structure KeyLibrary where
  /-- `crypto.createPublicKey(pem).export({ format: 'jwk' })`. -/
  exportJwk : String → Except JsError ExportedKey
  /-- MD5 in hexadecimal. -/
  md5 : String → String

/-- `JwksBuilder.ts:4–11`; a member that is `undefined` is not written. -/
structure JwkKey where
  kid : String
  kty : String
  alg : String
  use : String
  n : Option String
  e : Option String
  deriving DecidableEq, Repr

/-- The keys of a key manager are those that it was built from. -/
theorem KeyManager.keys_of_construct {keysConfig : List (String × KeyPair)} {activeKeyId : String}
    {manager : KeyManager} (h : construct keysConfig activeKeyId = .ok manager) :
    manager.keys = fun kid ↦ keysConfig.lookup kid := by
  unfold construct at h
  split at h
  · cases h
  · split at h
    · cases h
    · split_ifs at h
      cases h
      rfl

/-- `KeyManager.ts:37–43`. -/
def KeyManager.getAllPublicKeys (keysConfig : List (String × KeyPair)) : List (String × String) :=
  keysConfig.map fun k ↦ (k.1, k.2.publicKey)

/-- `JwksBuilder.ts:28–35`. -/
def ExportedKey.published (jwk : ExportedKey) (kid : String) : JwkKey where
  kid := kid
  kty := jwk.kty
  alg := "RS256"
  use := "sig"
  n := jwk.n
  e := jwk.e

/-- `JwksBuilder.ts:20–39`. -/
def JwksBuilder.buildJwks (lib : KeyLibrary) (keysConfig : List (String × KeyPair)) :
    Except JsError (List JwkKey) :=
  (KeyManager.getAllPublicKeys keysConfig).mapM fun k ↦ do
    let jwk ← lib.exportJwk k.2
    pure (jwk.published k.1)

/-- The key set has a key under an id exactly when the configuration has, and it is the public half
of that one. -/
theorem JwksBuilder.find_buildJwks {lib : KeyLibrary} {keysConfig : List (String × KeyPair)}
    {keys : List JwkKey} (h : buildJwks lib keysConfig = .ok keys) (kid : String) :
    (∀ key, keysConfig.lookup kid = some key → ∃ jwk, lib.exportJwk key.publicKey = .ok jwk ∧
      (keys.find? fun k ↦ decide (k.kid = kid)) = some (jwk.published kid)) ∧
    (keysConfig.lookup kid = none → (keys.find? fun k ↦ decide (k.kid = kid)) = none) := by
  unfold buildJwks KeyManager.getAllPublicKeys at h
  induction keysConfig generalizing keys with
  | nil =>
    cases h
    exact ⟨fun _ hkey ↦ (nomatch hkey), fun _ ↦ rfl⟩
  | cons k keysConfig ih =>
    obtain ⟨kid', key⟩ := k
    rw [List.map_cons, List.mapM_cons] at h
    dsimp only at h
    cases hexport : lib.exportJwk key.publicKey with
    | error e =>
      rw [hexport] at h
      cases h
    | ok jwk =>
      rw [hexport] at h
      cases hrest : (keysConfig.map fun k ↦ (k.1, k.2.publicKey)).mapM fun k ↦ do
          let jwk ← lib.exportJwk k.2
          pure (jwk.published k.1) with
      | error e =>
        rw [hrest] at h
        cases h
      | ok rest =>
        rw [hrest] at h
        obtain rfl : jwk.published kid' :: rest = keys := Except.ok.inj h
        by_cases hkid : kid = kid'
        · subst hkid
          rw [List.lookup_cons_self, List.find?_cons_of_pos (by simp [ExportedKey.published])]
          refine ⟨fun key' hkey' ↦ ?_, fun hnone ↦ nomatch hnone⟩
          cases hkey'
          exact ⟨jwk, hexport, rfl⟩
        · rw [List.lookup_cons, beq_eq_false_iff_ne.mpr hkid,
            List.find?_cons_of_neg (by simp [ExportedKey.published, Ne.symm hkid])]
          exact ih hrest

/-! ### The text of the key set -/

/-- The members of a published key. -/
def JwkKey.toTree (k : JwkKey) : Tree :=
  .obj ([("kid", .str k.kid), ("kty", .str k.kty), ("alg", .str k.alg), ("use", .str k.use)] ++
    (k.n.toList.map fun n ↦ ("n", .str n)) ++ k.e.toList.map fun e ↦ ("e", .str e))

/-- A published key from its members. -/
def JwkKey.ofTree (tree : Tree) : Option JwkKey := do
  let kid ← tree.stringMember "kid"
  let kty ← tree.stringMember "kty"
  let alg ← tree.stringMember "alg"
  let use ← tree.stringMember "use"
  pure { kid, kty, alg, use, n := tree.stringMember "n", e := tree.stringMember "e" }

/-- The members of a key set. -/
def JwkKey.setToTree (keys : List JwkKey) : Tree := .obj [("keys", .arr (keys.map toTree))]

/-- A key set from its members. -/
def JwkKey.setOfTree (tree : Tree) : Option (List JwkKey) :=
  match tree.member "keys" with
  | some (.arr items) => items.mapM ofTree
  | _ => none

/-- The text of a key set. -/
def JwkKey.setText (keys : List JwkKey) : String := String.ofList (stringify (setToTree keys))

/-- The key set that a text stands for. -/
def JwkKey.setOfText (text : String) : Option (List JwkKey) := (parse text.toList).bind setOfTree

/-- A key is read back from its members. -/
theorem JwkKey.ofTree_toTree (k : JwkKey) : ofTree k.toTree = some k := by
  obtain ⟨kid, kty, alg, use, n, e⟩ := k
  cases n <;> cases e <;> rfl

/-- A key set is read back from its text. -/
theorem JwkKey.setOfText_setText (keys : List JwkKey) : setOfText (setText keys) = some keys := by
  have hmap : (keys.map toTree).mapM ofTree = some keys := by
    induction keys with
    | nil => rfl
    | cons k keys ih =>
      rw [List.map_cons, List.mapM_cons, ofTree_toTree, ih]
      rfl
  unfold setOfText setText
  rw [String.toList_ofList, parse_stringify]
  exact hmap

/-! ### The controller -/

/-- The fields of `JwksController.ts:6–8`. -/
structure JwksController where
  cachedJwks : String
  etag : String
  lastModified : String

/-- The answer of the controller: the headers that it sets, and the body unless it has none. -/
structure JwksAnswer where
  contentType : Option String
  cacheControl : String
  etag : String
  lastModified : String
  body : Option String
  deriving DecidableEq, Repr

/-- A weak entity tag. -/
def weakTag (hash : String) : String := "W/\"" ++ hash ++ "\""

/-- A weak tag tells what it is made of. -/
theorem weakTag_injective : Function.Injective weakTag := by
  intro a b h
  unfold weakTag at h
  have hlists := congrArg String.toList h
  simp only [String.toList_append] at hlists
  exact String.toList_inj.mp (List.append_cancel_left (List.append_cancel_right hlists))

namespace JwksController

/-- `JwksController.ts:10–15`. -/
def construct (lib : KeyLibrary) (keysConfig : List (String × KeyPair)) (startedAt : String) :
    Except JsError JwksController := do
  let jwks ← JwksBuilder.buildJwks lib keysConfig
  let cachedJwks := JwkKey.setText jwks
  pure { cachedJwks, etag := weakTag (lib.md5 cachedJwks), lastModified := startedAt }

/-- `JwksController.ts:18–21`, with what is sent. -/
def answer (c : JwksController) (contentType body : Option String) : JwksAnswer where
  contentType := contentType
  cacheControl := "public, max-age=3600, s-maxage=3600"
  etag := c.etag
  lastModified := c.lastModified
  body := body

/-- `JwksController.ts:17–29`: the status and the answer. `send` answers a request that the
framework finds to be `fresh` without the body. -/
def getJwks (c : JwksController) (ifNoneMatch : Option String) (fresh : Bool) : Nat × JwksAnswer :=
  if ifNoneMatch = some c.etag then (304, c.answer (some "application/json") none)
  else if fresh then (304, c.answer none none)
  else (200, c.answer (some "application/json; charset=utf-8") (some c.cachedJwks))

/-- The text and the tag of a controller are those of the keys that it was built from. -/
theorem construct_eq_ok {lib : KeyLibrary} {keysConfig : List (String × KeyPair)}
    {startedAt : String} {c : JwksController} (h : construct lib keysConfig startedAt = .ok c) :
    ∃ jwks, JwksBuilder.buildJwks lib keysConfig = .ok jwks ∧ c.cachedJwks = JwkKey.setText jwks ∧
      c.etag = weakTag (lib.md5 c.cachedJwks) := by
  unfold construct at h
  cases hbuild : JwksBuilder.buildJwks lib keysConfig with
  | error e =>
    rw [hbuild] at h
    cases h
  | ok jwks =>
    rw [hbuild] at h
    cases h
    exact ⟨jwks, rfl, rfl, rfl⟩

end JwksController

end Bankos
