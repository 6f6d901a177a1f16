import Bankos.Base.Heap
import Bankos.Observability.Redaction
import Mathlib.Data.List.Infix

/-!
# Masking of shared metadata

`maskSensitiveData` of `gateway/src/observability/logger.ts`. It clones the record that comes in and
masks the clone in place, and the objects beneath the clone are those of the caller. The emitted
record holds no secret. The caller's objects keep theirs only where there was none to mask.
-/

namespace Bankos

open Heap

/-- The objects of the process; their keys are strings. An array has its indices as keys. -/
abbrev LogHeap := Store String Primitive

namespace GatewayLogger

/-- `logger.ts:8–20`. -/
def SENSITIVE_FIELDS : List String :=
  ["password", "passwd", "secret", "token", "jwt", "authorization", "refresh_token",
    "access_token", "api_key", "cookie", "set-cookie"]

/-- `SENSITIVE_FIELDS.some((field) => lowerKey.includes(field))`, `logger.ts:42–43`. -/
def isSensitive (lower : String → String) (key : String) : Bool :=
  SENSITIVE_FIELDS.any fun field ↦ decide (field.toList <:+: (lower key).toList)

/-- The value that stands for a secret, `logger.ts:46`. -/
def MASKED : Slot Primitive := .prim (.str "***MASKED***")

/-- The body of the loop, `logger.ts:41–50`, with the function that it calls. What is not an object
is left alone there too. -/
def maskKey (lower : String → String) (mask : LogHeap → Slot Primitive → Option LogHeap) (obj : Nat)
    (heap : LogHeap) (key : String) : Option LogHeap :=
  if isSensitive lower key then some (assign heap obj key MASKED)
  else do
    let value ← entry heap obj key
    mask heap value

/-- `maskObject`, `logger.ts:36–52`, with so many calls on the stack; nothing if they do not do. -/
def maskObject (lower : String → String) : Nat → LogHeap → Slot Primitive → Option LogHeap
  | _, heap, .prim _ => some heap
  | 0, _, .ref _ => none
  | depth + 1, heap, .ref obj => do
    let target ← heap[obj]?
    target.keys.foldlM (maskKey lower (maskObject lower depth) obj) heap

/-- `logger.ts:33–55`: the heap afterwards, and the address of the record that is emitted. -/
def maskSensitiveData (lower : String → String) (depth : Nat) (heap : LogHeap) (info : Nat) :
    Option (LogHeap × Nat) := do
  let record ← heap[info]?
  let clone := heap.length
  let heap ← maskObject lower depth (heap ++ [record]) (.ref clone)
  pure (heap, clone)

/-- The keys that are not masked. -/
def Open (lower : String → String) (key : String) : Prop := isSensitive lower key = false

/-- The value is masked wherever the object has a key that is. -/
def Masked (lower : String → String) (object : Object String Primitive) : Prop :=
  ∀ key ∈ object.keys, isSensitive lower key = true → object.get key = MASKED

/-- Every key. -/
def anyKey (_ : String) : Prop := True

/-- Every object that is reached from the address is masked. -/
def MaskedBelow (lower : String → String) (heap : LogHeap) (address : Nat) : Prop :=
  ∀ b object, Leads heap anyKey (.ref address) b → heap[b]? = some object → Masked lower object

/-- Every object that is reached from the address in the first heap is the same in the second. -/
def Untouched (heap heap' : LogHeap) (address : Nat) : Prop :=
  ∀ b, Leads heap anyKey (.ref address) b → heap'[b]? = heap[b]?

/-- The objects beneath the keys of a record that are not masked are masked already, as far down as
such keys lead. -/
def MaskedBeneath (lower : String → String) (heap : LogHeap) (info : Nat) : Prop :=
  ∀ record, heap[info]? = some record → ∀ key ∈ record.keys, Open lower key →
    ∀ b object, Leads heap (Open lower) (record.get key) b → heap[b]? = some object →
      Masked lower object

/-- What the format is to do: it returns, the caller's objects are as before, and the emitted record
is masked at every depth. -/
def LogsSafely (lower : String → String) (depth : Nat) (heap : LogHeap) (info : Nat) : Prop :=
  ∃ heap' emitted, maskSensitiveData lower depth heap info = some (heap', emitted) ∧
    Untouched heap heap' info ∧ MaskedBelow lower heap' emitted

variable {lower : String → String} {heap : LogHeap} {slot : Slot Primitive} {depth : Nat}

/-- A key is closed exactly when it is sensitive. -/
theorem not_open_iff {key : String} : ¬ Open lower key ↔ isSensitive lower key = true := by
  unfold Open
  simp

/-- Where the loop over an object writes for one key: at the key itself, or beneath it. -/
def written (lower : String → String) (heap : LogHeap) (obj : Nat)
    (target : Object String Primitive) (key : String) : Set (Nat × String) :=
  if isSensitive lower key then {(obj, key)} else barred heap (Open lower) (target.get key)

/-- The masking writes at closed keys only. -/
theorem not_open_of_mem_written {obj : Nat} {target : Object String Primitive} {key : String}
    {place : Nat × String} (hplace : place ∈ written lower heap obj target key) :
    ¬ Open lower place.2 := by
  unfold written at hplace
  split at hplace
  · next hsensitive =>
    cases hplace
    exact not_open_iff.mpr hsensitive
  · exact not_allowed_of_mem_barred hplace

/-- What one comes by from an object is what the loop writes for its keys. -/
theorem barred_ref_eq {obj : Nat} {target : Object String Primitive}
    (htarget : heap[obj]? = some target) :
    barred heap (Open lower) (.ref obj) =
      {place | ∃ key ∈ target.keys, place ∈ written lower heap obj target key} := by
  ext place
  rw [mem_barred_ref htarget]
  refine exists_congr fun key ↦ and_congr_right fun _ ↦ ?_
  unfold written
  by_cases hsensitive : isSensitive lower key = true
  · simp [Open, hsensitive]
  · simp [Open, hsensitive]

/-- One round of the loop, after others have written under masked keys. -/
theorem maskKey_eq {mask : LogHeap → Slot Primitive → Option LogHeap} {obj : Nat}
    {target : Object String Primitive} {key : String} {places : Set (Nat × String)}
    (hmask : ∀ heap slot, Bounded heap (Open lower) depth slot →
      mask heap slot = some (overwrite MASKED (barred heap (Open lower) slot) heap))
    (htarget : heap[obj]? = some target)
    (hentry : Open lower key → Bounded heap (Open lower) depth (target.get key))
    (hplaces : ∀ place ∈ places, ¬ Open lower place.2) :
    maskKey lower mask obj (overwrite MASKED places heap) key =
      some (overwrite MASKED (places ∪ written lower heap obj target key) heap) := by
  unfold maskKey written
  by_cases hsensitive : isSensitive lower key = true
  · rw [if_pos hsensitive, if_pos hsensitive, assign_eq_overwrite, overwrite_overwrite]
  · have hopen : Open lower key := Bool.eq_false_iff.mpr hsensitive
    have hvalue : entry (overwrite MASKED places heap) obj key = some (target.get key) := by
      rw [entry_overwrite fun hplace ↦ hplaces _ hplace hopen, entry, htarget]
      rfl
    have hbounded : Bounded (overwrite MASKED places heap) (Open lower) depth (target.get key) :=
      ((alike_overwrite hplaces).bounded_and_leads (hentry hopen)).1
    rw [if_neg hsensitive, if_neg hsensitive, hvalue, Option.bind_eq_bind, Option.bind_some,
      hmask _ _ hbounded, barred_overwrite hplaces (hentry hopen), overwrite_overwrite]

/-- Masking in place writes at the masked keys of all the objects that it comes by. -/
theorem maskObject_eq (hbounded : Bounded heap (Open lower) depth slot) :
    maskObject lower depth heap slot =
      some (overwrite MASKED (barred heap (Open lower) slot) heap) := by
  induction depth generalizing heap slot with
  | zero =>
    cases slot with
    | prim p =>
      rw [barred_prim, overwrite_empty]
      rfl
    | ref obj => exact absurd hbounded id
  | succ depth ih =>
    cases slot with
    | prim p =>
      rw [barred_prim, overwrite_empty]
      rfl
    | ref obj =>
      obtain ⟨target, htarget, hentries⟩ := hbounded
      have hloop : target.keys.foldlM (maskKey lower (maskObject lower depth) obj)
          (overwrite MASKED ∅ heap) = some (overwrite MASKED (∅ ∪
            {place | ∃ key ∈ target.keys, place ∈ written lower heap obj target key}) heap) := by
        apply foldlM_overwrite (Open lower)
        · exact fun key _ place hplace ↦ not_open_of_mem_written hplace
        · exact fun key hkey places hplaces ↦
            maskKey_eq (fun _ _ ↦ ih) htarget (hentries key hkey) hplaces
        · exact fun place hplace ↦ absurd hplace (Set.notMem_empty place)
      rw [overwrite_empty, Set.empty_union, ← barred_ref_eq htarget] at hloop
      rw [maskObject, htarget]
      exact hloop

/-! ### The clone -/

variable {info : Nat} {record : Object String Primitive}

/-- The clone stands at the end of the heap. -/
theorem getElem?_clone : (heap ++ [record])[heap.length]? = some record := by simp

/-- The walks from the entries of a bounded record over the keys that are not masked. -/
theorem bounded_entries (lower : String → String) (hrecord : heap[info]? = some record)
    (hbounded : Bounded heap anyKey depth (.ref info)) :
    ∃ rest, depth = rest + 1 ∧
      ∀ key ∈ record.keys, Bounded heap (Open lower) rest (record.get key) := by
  cases depth with
  | zero => exact absurd hbounded id
  | succ rest =>
    obtain ⟨record', hrecord', hentries⟩ := hbounded
    rw [hrecord] at hrecord'
    cases hrecord'
    exact ⟨rest, rfl, fun key hkey ↦ (hentries key hkey trivial).of_imp fun _ _ ↦ trivial⟩

/-- The walk from the clone is bounded over the keys that are not masked. -/
theorem bounded_clone (hrecord : heap[info]? = some record)
    (hbounded : Bounded heap anyKey depth (.ref info)) :
    Bounded (heap ++ [record]) (Open lower) depth (.ref heap.length) := by
  obtain ⟨rest, rfl, hentries⟩ := bounded_entries lower hrecord hbounded
  refine ⟨record, getElem?_clone, fun key hkey _ ↦ ?_⟩
  exact ((alike_append [record]).bounded_and_leads (hentries key hkey)).1

/-- From the clone one reaches the caller's objects beneath the keys that are not masked. -/
theorem leads_clone_iff {b : Nat} (hrecord : heap[info]? = some record)
    (hbounded : Bounded heap anyKey depth (.ref info)) (hb : b < heap.length) :
    Leads (heap ++ [record]) (Open lower) (.ref heap.length) b ↔
      ∃ key ∈ record.keys, Open lower key ∧ Leads heap (Open lower) (record.get key) b := by
  obtain ⟨rest, -, hentries⟩ := bounded_entries lower hrecord hbounded
  have hsame : ∀ key ∈ record.keys,
      (Leads (heap ++ [record]) (Open lower) (record.get key) b ↔
        Leads heap (Open lower) (record.get key) b) :=
    fun key hkey ↦ ((alike_append [record]).bounded_and_leads (hentries key hkey)).2 b
  constructor
  · intro hlead
    cases hlead with
    | here _ => exact absurd hb (Nat.lt_irrefl _)
    | there hclone hkey hopen hrest =>
      rw [getElem?_clone] at hclone
      cases hclone
      exact ⟨_, hkey, hopen, (hsame _ hkey).mp hrest⟩
  · rintro ⟨key, hkey, hopen, hrest⟩
    exact .there getElem?_clone hkey hopen ((hsame key hkey).mpr hrest)

/-- Every object that one reaches from where masking started is masked afterwards. -/
theorem maskedBelow_overwrite (address : Nat) (haddress : ∃ object, heap[address]? = some object) :
    MaskedBelow lower
      (overwrite MASKED (barred heap (Open lower) (.ref address)) heap) address := by
  classical
  intro b object hlead hobject key hkey hsensitive
  obtain ⟨start, hstart⟩ := haddress
  have hled : Leads heap (Open lower) (.ref address) b := by
    apply leads_of_overwrite_barred hlead
    intro a ha
    cases ha
    exact .here hstart
  rw [getElem?_overwrite] at hobject
  obtain ⟨before, hbefore, rfl⟩ := Option.map_eq_some_iff.mp hobject
  exact if_pos ⟨hled, ⟨before, hbefore, hkey⟩, not_open_iff.mpr hsensitive⟩

/-- The caller's objects are as before if and only if those beneath the record were masked. -/
theorem untouched_iff (hrecord : heap[info]? = some record)
    (hbounded : Bounded heap anyKey depth (.ref info)) :
    Untouched heap (overwrite MASKED
        (barred (heap ++ [record]) (Open lower) (.ref heap.length)) (heap ++ [record])) info ↔
      MaskedBeneath lower heap info := by
  -- an object of the caller stays if `MASKED` stands at those of its keys that are written
  have hstays : ∀ b object, heap[b]? = some object →
      ((overwrite MASKED (barred (heap ++ [record]) (Open lower) (.ref heap.length))
          (heap ++ [record]))[b]? = heap[b]? ↔
        (∃ key ∈ record.keys, Open lower key ∧ Leads heap (Open lower) (record.get key) b) →
          Masked lower object) := by
    intro b object hobject
    have hb : b < heap.length := (List.getElem?_eq_some_iff.mp hobject).1
    have happend : (heap ++ [record])[b]? = some object := by
      rw [List.getElem?_append_left hb, hobject]
    rw [hobject, ← happend, getElem?_overwrite_eq_iff, ← leads_clone_iff hrecord hbounded hb]
    constructor
    · intro hplaces hlead key hkey hsensitive
      exact hplaces object happend key
        ⟨hlead, ⟨object, happend, hkey⟩, not_open_iff.mpr hsensitive⟩
    · rintro hmasked object' hobject' key ⟨hlead, ⟨object'', hobject'', hkey⟩, hclosed⟩
      rw [happend] at hobject' hobject''
      cases hobject'
      cases hobject''
      exact hmasked hlead key hkey (not_open_iff.mp hclosed)
  constructor
  · intro huntouched record' hrecord' key hkey hopen b object hlead hobject
    rw [hrecord] at hrecord'
    cases hrecord'
    have hcaller : Leads heap anyKey (.ref info) b :=
      .there hrecord hkey trivial (hlead.of_imp fun _ _ ↦ trivial)
    exact (hstays b object hobject).mp (huntouched b hcaller) ⟨key, hkey, hopen, hlead⟩
  · intro hbeneath b hlead
    obtain ⟨object, hobject⟩ := hlead.exists_target
    refine (hstays b object hobject).mpr ?_
    rintro ⟨key, hkey, hopen, hrest⟩
    exact hbeneath record hrecord key hkey hopen b object hrest hobject

/-- The format returns, the emitted record is masked at every depth, and the caller's objects are as
before if and only if those beneath the record were masked already. -/
theorem maskSensitiveData_spec (lower : String → String)
    (hbounded : Bounded heap anyKey depth (.ref info)) :
    ∃ heap' emitted, maskSensitiveData lower depth heap info = some (heap', emitted) ∧
      MaskedBelow lower heap' emitted ∧
        (Untouched heap heap' info ↔ MaskedBeneath lower heap info) := by
  have hinfo : ∃ record, heap[info]? = some record := by
    cases depth with
    | zero => exact absurd hbounded id
    | succ rest => exact hbounded.imp fun _ h ↦ h.1
  obtain ⟨record, hrecord⟩ := hinfo
  refine ⟨_, heap.length, ?_, maskedBelow_overwrite heap.length ⟨record, getElem?_clone⟩,
    untouched_iff hrecord hbounded⟩
  unfold maskSensitiveData
  rw [hrecord, Option.bind_eq_bind, Option.bind_some]
  dsimp only
  rw [maskObject_eq (bounded_clone hrecord hbounded)]
  rfl

end GatewayLogger

open GatewayLogger

/-- The format leaves the caller's objects as they were and masks the emitted record if and only if
the caller's objects beneath the record were masked already. -/
theorem logs_safely_iff (lower : String → String) (depth : Nat) (heap : LogHeap) (info : Nat)
    (hbounded : Bounded heap anyKey depth (.ref info)) :
    LogsSafely lower depth heap info ↔ MaskedBeneath lower heap info := by
  obtain ⟨heap', emitted, hrun, hbelow, hiff⟩ := maskSensitiveData_spec lower hbounded
  constructor
  · rintro ⟨heap'', emitted', hrun', huntouched, -⟩
    rw [hrun] at hrun'
    cases hrun'
    exact hiff.mp huntouched
  · intro hbeneath
    exact ⟨heap', emitted, hrun, hiff.mpr hbeneath, hbelow⟩

namespace Sample

/-- An object with the entries. -/
def object (entries : List (String × Slot Primitive)) : Object String Primitive where
  keys := entries.map Prod.fst
  get key := (entries.lookup key).getD (.prim .undefined)

/-- The metadata `{ user: { name: 'alice', password: … } }`. -/
def metadata (password : Slot Primitive) : LogHeap :=
  [object [("user", .ref 1)],
    object [("name", .prim (.str "alice")), ("password", password)]]

/-- The walks through the metadata are short. -/
theorem bounded_metadata (password : String) :
    Bounded (metadata (.prim (.str password))) anyKey 2 (.ref 0) := by
  refine ⟨_, rfl, fun key hkey _ ↦ ?_⟩
  obtain rfl : key = "user" := by simpa [object] using hkey
  refine ⟨_, rfl, fun key hkey _ ↦ ?_⟩
  rcases (by simpa [object] using hkey : key = "name" ∨ key = "password") with rfl | rfl
  · exact trivial
  · exact trivial

/-- A caller who has masked the password. -/
theorem maskedBeneath_metadata : MaskedBeneath lower (metadata MASKED) 0 := by
  intro record hrecord key hkey _ b user hlead huser
  cases hrecord
  obtain rfl : key = "user" := by simpa [object] using hkey
  have hb : b = 1 := by
    cases hlead with
    | here _ => rfl
    | there hobject hentry _ hrest =>
      cases hobject
      rcases List.mem_cons.mp hentry with rfl | hentry
      · cases hrest
      · obtain rfl := List.mem_singleton.mp hentry
        cases hrest
  subst hb
  cases huser
  intro key hkey hsensitive
  rcases List.mem_cons.mp hkey with rfl | hkey
  · cases hsensitive
  · obtain rfl := List.mem_singleton.mp hkey
    rfl

end Sample

/-- The case of metadata whose password the caller has masked. -/
theorem logs_safely_iff_masked : LogsSafely Sample.lower 2 (Sample.metadata MASKED) 0 :=
  (logs_safely_iff Sample.lower 2 (Sample.metadata MASKED) 0
    (Sample.bounded_metadata "***MASKED***")).mpr Sample.maskedBeneath_metadata

/-- The password of the caller's own object is overwritten. -/
theorem logs_overwrite_password :
    ¬ ∀ (lower : String → String) (depth : Nat) (heap : LogHeap) (info : Nat),
      Bounded heap anyKey depth (.ref info) → LogsSafely lower depth heap info := by
  intro h
  have hbounded := Sample.bounded_metadata "correct horse"
  obtain ⟨heap', emitted, hrun, huntouched, -⟩ := h Sample.lower 2 _ 0 hbounded
  obtain ⟨heap'', emitted', hrun', -, hiff⟩ := maskSensitiveData_spec Sample.lower hbounded
  rw [hrun] at hrun'
  cases hrun'
  have hmasked := hiff.mp huntouched _ rfl "user" List.mem_cons_self rfl 1 _ (.here rfl) rfl
  have hpassword := hmasked "password" (List.mem_cons_of_mem _ List.mem_cons_self) rfl
  injection hpassword with hprimitive
  injection hprimitive with hstring
  revert hstring
  decide

end Bankos
