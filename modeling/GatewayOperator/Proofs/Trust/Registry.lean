import GatewayOperator.Proofs.Json.Texts
import GatewayOperator.Proofs.Text.Path
import GatewayOperator.Trust.Registry

/-!
# Entries of registries

Setting an entry of a registry changes that entry and the time of the update, and nothing else that a
reader of the registry looks at. An entry that lists the secrets of a namespace is read back as it was
written.
-/

set_option autoImplicit false

namespace GatewayOperator

namespace Entries

variable {α : Type}

/-- A second insertion of the same value changes nothing. -/
theorem insert_insert (key : String) (value : α) (entries : List (String × α)) :
    insert key value (insert key value entries) = insert key value entries := by
  induction entries with
  | nil => simp [insert]
  | cons entry rest ih =>
    obtain ⟨k, v⟩ := entry
    simp only [insert]
    by_cases hkey : k = key
    · simp [hkey, insert]
    · by_cases hlt : key < k
      · simp [hkey, hlt, insert]
      · simp [hkey, hlt, insert, ih]

/-- A second removal changes nothing. -/
theorem erase_erase (key : String) (entries : List (String × α)) :
    erase key (erase key entries) = erase key entries := by
  simp only [erase, List.filter_filter, Bool.and_self]

end Entries

namespace Trust.Registry

open GatewayOperator.Resource

/-- The value under a key of a registry. -/
def entry? (r : ConfigMap) (key : String) : Option String := r.data.bind fun d => d.find? key

/-- Setting an entry sets its value, or removes it, and leaves every other entry as it was. -/
theorem entry?_setEntry (r : ConfigMap) (key other : String) (value : Option String) (now : Instant) :
    entry? (setEntry r key value now) other = if key = other then value else entry? r other := by
  unfold entry? setEntry
  cases value with
  | some v => cases r.data <;> by_cases h : key = other <;> simp [h]
  | none => cases r.data <;> by_cases h : key = other <;> simp [h]

/-- A write of an entry leaves the labels. -/
@[simp]
theorem labels_setEntry (r : ConfigMap) (key : String) (value : Option String) (now : Instant) :
    (setEntry r key value now).metadata.labels = r.metadata.labels := rfl

/-- A write of an entry leaves the version that it is based on. -/
@[simp]
theorem resourceVersion_setEntry (r : ConfigMap) (key : String) (value : Option String)
    (now : Instant) :
    (setEntry r key value now).metadata.resourceVersion = r.metadata.resourceVersion := rfl

/-- What follows a start is the rest of the text. -/
theorem after?_eq_some_iff (start text rest : List Char) :
    after? start text = some rest ↔ text = start ++ rest := by
  induction start generalizing text with
  | nil => simp [after?]
  | cons c cs ih =>
    cases text with
    | nil => simp [after?]
    | cons x xs =>
      by_cases h : c = x
      · simp [after?, h, ih]
      · simp [after?, h, Ne.symm h]

/-- A text names a secret of a namespace exactly if it is the full name of the secret. -/
theorem secretIn?_eq_some_iff (ns full name : String) :
    secretIn? ns full = some name ↔ full = fullName ns name := by
  have htext : full = fullName ns name ↔ full.toList = (ns ++ "/").toList ++ name.toList := by
    rw [fullName, ← String.toList_inj, String.toList_append]
  rw [htext, ← after?_eq_some_iff, secretIn?, Option.map_eq_some_iff]
  constructor
  · rintro ⟨rest, hrest, rfl⟩
    rw [hrest, String.toList_ofList]
  · intro hrest
    exact ⟨_, hrest, String.ofList_toList⟩

/-- The name of a secret is read off its full name. -/
@[simp]
theorem secretIn?_fullName (ns name : String) : secretIn? ns (fullName ns name) = some name :=
  (secretIn?_eq_some_iff ns _ name).mpr rfl

/-- A full name is that of a secret of one namespace only, also where one namespace starts another. -/
theorem secretIn?_fullName_of_ne {ns ns' : String} (hns : '/' ∉ ns.toList) (hns' : '/' ∉ ns'.toList)
    (hne : ns' ≠ ns) (name : String) : secretIn? ns' (fullName ns name) = none := by
  rw [Option.eq_none_iff_forall_ne_some]
  intro found hfound
  have hfull := (secretIn?_eq_some_iff ns' _ found).mp hfound
  exact hne (Text.path_injective hns hns' hfull).1.symm

/-- The value of an entry lists the full names of its secrets. -/
theorem listed?_entryValue (ns : String) (names : List String) :
    listed? (entryValue ns names) = some (names.map (fullName ns)) := by
  have htexts : ∀ xs : List String, (xs.map Json.string).mapM Json.text? = some xs := by
    intro xs
    induction xs with
    | nil => rfl
    | cons x rest ih => simp [ih, Json.text?]
  unfold listed? entryValue
  rw [Json.parse?_render_strings]
  exact htexts _

/-- The secrets of a namespace that the value of an entry lists. -/
def listedIn (ns : String) (value : Option String) : List String :=
  ((value.bind listed?).getD []).filterMap (secretIn? ns)

/-- What a registry lists depends on the entry alone. -/
theorem entrySecrets_eq (r : ConfigMap) (key ns : String) :
    entrySecrets r key ns = listedIn ns ( entry? r key) := by
  unfold entrySecrets listedIn entry?
  cases r.data.bind fun d => d.find? key <;> rfl

/-- Without an entry nothing is listed. -/
theorem listedIn_none (ns : String) : listedIn ns none = [] := rfl

/-- An entry that was written lists the secrets that it was written with. -/
theorem listedIn_entryValue (ns : String) (names : List String) :
    listedIn ns (some (entryValue ns names)) = names := by
  have hnames : secretIn? ns ∘ fullName ns = some := funext (secretIn?_fullName ns)
  unfold listedIn
  rw [Option.bind_some, listed?_entryValue, Option.getD_some, List.filterMap_map, hnames,
    List.filterMap_some]

/-- It lists none of another namespace. -/
theorem listedIn_entryValue_of_ne {ns ns' : String} (hns : '/' ∉ ns.toList) (hns' : '/' ∉ ns'.toList)
    (hne : ns' ≠ ns) (names : List String) : listedIn ns' (some (entryValue ns names)) = [] := by
  unfold listedIn
  rw [Option.bind_some, listed?_entryValue, Option.getD_some, List.filterMap_map,
    List.filterMap_eq_nil_iff]
  intro name _
  exact secretIn?_fullName_of_ne hns hns' hne name

/-- An entry is read back as it was written: it lists the names in their order for its namespace and none for
any other, and what is listed under other keys stays. An entry that was removed lists none. -/
theorem entrySecrets_setEntry (r : ConfigMap) (key ns : String) (hns : '/' ∉ ns.toList)
    (names : List String) (now : Instant) :
    entrySecrets (setEntry r key (some (entryValue ns names)) now) key ns = names ∧
      (∀ ns', '/' ∉ ns'.toList → ns' ≠ ns →
        entrySecrets (setEntry r key (some (entryValue ns names)) now) key ns' = []) ∧
      (∀ value other ns', other ≠ key →
        entrySecrets (setEntry r key value now) other ns' = entrySecrets r other ns') ∧
      ∀ ns', entrySecrets (setEntry r key none now) key ns' = [] := by
  refine ⟨?_, ?_, ?_, ?_⟩
  · rw [entrySecrets_eq, entry?_setEntry, if_pos rfl, listedIn_entryValue]
  · intro ns' hns' hne
    rw [entrySecrets_eq, entry?_setEntry, if_pos rfl, listedIn_entryValue_of_ne hns hns' hne]
  · intro value other ns' hother
    rw [entrySecrets_eq, entrySecrets_eq, entry?_setEntry, if_neg (Ne.symm hother)]
  · intro ns'
    rw [entrySecrets_eq, entry?_setEntry, if_pos rfl, listedIn_none]

/-- Names that the text of an entry has to escape. -/
def oddNames : List String := ["say \"hi\"", "back\\slash", "line\nbreak\x01", "größe-日本-🚀", "", "a/b", "a/b"]

/-- A registry with an entry of its own and one that cannot be read. -/
def shelved : ConfigMap :=
  ⟨Meta.empty, none,
    some (Dict.ofList [("shop-eu-till", entryValue "shop-eu" ["till-tls"]), ("shop-old", "not json")]),
    none⟩

/-- A registry after such an entry was set, and after it was removed again. -/
def restocked (value : Option String) : ConfigMap := setEntry shelved "shop-stall" value ⟨1709967901, 0⟩

/-- Odd names are read back from the entry, in their own namespace only, and other entries stay. -/
theorem oddNames_read_back :
    '/' ∉ "shop".toList ∧
      entrySecrets (restocked (some (entryValue "shop" oddNames))) "shop-stall" "shop" = oddNames ∧
      entrySecrets (restocked (some (entryValue "shop" oddNames))) "shop-stall" "sho" = [] ∧
      entrySecrets (restocked (some (entryValue "shop" oddNames))) "shop-eu-till" "shop-eu" =
        entrySecrets shelved "shop-eu-till" "shop-eu" ∧
      entrySecrets (restocked none) "shop-stall" "shop" = [] := by
  have hns : '/' ∉ "shop".toList := by decide
  obtain ⟨hread, hother, hkept, hremoved⟩ :=
    entrySecrets_setEntry shelved "shop-stall" "shop" hns oddNames ⟨1709967901, 0⟩
  exact ⟨hns, hread, hother "sho" (by decide) (by decide), hkept _ _ _ (by decide), hremoved "shop"⟩

end Trust.Registry

end GatewayOperator
