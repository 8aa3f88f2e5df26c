/-!
# Dictionaries with text keys

A dictionary lists its entries in the order of their keys, each key once. The order of keys is that
of their code points, which is also the order of their UTF-8 bytes. The operations are given first on
plain lists of entries, where they already satisfy the laws of a dictionary, and then on the type that
carries the order as an invariant.
-/

set_option autoImplicit false

namespace GatewayOperator

variable {α : Type}

namespace Entries

/-- The value of the first entry with this key. -/
def find? (key : String) : List (String × α) → Option α
  | [] => none
  | (k, v) :: rest => if k = key then some v else find? key rest

/-- Put a value under a key: in place of an entry with that key, else before the first greater key. -/
def insert (key : String) (value : α) : List (String × α) → List (String × α)
  | [] => [(key, value)]
  | (k, v) :: rest =>
    if k = key then (key, value) :: rest
    else if key < k then (key, value) :: (k, v) :: rest
    else (k, v) :: insert key value rest

/-- The entries without those of a key. -/
def erase (key : String) (entries : List (String × α)) : List (String × α) :=
  entries.filter fun e => e.1 ≠ key

/-- Entries put in order one after the other, so that the last of several values of a key stays. -/
def ofList (entries : List (String × α)) : List (String × α) :=
  entries.foldl (fun acc e => insert e.1 e.2 acc) []

/-- Entries stand in the order of their keys, and no key stands twice. -/
def Sorted (entries : List (String × α)) : Prop :=
  entries.Pairwise fun a b => a.1 < b.1

/-- An entry after an insertion is the new one, by its key, or was there before. -/
theorem mem_insert_key {key : String} {value : α} {entries : List (String × α)}
    {e : String × α} (h : e ∈ insert key value entries) : e.1 = key ∨ e ∈ entries := by
  induction entries with
  | nil => simp [insert] at h; simp [h]
  | cons a rest ih =>
      obtain ⟨k, v⟩ := a
      simp only [insert] at h
      split at h
      · rcases List.mem_cons.mp h with h | h
        · simp [h]
        · exact Or.inr (List.mem_cons_of_mem _ h)
      · split at h
        · rcases List.mem_cons.mp h with h | h
          · simp [h]
          · exact Or.inr h
        · rcases List.mem_cons.mp h with h | h
          · simp [h]
          · rcases ih h with h | h
            · exact Or.inl h
            · exact Or.inr (List.mem_cons_of_mem _ h)

/-- Insertion keeps the order of the keys. -/
theorem sorted_insert {key : String} {value : α} {entries : List (String × α)}
    (h : Sorted entries) : Sorted (insert key value entries) := by
  induction entries with
  | nil => simp [insert, Sorted]
  | cons a rest ih =>
      obtain ⟨k, v⟩ := a
      have hr : Sorted rest := List.Pairwise.of_cons h
      have hk : ∀ e ∈ rest, k < e.1 := fun e he => List.rel_of_pairwise_cons h he
      simp only [insert]
      split
      · next heq =>
          subst heq
          exact List.Pairwise.cons (fun e he => hk e he) hr
      · split
        · next hlt =>
            refine List.Pairwise.cons ?_ h
            intro e he
            rcases List.mem_cons.mp he with he | he
            · rw [he]; exact hlt
            · exact String.lt_trans hlt (hk e he)
        · next hne hnlt =>
            refine List.Pairwise.cons ?_ (ih hr)
            intro e he
            rcases mem_insert_key he with he | he
            · rw [he]
              have hle : k ≤ key := String.not_lt.mp hnlt
              rcases Decidable.em (k < key) with hlt | hge
              · exact hlt
              · exact absurd (String.le_antisymm hle (String.not_lt.mp hge)) hne
            · exact hk e he

/-- Removal keeps the order of the keys. -/
theorem sorted_erase {key : String} {entries : List (String × α)} (h : Sorted entries) :
    Sorted (erase key entries) :=
  List.Pairwise.filter _ h

/-- Entries that are in order stay so however many are put in. -/
theorem sorted_foldl (entries acc : List (String × α)) (h : Sorted acc) :
    Sorted (entries.foldl (fun acc e => insert e.1 e.2 acc) acc) := by
  induction entries generalizing acc with
  | nil => exact h
  | cons e rest ih => exact ih _ (sorted_insert h)

/-- Entries put in order are in order. -/
theorem sorted_ofList (entries : List (String × α)) : Sorted (ofList entries) :=
  sorted_foldl entries [] List.Pairwise.nil

/-- After an insertion a key has the new value and every other key its old one. -/
theorem find?_insert (key other : String) (value : α) (entries : List (String × α)) :
    find? other (insert key value entries) =
      if key = other then some value else find? other entries := by
  induction entries with
  | nil => simp [insert, find?]
  | cons a rest ih =>
      obtain ⟨k, v⟩ := a
      simp only [insert]
      split
      · next heq => subst heq; by_cases h : k = other <;> simp [find?, h]
      · split
        · simp [find?]
        · next hne _ =>
            simp only [find?, ih]
            by_cases h : k = other
            · subst h; simp [Ne.symm hne]
            · simp [h]

/-- After a removal the key is absent and every other key has its old value. -/
theorem find?_erase (key other : String) (entries : List (String × α)) :
    find? other (erase key entries) = if key = other then none else find? other entries := by
  induction entries with
  | nil => simp [erase, find?]
  | cons a rest ih =>
      obtain ⟨k, v⟩ := a
      simp only [erase] at ih ⊢
      by_cases hk : k = key
      · subst hk
        simp only [List.filter_cons, ne_eq, not_true_eq_false, decide_false, Bool.false_eq_true,
          if_false, ih, find?]
        by_cases h : k = other <;> simp [h]
      · simp only [List.filter_cons, ne_eq, hk, not_false_eq_true, decide_true, if_true, find?, ih]
        by_cases h : k = other
        · subst h; simp [Ne.symm hk]
        · simp [h]

end Entries

/-- A dictionary: entries in the order of their keys, each key once. -/
structure Dict (α : Type) where
  entries : List (String × α)
  sorted : Entries.Sorted entries

namespace Dict

instance [DecidableEq α] : DecidableEq (Dict α) := fun a b =>
  if h : a.entries = b.entries then
    isTrue (by cases a; cases b; cases h; rfl)
  else
    isFalse fun hab => h (congrArg Dict.entries hab)

instance [Repr α] : Repr (Dict α) := ⟨fun d n => reprPrec d.entries n⟩

/-- The dictionary without entries. -/
def empty : Dict α := ⟨[], List.Pairwise.nil⟩

instance : Inhabited (Dict α) := ⟨empty⟩

/-- The value under a key. -/
def find? (d : Dict α) (key : String) : Option α :=
  Entries.find? key d.entries

/-- The dictionary with a value put under a key. -/
def insert (d : Dict α) (key : String) (value : α) : Dict α :=
  ⟨Entries.insert key value d.entries, Entries.sorted_insert d.sorted⟩

/-- The dictionary without a key. -/
def erase (d : Dict α) (key : String) : Dict α :=
  ⟨Entries.erase key d.entries, Entries.sorted_erase d.sorted⟩

/-- The dictionary of a list of entries, where a later entry replaces an earlier one. -/
def ofList (entries : List (String × α)) : Dict α :=
  ⟨Entries.ofList entries, Entries.sorted_ofList entries⟩

/-- After an insertion a key has the new value and every other key its old one. -/
@[simp] theorem find?_insert (d : Dict α) (key other : String) (value : α) :
    (d.insert key value).find? other = if key = other then some value else d.find? other :=
  Entries.find?_insert key other value d.entries

/-- After a removal the key is absent and every other key has its old value. -/
@[simp] theorem find?_erase (d : Dict α) (key other : String) :
    (d.erase key).find? other = if key = other then none else d.find? other :=
  Entries.find?_erase key other d.entries

/-- The empty dictionary has no value under any key. -/
@[simp] theorem find?_empty (key : String) : (empty : Dict α).find? key = none := rfl

/-- Two dictionaries with the same entries are equal. -/
theorem ext_entries {a b : Dict α} (h : a.entries = b.entries) : a = b := by
  cases a; cases b; cases h; rfl

end Dict

end GatewayOperator
