import GatewayOperator.Json.Decode
import GatewayOperator.Proofs.Json.Integers

/-!
# Values that come from texts

A value that a reader of texts can give is canonical: every object lists its members in the order of their
keys, each once, and every integer fits in 64 bits. Settling a value puts the members of each of its objects
in order, where the last of several members with one key counts. A canonical value is settled already.
-/

set_option autoImplicit false

namespace GatewayOperator

/-! ## Entries in order -/

namespace Entries

variable {α β : Type}

/-- An entry with the greatest key goes to the end. -/
theorem insert_of_greatest {key : String} {entries : List (String × α)}
    (h : ∀ e ∈ entries, e.1 < key) (value : α) : insert key value entries = entries ++ [(key, value)] := by
  induction entries with
  | nil => rfl
  | cons e rest ih =>
    obtain ⟨k, v⟩ := e
    have hk : k < key := h (k, v) List.mem_cons_self
    have hne : k ≠ key := fun heq => String.lt_irrefl key (heq ▸ hk)
    have hnot : ¬ key < k := fun hlt => String.lt_irrefl k (String.lt_trans hk hlt)
    simp only [insert, if_neg hne, if_neg hnot, List.cons_append]
    rw [ih fun e he => h e (List.mem_cons_of_mem _ he)]

/-- Entries that are in order stay as they are. -/
theorem ofList_of_sorted {entries : List (String × α)} (h : Sorted entries) : ofList entries = entries := by
  have hfoldl (acc : List (String × α)) (hacc : ∀ a ∈ acc, ∀ e ∈ entries, a.1 < e.1) :
      entries.foldl (fun acc e => insert e.1 e.2 acc) acc = acc ++ entries := by
    induction entries generalizing acc with
    | nil => simp
    | cons e rest ih =>
      unfold Sorted at h ih
      rw [List.pairwise_cons] at h
      rw [List.foldl_cons, insert_of_greatest fun a ha => hacc a ha e List.mem_cons_self]
      rw [ih h.2, List.append_assoc]
      · rfl
      · intro a ha f hf
        rcases List.mem_append.mp ha with ha | ha
        · exact hacc a ha f (List.mem_cons_of_mem e hf)
        · rw [List.mem_singleton.mp ha]
          exact h.1 f hf
  exact hfoldl [] fun a ha => absurd ha List.not_mem_nil

/-- What holds of the new entry and of the old ones holds after an insertion. -/
theorem forall_mem_insert {P : String × α → Prop} {key : String} {value : α}
    {entries : List (String × α)} (hnew : P (key, value)) (hold : ∀ e ∈ entries, P e) :
    ∀ e ∈ insert key value entries, P e := by
  induction entries with
  | nil =>
    intro e he
    rw [List.mem_singleton.mp he]
    exact hnew
  | cons first rest ih =>
    obtain ⟨k, v⟩ := first
    obtain ⟨hfirst, hrest⟩ := List.forall_mem_cons.mp hold
    simp only [insert]
    split
    · exact List.forall_mem_cons.mpr ⟨hnew, hrest⟩
    · split
      · exact List.forall_mem_cons.mpr ⟨hnew, hold⟩
      · exact List.forall_mem_cons.mpr ⟨hfirst, ih hrest⟩

/-- What holds of all entries holds of them in order. -/
theorem forall_mem_ofList {P : String × α → Prop} {entries : List (String × α)}
    (h : ∀ e ∈ entries, P e) : ∀ e ∈ ofList entries, P e := by
  have hfoldl (acc : List (String × α)) (hacc : ∀ e ∈ acc, P e) :
      ∀ e ∈ entries.foldl (fun acc e => insert e.1 e.2 acc) acc, P e := by
    induction entries generalizing acc with
    | nil => exact hacc
    | cons first rest ih =>
      obtain ⟨hfirst, hrest⟩ := List.forall_mem_cons.mp h
      exact ih hrest _ (forall_mem_insert hfirst hacc)
  exact hfoldl [] fun e he => absurd he List.not_mem_nil

/-- A key that no entry has is not found. -/
theorem find?_eq_none {entries : List (String × α)} {key : String} (h : key ∉ entries.map Prod.fst) :
    find? key entries = none := by
  induction entries with
  | nil => rfl
  | cons first rest ih =>
    obtain ⟨k, v⟩ := first
    rw [List.map_cons, List.mem_cons, not_or] at h
    simp only [find?, if_neg (Ne.symm h.1)]
    exact ih h.2

/-- What is found under a key is an entry. -/
theorem mem_of_find? {entries : List (String × α)} {key : String} {value : α}
    (h : find? key entries = some value) : (key, value) ∈ entries := by
  induction entries with
  | nil => cases h
  | cons first rest ih =>
    obtain ⟨k, v⟩ := first
    rw [find?] at h
    by_cases hkey : k = key
    · rw [if_pos hkey] at h
      cases h
      rw [hkey]
      exact List.mem_cons_self
    · rw [if_neg hkey] at h
      exact List.mem_cons_of_mem _ (ih h)

/-- Among distinct keys every entry is found under its key. -/
theorem find?_of_mem {entries : List (String × α)} (h : (entries.map Prod.fst).Nodup) {e : String × α}
    (he : e ∈ entries) : find? e.1 entries = some e.2 := by
  induction entries with
  | nil => cases he
  | cons first rest ih =>
    rw [List.map_cons, List.nodup_cons] at h
    rw [find?]
    rcases List.mem_cons.mp he with rfl | he
    · rw [if_pos rfl]
    · have hkey : first.1 ≠ e.1 := by
        intro heq
        rw [heq] at h
        exact h.1 (List.mem_map_of_mem he)
      rw [if_neg hkey]
      exact ih h.2 he

/-- Entries with different keys are found in order as they were. -/
theorem find?_ofList {entries : List (String × α)} (h : (entries.map Prod.fst).Nodup) (key : String) :
    find? key (ofList entries) = find? key entries := by
  have hfoldl (acc : List (String × α)) :
      find? key (entries.foldl (fun acc e => insert e.1 e.2 acc) acc) =
        (find? key entries).or (find? key acc) := by
    induction entries generalizing acc with
    | nil => rfl
    | cons first rest ih =>
      obtain ⟨k, v⟩ := first
      rw [List.map_cons, List.nodup_cons] at h
      rw [List.foldl_cons, ih h.2, find?_insert, find?]
      by_cases hkey : k = key
      · rw [if_pos hkey, if_pos hkey, find?_eq_none (hkey ▸ h.1)]
        rfl
      · rw [if_neg hkey, if_neg hkey]
  rw [ofList, hfoldl]
  exact Option.or_none

end Entries

namespace Json

/-! ## Parts of values -/

/-- A property of all values holds if it passes from the items of an array and the members of an object to
the whole. -/
@[elab_as_elim]
theorem induction {motive : Json → Prop} (null : motive .null) (bool : ∀ b, motive (.bool b))
    (number : ∀ n, motive (.number n)) (string : ∀ s, motive (.string s))
    (array : ∀ xs, (∀ x ∈ xs, motive x) → motive (.array xs))
    (object : ∀ ms, (∀ m ∈ ms, motive m.2) → motive (.object ms)) (j : Json) : motive j :=
  @Json.rec motive (fun xs => ∀ x ∈ xs, motive x) (fun ms => ∀ m ∈ ms, motive m.2)
    (fun m => motive m.2) null bool number string array object
    (fun _ hx => absurd hx List.not_mem_nil)
    (fun _ _ hx hxs => List.forall_mem_cons.mpr ⟨hx, hxs⟩)
    (fun _ hm => absurd hm List.not_mem_nil)
    (fun _ _ hm hms => List.forall_mem_cons.mpr ⟨hm, hms⟩)
    (fun _ _ hx => hx) j

mutual
/-- Whether every part of a value passes a test. -/
def all (test : Json → Bool) : Json → Bool
  | .null => test .null
  | .bool b => test (.bool b)
  | .number n => test (.number n)
  | .string s => test (.string s)
  | .array xs => test (.array xs) && allItems test xs
  | .object ms => test (.object ms) && allMembers test ms

/-- Whether every part of every item passes a test. -/
def allItems (test : Json → Bool) : List Json → Bool
  | [] => true
  | x :: xs => all test x && allItems test xs

/-- Whether every part of every member passes a test. -/
def allMembers (test : Json → Bool) : List (String × Json) → Bool
  | [] => true
  | (_, x) :: ms => all test x && allMembers test ms
end

/-- An array passes a test in all parts if it and its items do. -/
theorem all_array_iff {test : Json → Bool} {xs : List Json} :
    all test (.array xs) = true ↔ test (.array xs) = true ∧ ∀ x ∈ xs, x.all test = true := by
  have hitems : allItems test xs = true ↔ ∀ x ∈ xs, x.all test = true := by
    induction xs with
    | nil => simp [allItems]
    | cons x xs ih => simp [allItems, ih]
  rw [all, Bool.and_eq_true, hitems]

/-- An object passes a test in all parts if it and its members do. -/
theorem all_object_iff {test : Json → Bool} {ms : List (String × Json)} :
    all test (.object ms) = true ↔ test (.object ms) = true ∧ ∀ m ∈ ms, m.2.all test = true := by
  have hmembers : allMembers test ms = true ↔ ∀ m ∈ ms, m.2.all test = true := by
    induction ms with
    | nil => simp [allMembers]
    | cons m ms ih => simp [allMembers, ih]
  rw [all, Bool.and_eq_true, hmembers]

/-- A value whose parts pass two tests passes a third one that asks no more. -/
theorem all_of_all {test test' weaker : Json → Bool}
    (hweaker : ∀ j, test j = true → test' j = true → weaker j = true) {j : Json}
    (h : j.all test = true) (h' : j.all test' = true) : j.all weaker = true := by
  induction j using induction with
  | null => exact hweaker .null h h'
  | bool b => exact hweaker (.bool b) h h'
  | number n => exact hweaker (.number n) h h'
  | string s => exact hweaker (.string s) h h'
  | array xs ih =>
    obtain ⟨harray, hitems⟩ := all_array_iff.mp h
    obtain ⟨harray', hitems'⟩ := all_array_iff.mp h'
    exact all_array_iff.mpr ⟨hweaker _ harray harray', fun x hx => ih x hx (hitems x hx) (hitems' x hx)⟩
  | object ms ih =>
    obtain ⟨hobject, hmembers⟩ := all_object_iff.mp h
    obtain ⟨hobject', hmembers'⟩ := all_object_iff.mp h'
    exact all_object_iff.mpr
      ⟨hweaker _ hobject hobject', fun m hm => ih m hm (hmembers m hm) (hmembers' m hm)⟩

/-- Whether an integer fits and an object lists its members in order. -/
def isOrdered : Json → Bool
  | .number (.int n) => decide (Fits n)
  | .object ms => decide (ms.Pairwise fun a b => a.1 < b.1)
  | _ => true

/-- Whether a number is an integer. -/
def isInteger : Json → Bool
  | .number (.float _) => false
  | _ => true

/-- Whether a number is an integer that fits. -/
def isFitting : Json → Bool
  | .number (.int n) => decide (Fits n)
  | .number (.float _) => false
  | _ => true

/-- Whether a value is one that a text can give. -/
def IsCanonical (j : Json) : Prop := j.all isOrdered = true

/-- Whether all numbers in a value are integers. -/
def IsIntegral (j : Json) : Prop := j.all isInteger = true

/-- Whether all numbers in a value are integers that fit. -/
def IsFitting (j : Json) : Prop := j.all isFitting = true

instance (j : Json) : Decidable j.IsCanonical := inferInstanceAs (Decidable (_ = true))

instance (j : Json) : Decidable j.IsIntegral := inferInstanceAs (Decidable (_ = true))

/-- Canonical values with integers can be read back from their text. -/
theorem IsCanonical.isFitting {j : Json} (h : j.IsCanonical) (hints : j.IsIntegral) : j.IsFitting := by
  refine all_of_all (fun part hordered hinteger => ?_) h hints
  cases part with
  | number n =>
    cases n with
    | int n => exact hordered
    | float bits => cases hinteger
  | _ => rfl

/-! ## Settled values -/

mutual
/-- A value with the members of its objects in order. -/
def settled : Json → Json
  | .null => .null
  | .bool b => .bool b
  | .number n => .number n
  | .string s => .string s
  | .array xs => .array (settledItems xs)
  | .object ms => .object (Entries.ofList (settledMembers ms))

/-- Items with the members of their objects in order. -/
def settledItems : List Json → List Json
  | [] => []
  | x :: xs => settled x :: settledItems xs

/-- Members with the members of the objects in them in order. -/
def settledMembers : List (String × Json) → List (String × Json)
  | [] => []
  | (k, x) :: ms => (k, settled x) :: settledMembers ms
end

/-- Items are settled one by one. -/
theorem settledItems_eq (xs : List Json) : settledItems xs = xs.map settled := by
  induction xs with
  | nil => rfl
  | cons x xs ih => rw [settledItems, ih, List.map_cons]

/-- Members are settled one by one. -/
theorem settledMembers_eq (ms : List (String × Json)) :
    settledMembers ms = ms.map fun m => (m.1, m.2.settled) := by
  induction ms with
  | nil => rfl
  | cons m ms ih => rw [settledMembers, ih, List.map_cons]

/-- An array is settled by its items, in their order. -/
theorem settled_array (xs : List Json) : settled (.array xs) = .array (xs.map settled) := by
  rw [settled, settledItems_eq]

/-- An object is settled by its members, put in the order of their keys. -/
theorem settled_object (ms : List (String × Json)) :
    settled (.object ms) = .object (Entries.ofList (ms.map fun m => (m.1, m.2.settled))) := by
  rw [settled, settledMembers_eq]

/-- A list of texts has no members to put in order. -/
theorem settled_strings (xs : List String) : (strings xs).settled = strings xs := by
  rw [strings, settled_array, List.map_map]
  rfl

/-- A canonical value is settled. -/
theorem settled_of_isCanonical {j : Json} (h : j.IsCanonical) : j.settled = j := by
  induction j using induction with
  | null => rfl
  | bool b => rfl
  | number n => rfl
  | string s => rfl
  | array xs ih =>
    have hitems := (all_array_iff.mp h).2
    have hsame : xs.map settled = xs :=
      (List.map_congr_left fun x hx => ih x hx (hitems x hx)).trans (List.map_id xs)
    rw [settled_array, hsame]
  | object ms ih =>
    obtain ⟨hordered, hmembers⟩ := all_object_iff.mp h
    have hsorted : ms.Pairwise fun a b => a.1 < b.1 := of_decide_eq_true hordered
    have hmember : ∀ m ∈ ms, (m.1, m.2.settled) = id m :=
      fun m hm => Prod.ext rfl (ih m hm (hmembers m hm))
    have hsame : (ms.map fun m => (m.1, m.2.settled)) = ms :=
      (List.map_congr_left hmember).trans (List.map_id ms)
    rw [settled_object, hsame, Entries.ofList_of_sorted hsorted]

/-! ## Values that are read -/

namespace Raw

/-- A property of all structures holds if it passes from the items of an array and the members of an object
to the whole. -/
@[elab_as_elim]
theorem induction {motive : Raw → Prop} (null : motive .null) (bool : ∀ b, motive (.bool b))
    (number : ∀ n, motive (.number n)) (string : ∀ body, motive (.string body))
    (array : ∀ xs, (∀ x ∈ xs, motive x) → motive (.array xs))
    (object : ∀ ms, (∀ m ∈ ms, motive m.2) → motive (.object ms)) (x : Raw) : motive x :=
  @Raw.rec motive (fun xs => ∀ x ∈ xs, motive x) (fun ms => ∀ m ∈ ms, motive m.2)
    (fun m => motive m.2) null bool number string array object
    (fun _ hx => absurd hx List.not_mem_nil)
    (fun _ _ hx hxs => List.forall_mem_cons.mpr ⟨hx, hxs⟩)
    (fun _ hm => absurd hm List.not_mem_nil)
    (fun _ _ hm hms => List.forall_mem_cons.mpr ⟨hm, hms⟩)
    (fun _ _ hx => hx) x

/-- Each item that is read is the value of one of the structures. -/
theorem exists_of_mem_readItems? {xs : List Raw} {vs : List Json} (h : readItems? xs = some vs) :
    ∀ v ∈ vs, ∃ x ∈ xs, x.read? = some v := by
  induction xs generalizing vs with
  | nil =>
    cases h
    exact fun v hv => absurd hv List.not_mem_nil
  | cons x xs ih =>
    rw [readItems?, Option.bind_eq_some_iff] at h
    obtain ⟨v, hv, h⟩ := h
    obtain ⟨rest, hrest, rfl⟩ := Option.map_eq_some_iff.mp h
    refine List.forall_mem_cons.mpr ⟨⟨x, List.mem_cons_self, hv⟩, fun w hw => ?_⟩
    obtain ⟨y, hy, hread⟩ := ih hrest w hw
    exact ⟨y, List.mem_cons_of_mem x hy, hread⟩

/-- Each member that is read is the value of one of the structures. -/
theorem exists_of_mem_readMembers? {ms : List (Loose × Raw)} {es : List (String × Json)}
    (h : readMembers? ms = some es) : ∀ e ∈ es, ∃ m ∈ ms, m.2.read? = some e.2 := by
  induction ms generalizing es with
  | nil =>
    cases h
    exact fun e he => absurd he List.not_mem_nil
  | cons m ms ih =>
    obtain ⟨k, x⟩ := m
    rw [readMembers?, Option.bind_eq_some_iff] at h
    obtain ⟨key, -, h⟩ := h
    obtain ⟨v, hv, h⟩ := Option.bind_eq_some_iff.mp h
    obtain ⟨rest, hrest, rfl⟩ := Option.map_eq_some_iff.mp h
    refine List.forall_mem_cons.mpr ⟨⟨(k, x), List.mem_cons_self, hv⟩, fun e he => ?_⟩
    obtain ⟨y, hy, hread⟩ := ih hrest e he
    exact ⟨y, List.mem_cons_of_mem _ hy, hread⟩

/-- What is read is canonical. -/
theorem isCanonical_of_read? {x : Raw} {j : Json} (h : x.read? = some j) : j.IsCanonical := by
  induction x using induction generalizing j with
  | null =>
    cases h
    rfl
  | bool b =>
    cases h
    rfl
  | number n =>
    obtain ⟨m, hm, rfl⟩ := Option.map_eq_some_iff.mp h
    cases m with
    | int n => exact decide_eq_true (fits_of_ofNumeral? hm)
    | float bits => rfl
  | string body =>
    obtain ⟨s, -, rfl⟩ := Option.map_eq_some_iff.mp h
    rfl
  | array xs ih =>
    obtain ⟨vs, hvs, rfl⟩ := Option.map_eq_some_iff.mp h
    refine all_array_iff.mpr ⟨rfl, fun v hv => ?_⟩
    obtain ⟨x, hx, hread⟩ := exists_of_mem_readItems? hvs v hv
    exact ih x hx hread
  | object ms ih =>
    obtain ⟨es, hes, rfl⟩ := Option.map_eq_some_iff.mp h
    refine all_object_iff.mpr ⟨decide_eq_true (Entries.sorted_ofList es), ?_⟩
    refine Entries.forall_mem_ofList fun e he => ?_
    obtain ⟨m, hm, hread⟩ := exists_of_mem_readMembers? hes e he
    exact ih m hm hread

end Raw

/-- The value of a text is canonical. -/
theorem isCanonical_of_parse? {s : String} {j : Json} (h : parse? s = some j) : j.IsCanonical := by
  obtain ⟨x, -, hread⟩ := Option.bind_eq_some_iff.mp h
  exact Raw.isCanonical_of_read? hread

end Json

end GatewayOperator
