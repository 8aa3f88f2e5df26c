import GatewayOperator.Proofs.Json.Depth
import GatewayOperator.Proofs.Json.Texts

/-!
# Records that are read back

A record is written with its fields in the order of their declaration, the absent ones left out, and it is
read back with the fields in the order of their names. Since the names differ, each field is found again: a
required one under its name, an optional one if it was there, and a list that was left out because it was
empty as the empty list. What a decoder found in a value is a part of the value.
-/

set_option autoImplicit false

namespace GatewayOperator.Json

/-! ## Writing a record -/

/-- The members of a record with these fields, the absent ones left out. -/
def present (fields : List (String × Option Json)) : List (String × Json) :=
  fields.flatMap fun f => member? f.1 f.2

/-- The members of such a record as they are read back. -/
def returned (fields : List (String × Option Json)) : List (String × Json) :=
  Entries.ofList ((present fields).map fun m => (m.1, m.2.settled))

/-- The object of a record is read back with its fields in the order of their names. -/
theorem settled_present (fields : List (String × Option Json)) :
    settled (.object (present fields)) = .object (returned fields) := settled_object (present fields)

/-- An object is not read back as null. -/
theorem settled_object_ne_null (ms : List (String × Json)) : (Json.object ms).settled ≠ .null := by
  rw [settled_object]
  exact fun h => by cases h

/-- Fields with a value are written one by one. -/
theorem present_cons (name : String) (value : Option Json) (fields : List (String × Option Json)) :
    present ((name, value) :: fields) = member? name value ++ present fields := rfl

/-- What is written of a record is its fields with a value. -/
theorem mem_present {m : String × Json} {fields : List (String × Option Json)} :
    m ∈ present fields ↔ (m.1, some m.2) ∈ fields := by
  induction fields with
  | nil => simp [present]
  | cons f rest ih =>
    obtain ⟨name, value⟩ := f
    obtain ⟨key, v⟩ := m
    rw [present_cons, List.mem_append, List.mem_cons, ih]
    cases value with
    | none => simp [member?]
    | some w => simp [member?]

/-- A record can be read back if all its fields can. -/
theorem isFitting_present {fields : List (String × Option Json)}
    (h : ∀ f ∈ fields, ∀ v ∈ f.2, v.IsFitting) : (object (present fields)).IsFitting := by
  refine all_object_iff.mpr ⟨rfl, fun m hm => ?_⟩
  exact h _ (mem_present.mp hm) m.2 rfl

/-- A record nests one deeper than its fields. -/
theorem depth_present_le {fields : List (String × Option Json)} {n : Nat}
    (h : ∀ f ∈ fields, ∀ v ∈ f.2, v.depth ≤ n) : (object (present fields)).depth ≤ n + 1 :=
  depth_object_le fun m hm => h _ (mem_present.mp hm) m.2 rfl

/-- A field of a record that is read back is there if it was written. -/
theorem find?_returned {fields : List (String × Option Json)} (h : (fields.map Prod.fst).Nodup)
    (name : String) :
    Entries.find? name (returned fields) = (Entries.find? name fields).join.map settled := by
  have hkeys (f : List (String × Option Json)) :
      (((present f).map fun m => (m.1, m.2.settled)).map Prod.fst) = (present f).map Prod.fst := by
    rw [List.map_map]
    rfl
  have hsublist : ((present fields).map Prod.fst).Sublist (fields.map Prod.fst) := by
    induction fields with
    | nil => exact List.Sublist.refl _
    | cons f rest ih =>
      rw [List.map_cons, List.nodup_cons] at h
      obtain ⟨key, value⟩ := f
      rw [present_cons]
      cases value with
      | none => exact (ih h.2).cons key
      | some v => exact (ih h.2).cons_cons key
  have hnodup : (((present fields).map fun m => (m.1, m.2.settled)).map Prod.fst).Nodup := by
    rw [hkeys]
    exact h.sublist hsublist
  rw [returned, Entries.find?_ofList hnodup]
  clear hnodup hsublist hkeys
  induction fields with
  | nil => rfl
  | cons f rest ih =>
    rw [List.map_cons, List.nodup_cons] at h
    obtain ⟨key, value⟩ := f
    rw [present_cons, List.map_append, Entries.find?]
    cases value with
    | none =>
      rw [member?, List.map_nil, List.nil_append, ih h.2]
      by_cases hkey : key = name
      · rw [if_pos hkey, Entries.find?_eq_none (hkey ▸ h.1)]
        rfl
      · rw [if_neg hkey]
    | some v =>
      rw [member?, List.map_cons, List.map_nil, List.cons_append, List.nil_append, Entries.find?]
      by_cases hkey : key = name
      · rw [if_pos hkey, if_pos hkey]
        rfl
      · rw [if_neg hkey, if_neg hkey]
        exact ih h.2

/-! ## Reading fields -/

namespace Reading

variable {α β : Type}

/-- Whether a property holds of what was read, if anything was. -/
def Always (P : α → Prop) (r : Reading α) : Prop := ∀ a, r = .value a → P a

/-- Any reading gives some value or none. -/
theorem always_true (r : Reading α) : r.Always fun _ => True := fun _ _ => trivial

/-- What always holds of the values of a reading can be weakened. -/
theorem Always.imp {P Q : α → Prop} {r : Reading α} (h : ∀ a, P a → Q a) (hr : r.Always P) : r.Always Q :=
  fun a ha => h a (hr a ha)

/-- What holds of a value carries over to what is made of it. -/
theorem Always.map {P : α → Prop} {Q : β → Prop} {g : α → β} {r : Reading α}
    (hg : ∀ a, P a → Q (g a)) (hr : r.Always P) : (g <$> r).Always Q := by
  intro b hb
  cases r with
  | faulty place fault => cases hb
  | value a =>
    cases hb
    exact hg a (hr a rfl)

/-- What holds of the parts of a reading carries over to their combination. -/
theorem Always.seq {P : α → Prop} {Q : β → Prop} {f : Reading (α → β)} {r : Reading α}
    (hf : f.Always fun g => ∀ a, P a → Q (g a)) (hr : r.Always P) : (f <*> r).Always Q := by
  intro b hb
  cases f with
  | faulty place fault =>
    cases r with
    | faulty place' fault' =>
      simp only [Seq.seq, both] at hb
      split at hb <;> cases hb
    | value a => cases hb
  | value g =>
    cases r with
    | faulty place fault => cases hb
    | value a =>
      cases hb
      exact hf g rfl a (hr a rfl)

/-- What is read first and passed over has no part in the value. -/
theorem Always.seqRight {P : β → Prop} {r : Reading β} (first : Reading α) (hr : r.Always P) :
    (first *> r).Always P :=
  .seq (.map (fun _ _ _ h => h) first.always_true) hr

/-- A reading that decodes to a value has read it without a fault. -/
theorem eq_value_of_decoded {r : Reading α} {a : α} (h : r.decoded = .ok a) : r = .value a := by
  cases r with
  | faulty place fault => cases h
  | value b =>
    cases h
    rfl

end Reading

namespace Decode

variable {α : Type}

/-- Whether a value was written so that its decoder gets it back. -/
def ReadsBack (decode : Json → Decoded α) (written : Json) (a : α) : Prop :=
  decode written.settled = .ok a

/-- What is read back is read from the text. -/
theorem ReadsBack.of_text {decode : Json → Decoded α} {written : Json} {a : α}
    (h : ReadsBack decode written a) (hfits : written.IsFitting) :
    ((parse? written.render).bind fun j => (decode j).toOption) = some a := by
  rw [parse?_render hfits, Option.bind_some, show decode written.settled = .ok a from h]
  rfl

/-- A text is read back. -/
theorem readsBack_text (s : String) : ReadsBack text (.string s) s := rfl

/-- A canonical value is read back as it is. -/
theorem readsBack_any {j : Json} (h : j.IsCanonical) : ReadsBack any j j := by
  rw [ReadsBack, settled_of_isCanonical h]
  rfl

/-- A name is read back as what it stands for. -/
theorem readsBack_variant {known : List (String × α)} {name : String} {a : α}
    (h : known.lookup name = some a) : ReadsBack (variant known) (.string name) a := by
  simp [ReadsBack, settled, variant, h]

/-- A list of texts is read back. -/
theorem readsBack_strings (xs : List String) : ReadsBack (list text) (strings xs) xs := by
  have hitems (i : Nat) : itemsFrom text i (xs.map .string) = .ok xs := by
    induction xs generalizing i with
    | nil => rfl
    | cons x xs ih =>
      rw [List.map_cons, itemsFrom, ih (i + 1)]
      rfl
  rw [ReadsBack, settled_strings]
  exact hitems 0

/-- An integer is read back if it fits 64 bits. -/
theorem readsBack_int64 {n : Int} (h : -9223372036854775808 ≤ n ∧ n ≤ 9223372036854775807) :
    ReadsBack int64 (int n) n := by
  simp [ReadsBack, int, settled, int64, intBetween, h]

/-- A record is decoded from members if its fields are read among them. -/
theorem record_object {expected : String} {count : Nat} {read : Fields → Reading α} {ms : List (String × Json)}
    {a : α} (h : read (.named ms) = .value a) : record expected count read (.object ms) = .ok a := by
  rw [record, h]
  rfl

/-- A record is read back if its fields are. -/
theorem readsBack_record {expected : String} {count : Nat} {read : Fields → Reading α}
    {fields : List (String × Option Json)} {a : α} (h : read (.named (returned fields)) = .value a) :
    ReadsBack (record expected count read) (.object (present fields)) a := by
  rw [ReadsBack, settled_present]
  exact record_object h

namespace Fields

variable {fields : List (String × Option Json)} {name : String} {decode : Json → Decoded α}

/-! ## Finding fields -/

section Found

variable {ms : List (String × Json)}

/-- A required field is what its member decodes to. -/
theorem required_found {v : Json} {a : α} (hfound : Entries.find? name ms = some v) (hread : decode v = .ok a)
    (i : Nat) : (Fields.named ms).required i name decode = .value a := by
  simp only [required, get?, hfound, Option.map_some]
  rw [hread]
  rfl

/-- A field with a default is what its member decodes to, or the default in its absence. -/
theorem defaulted_found {value : Option Json} {a absent : α} (hfound : Entries.find? name ms = value)
    (hread : ∀ v ∈ value, decode v = .ok a) (habsent : value = none → a = absent) (i : Nat) :
    (Fields.named ms).defaulted i name absent decode = .value a := by
  rw [defaulted, get?, hfound]
  cases value with
  | none =>
    rw [habsent rfl]
    rfl
  | some v =>
    simp only [Option.map_some]
    rw [hread v rfl]
    rfl

/-- A value other than null is read as itself where null is allowed. -/
theorem nullable_eq_some {v : Json} {a : α} (hread : decode v = .ok a) (hnull : v ≠ .null) :
    nullable decode v = .ok (some a) := by
  unfold nullable
  split
  · exact absurd rfl hnull
  · rw [hread]
    rfl

/-- An optional field is there exactly if its member is, which is not null. -/
theorem optional_found {encode : α → Json} {o : Option α} (hfound : Entries.find? name ms = o.map encode)
    (hread : ∀ a ∈ o, decode (encode a) = .ok a) (hnull : ∀ a ∈ o, encode a ≠ .null) (i : Nat) :
    (Fields.named ms).optional i name decode = .value o := by
  refine defaulted_found hfound (fun v hv => ?_) (fun hnone => Option.map_eq_none_iff.mp hnone) i
  obtain ⟨a, rfl, rfl⟩ := Option.map_eq_some_iff.mp hv
  exact nullable_eq_some (hread a rfl) (hnull a rfl)

end Found

/-! ## Finding fields that were written -/

/-- A required field of a record that was written is read back. -/
theorem required_returned (h : (fields.map Prod.fst).Nodup) {v : Json} {a : α}
    (hfield : Entries.find? name fields = some (some v)) (hread : ReadsBack decode v a) (i : Nat) :
    (Fields.named (returned fields)).required i name decode = .value a := by
  have hfound : Entries.find? name (returned fields) = some v.settled := by
    rw [find?_returned h, hfield]
    rfl
  exact required_found hfound hread i

/-- A field with a default is read back, whether or not it was written. -/
theorem defaulted_returned (h : (fields.map Prod.fst).Nodup) {value : Option Json} {a absent : α}
    (hfield : Entries.find? name fields = some value)
    (hread : ∀ v ∈ value, ReadsBack decode v a) (habsent : value = none → a = absent) (i : Nat) :
    (Fields.named (returned fields)).defaulted i name absent decode = .value a := by
  have hfound : Entries.find? name (returned fields) = value.map settled := by
    rw [find?_returned h, hfield, Option.join_some]
  refine defaulted_found hfound (fun w hw => ?_) (fun hnone => habsent (Option.map_eq_none_iff.mp hnone)) i
  obtain ⟨v, hv, rfl⟩ := Option.map_eq_some_iff.mp hw
  exact hread v hv

/-- A field that is always written is read back, whatever its default is. -/
theorem defaulted_written (h : (fields.map Prod.fst).Nodup) {v : Json} {a absent : α}
    (hfield : Entries.find? name fields = some (some v)) (hread : ReadsBack decode v a) (i : Nat) :
    (Fields.named (returned fields)).defaulted i name absent decode = .value a := by
  refine defaulted_returned h hfield (fun w hw => ?_) (fun hnone => by cases hnone) i
  cases hw
  exact hread

/-- An optional field is there exactly if it was written. No value that is written is null. -/
theorem optional_returned (h : (fields.map Prod.fst).Nodup) {encode : α → Json} {o : Option α}
    (hfield : Entries.find? name fields = some (o.map encode))
    (hread : ∀ a ∈ o, ReadsBack decode (encode a) a) (hnull : ∀ a ∈ o, (encode a).settled ≠ .null)
    (i : Nat) : (Fields.named (returned fields)).optional i name decode = .value o := by
  have hfound : Entries.find? name (returned fields) = o.map fun a => (encode a).settled := by
    rw [find?_returned h, hfield, Option.join_some, Option.map_map]
    rfl
  exact optional_found hfound hread hnull i

/-- An optional text is read back, whether or not it was written. -/
theorem optional_text (h : (fields.map Prod.fst).Nodup) {o : Option String}
    (hfield : Entries.find? name fields = some (o.map .string)) (i : Nat) :
    (Fields.named (returned fields)).optional i name text = .value o :=
  optional_returned h hfield (fun s _ => readsBack_text s) (fun _ _ hnull => by cases hnull) i

/-- An optional field of null or a value is there exactly if it was written with a value. -/
theorem optional_returned_orNull (h : (fields.map Prod.fst).Nodup) {encode : α → Json} {o : Option α}
    (hfield : Entries.find? name fields = some (some (orNull (o.map encode))))
    (hread : ∀ a ∈ o, ReadsBack decode (encode a) a) (hnull : ∀ a ∈ o, (encode a).settled ≠ .null)
    (i : Nat) : (Fields.named (returned fields)).optional i name decode = .value o := by
  refine defaulted_returned h hfield (fun v hv => ?_) (fun hnone => by cases hnone) i
  cases hv
  cases o with
  | none => rfl
  | some a => exact nullable_eq_some (hread a rfl) (hnull a rfl)

/-! ## Parts of a value -/

/-- Whether these are the fields of a record in a value. -/
def Of : Fields → Json → Prop
  | .named ms, j => j = .object ms
  | .listed items _, j => j = .array items

/-- What a field holds is a part of the value. -/
theorem mem_parts_of_get? {f : Fields} {j v : Json} {i place : Nat} {step : Step} (hf : f.Of j)
    (h : f.get? i name = some (place, step, v)) : v ∈ j.parts := by
  cases f with
  | named ms =>
    obtain ⟨w, hw, heq⟩ := Option.map_eq_some_iff.mp h
    cases heq
    rw [show j = .object ms from hf]
    exact List.mem_map_of_mem (Entries.mem_of_find? hw)
  | listed items expected =>
    obtain ⟨w, hw, heq⟩ := Option.map_eq_some_iff.mp h
    cases heq
    rw [show j = .array items from hf]
    exact List.mem_of_getElem? hw

/-- An optional field that was read was decoded from a part of the value that is not null. -/
theorem always_optional {P : α → Prop} (f : Fields) (i : Nat)
    (h : ∀ place step v a, f.get? i name = some (place, step, v) → v ≠ .null → decode v = .ok a → P a) :
    (f.optional i name decode).Always fun o => ∀ a ∈ o, P a := by
  rintro o ho a rfl
  unfold optional defaulted at ho
  cases hget : f.get? i name with
  | none =>
    rw [hget] at ho
    cases ho
  | some found =>
    obtain ⟨place, step, v⟩ := found
    rw [hget] at ho
    simp only at ho
    cases hnull : nullable decode v with
    | error fault =>
      rw [hnull] at ho
      cases ho
    | ok o =>
      rw [hnull] at ho
      cases ho
      unfold nullable at hnull
      split at hnull
      · cases hnull
      · next hv =>
        cases hdecode : decode v with
        | error fault =>
          rw [hdecode] at hnull
          cases hnull
        | ok b =>
          rw [hdecode] at hnull
          cases hnull
          exact h place step v a hget hv hdecode

/-- What holds of a default, and of all that is decoded from a part of the value, holds of an optional field or its
default. -/
theorem always_getD {P : α → Prop} {absent : α} {f : Fields} {j : Json} (hf : f.Of j) (habsent : P absent)
    (h : ∀ v ∈ j.parts, ∀ a, decode v = .ok a → P a) (i : Nat) :
    (f.optional i name decode).Always fun o => P (o.getD absent) := by
  refine Reading.Always.imp (fun o ho => ?_)
    (always_optional f i fun place step v a hget _ hdecode => h v (mem_parts_of_get? hf hget) a hdecode)
  cases o with
  | none => exact habsent
  | some a => exact ho a rfl

end Fields

/-- A record that is given by its members only was read from these. -/
theorem exists_members {expected : String} {read : Fields → Reading α} {j : Json} {a : α}
    (h : object expected read j = .ok a) : ∃ ms, j = .object ms ∧ read (.named ms) = .value a := by
  unfold object at h
  split at h
  · next ms => exact ⟨ms, rfl, Reading.eq_value_of_decoded h⟩
  · cases h
  · unfold refuseType at h
    split at h <;> cases h

/-- An integer that was decoded as a signed one of 64 bits is one. -/
theorem bounds_of_int64 {v : Json} {n : Int} (h : int64 v = .ok n) :
    -9223372036854775808 ≤ n ∧ n ≤ 9223372036854775807 := by
  unfold int64 intBetween at h
  split at h
  · split at h
    · cases h
      assumption
    · cases h
  · unfold refuseType at h
    split at h <;> cases h

/-- A record that was decoded was read from the fields of the value. -/
theorem exists_fields {expected : String} {count : Nat} {read : Fields → Reading α} {j : Json} {a : α}
    (h : record expected count read j = .ok a) : ∃ f : Fields, f.Of j ∧ read f = .value a := by
  unfold record at h
  split at h
  · next ms => exact ⟨.named ms, rfl, Reading.eq_value_of_decoded h⟩
  · next items =>
    simp only at h
    generalize expected ++ " with " ++ String.ofList (Text.decimal count) ++ " elements" = full at h
    refine ⟨.listed items full, rfl, Reading.eq_value_of_decoded ?_⟩
    cases hdecoded : (read (.listed items full)).decoded with
    | error fault =>
      rw [hdecoded] at h
      cases h
    | ok b =>
      rw [hdecoded] at h
      -- a list that goes on after the last field is refused
      by_cases hlong : count < items.length
      · simp [bind, Except.bind, hlong] at h
      · simpa [bind, Except.bind, hlong, pure, Except.pure] using h
  · next j =>
    unfold refuseType at h
    split at h <;> cases h

end Decode

end GatewayOperator.Json
