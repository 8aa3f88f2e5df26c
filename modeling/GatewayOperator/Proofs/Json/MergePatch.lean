import GatewayOperator.Json.MergePatch
import GatewayOperator.Proofs.Json.Canonical

/-!
# What a merge patch leaves

A merge patch acts on each key for itself: what is under a key afterwards depends only on what was there before
and on what the patch has there. A key that the patch lacks keeps its value, one that it has as null is gone, and
one that it has as a text or a number has just that, whatever it had before.
-/

set_option autoImplicit false

namespace GatewayOperator.Json

variable {patch inner : List (String × Json)} {outer : String}

/-- What is under a key after a merge patch, given what was there before and what the patch has there. -/
def mergedMember (old : Option Json) : Option Json → Option Json
  | none => old
  | some value => if value.isNull then none else some (merged (old.getD .null) value)

/-- A key that the patch lacks keeps its value. -/
@[simp]
theorem mergedMember_none (old : Option Json) : mergedMember old none = old := rfl

/-- A patch within the patch is merged into what was there, or into nothing. -/
@[simp]
theorem mergedMember_object (old : Option Json) (patch : List (String × Json)) :
    mergedMember old (some (.object patch)) = some (merged (old.getD .null) (.object patch)) := rfl

/-- A patch acts on each key for itself. -/
theorem find?_mergedMembers (h : (patch.map Prod.fst).Nodup) (members : List (String × Json)) (name : String) :
    Entries.find? name (mergedMembers members patch) =
      mergedMember (Entries.find? name members) (Entries.find? name patch) := by
  induction patch generalizing members with
  | nil => rfl
  | cons first rest ih =>
    obtain ⟨key, value⟩ := first
    rw [List.map_cons, List.nodup_cons] at h
    -- nothing later in the patch undoes what its first member does
    have hlater : Entries.find? key rest = none := Entries.find?_eq_none h.1
    rw [mergedMembers]
    by_cases hnull : value.isNull = true
    · rw [if_pos hnull, ih h.2, Entries.find?_erase]
      by_cases hkey : key = name
      · subst hkey
        simp [hlater, Entries.find?, mergedMember, hnull]
      · simp [Entries.find?, hkey]
    · rw [if_neg hnull, ih h.2, Entries.find?_insert]
      by_cases hkey : key = name
      · subst hkey
        simp [hlater, Entries.find?, mergedMember, hnull]
      · simp [Entries.find?, hkey]

/-- What is under a key of a value that is no object is nothing. -/
theorem get?_eq_find? (name : String) (target : Json) :
    target.get? name = Entries.find? name target.membersOf := by
  cases target <;> rfl

/-- A patch acts on each key of a value for itself, even if the value is no object. -/
theorem get?_merged (h : (patch.map Prod.fst).Nodup) (target : Json) (name : String) :
    (merged target (.object patch)).get? name =
      mergedMember (target.get? name) (Entries.find? name patch) := by
  rw [get?_eq_find? name target, ← find?_mergedMembers h]
  rfl

/-- A patch within a patch acts on the part that it stands for in the same way. -/
theorem get?_get?_merged (h : (patch.map Prod.fst).Nodup) (hinner : (inner.map Prod.fst).Nodup)
    (hpart : Entries.find? outer patch = some (.object inner)) (target : Json) (name : String) :
    ((merged target (.object patch)).get? outer).bind (get? name) =
      mergedMember ((target.get? outer).bind (get? name)) (Entries.find? name inner) := by
  rw [get?_merged h, hpart, mergedMember_object, Option.bind_some, get?_merged hinner]
  congr 1
  cases target.get? outer with
  | none => rfl
  | some part => rfl

/-- Whether a value takes the place of whatever it is merged into. -/
def IsPlain (value : Json) : Prop := value.isNull = false ∧ ∀ target, merged target value = value

/-- A text takes the place of whatever it is merged into. -/
theorem isPlain_string (s : String) : (Json.string s).IsPlain := ⟨rfl, fun _ => by simp [merged]⟩

/-- A number takes the place of whatever it is merged into. -/
theorem isPlain_int (n : Int) : (Json.int n).IsPlain := ⟨rfl, fun _ => by simp [Json.int, merged]⟩

/-- A plain value, or null in its absence, leaves nothing of what was there. -/
theorem mergedMember_orNull {value : Option Json} (h : ∀ v ∈ value, v.IsPlain) (old : Option Json) :
    mergedMember old (some (orNull value)) = value := by
  cases value with
  | none => rfl
  | some v =>
    obtain ⟨hnull, hplain⟩ := h v rfl
    simp [mergedMember, orNull, hnull, hplain]

end GatewayOperator.Json
