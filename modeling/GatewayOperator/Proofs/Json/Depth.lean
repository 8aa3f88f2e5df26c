import GatewayOperator.Proofs.Json.Canonical

/-!
# How deep values nest

Some readers refuse texts that nest too deep. A part of a value nests less deep than the value, and a value
whose members were put in order nests no deeper than before.
-/

set_option autoImplicit false

namespace GatewayOperator.Json

/-- The items of an array, and the values of the members of an object. -/
def parts : Json → List Json
  | .array xs => xs
  | .object ms => ms.map Prod.snd
  | _ => []

/-- What passes for all parts of a value passes for each. -/
theorem all_of_mem_parts {test : Json → Bool} {j v : Json} (hj : j.all test = true) (hv : v ∈ j.parts) :
    v.all test = true := by
  cases j with
  | array xs => exact (all_array_iff.mp hj).2 v hv
  | object ms =>
    obtain ⟨m, hm, rfl⟩ := List.mem_map.mp hv
    exact (all_object_iff.mp hj).2 m hm
  | _ => cases hv

mutual
/-- The number of arrays and objects around the innermost value. -/
def depth : Json → Nat
  | .null => 0
  | .bool _ => 0
  | .number _ => 0
  | .string _ => 0
  | .array xs => depthItems xs + 1
  | .object ms => depthMembers ms + 1

/-- The greatest depth of the items. -/
def depthItems : List Json → Nat
  | [] => 0
  | x :: xs => max (depth x) (depthItems xs)

/-- The greatest depth of the members. -/
def depthMembers : List (String × Json) → Nat
  | [] => 0
  | (_, x) :: ms => max (depth x) (depthMembers ms)
end

/-- Items stay within a depth if each of them does. -/
theorem depthItems_le_iff {xs : List Json} {n : Nat} : depthItems xs ≤ n ↔ ∀ x ∈ xs, x.depth ≤ n := by
  induction xs with
  | nil => simp [depthItems]
  | cons x xs ih => rw [depthItems, Nat.max_le, ih, List.forall_mem_cons]

/-- Members stay within a depth if each of them does. -/
theorem depthMembers_le_iff {ms : List (String × Json)} {n : Nat} :
    depthMembers ms ≤ n ↔ ∀ m ∈ ms, m.2.depth ≤ n := by
  induction ms with
  | nil => simp [depthMembers]
  | cons m ms ih => rw [depthMembers, Nat.max_le, ih, List.forall_mem_cons]

/-- An object is one level deeper than its members. -/
theorem depth_object_le {ms : List (String × Json)} {n : Nat} (h : ∀ m ∈ ms, m.2.depth ≤ n) :
    (object ms).depth ≤ n + 1 := Nat.succ_le_succ (depthMembers_le_iff.mpr h)

/-- A list of texts is one level deep. -/
theorem depth_strings_le (xs : List String) : (strings xs).depth ≤ 1 := by
  refine Nat.succ_le_succ (depthItems_le_iff.mpr fun x hx => ?_)
  obtain ⟨s, -, rfl⟩ := List.mem_map.mp hx
  exact Nat.le_refl 0

/-- A part is less deep than the value. -/
theorem depth_lt_of_mem_parts {j v : Json} (h : v ∈ j.parts) : v.depth < j.depth := by
  cases j with
  | array xs => exact Nat.lt_succ_of_le (depthItems_le_iff.mp (Nat.le_refl _) v h)
  | object ms =>
    obtain ⟨m, hm, rfl⟩ := List.mem_map.mp h
    exact Nat.lt_succ_of_le (depthMembers_le_iff.mp (Nat.le_refl _) m hm)
  | _ => cases h

/-- Settling makes no value deeper. -/
theorem depth_settled_le (j : Json) : j.settled.depth ≤ j.depth := by
  induction j using induction with
  | array xs ih =>
    rw [settled_array]
    refine Nat.succ_le_succ (depthItems_le_iff.mpr fun y hy => ?_)
    obtain ⟨x, hx, rfl⟩ := List.mem_map.mp hy
    exact Nat.le_trans (ih x hx) (depthItems_le_iff.mp (Nat.le_refl _) x hx)
  | object ms ih =>
    rw [settled_object]
    refine depth_object_le (Entries.forall_mem_ofList fun e he => ?_)
    obtain ⟨m, hm, rfl⟩ := List.mem_map.mp he
    exact Nat.le_trans (ih m hm) (depthMembers_le_iff.mp (Nat.le_refl _) m hm)
  | _ => exact Nat.le_refl _

end GatewayOperator.Json
