import Mathlib.Data.List.Basic

/-!
# Namespace and name as one text

The full name of an object is its namespace, a slash and its name. A namespace has no slash, so both are read
off the full name, as any text is that ends at the first delimiter.
-/

set_option autoImplicit false

namespace GatewayOperator.Text

section Delimiter

variable {α : Type} [DecidableEq α] {delimiter : α} {front front' rest rest' : List α}

/-- No character of a text is one that the text lacks. -/
theorem all_ne_of_not_mem (h : delimiter ∉ front) : ∀ c ∈ front, decide (c ≠ delimiter) = true := by
  intro c hc
  rw [decide_eq_true_eq]
  rintro rfl
  exact h hc

/-- What stands before the first delimiter. -/
theorem takeWhile_ne (h : delimiter ∉ front) (rest : List α) :
    (front ++ delimiter :: rest).takeWhile (· ≠ delimiter) = front := by
  rw [List.takeWhile_append_of_pos (all_ne_of_not_mem h), List.takeWhile_cons_of_neg (by simp), List.append_nil]

/-- What stands from the first delimiter on. -/
theorem dropWhile_ne (h : delimiter ∉ front) (rest : List α) :
    (front ++ delimiter :: rest).dropWhile (· ≠ delimiter) = delimiter :: rest := by
  rw [List.dropWhile_append_of_pos (all_ne_of_not_mem h), List.dropWhile_cons_of_neg (by simp)]

/-- What stands before the first delimiter and what stands behind it are read off the whole. -/
theorem append_delimiter_inj (h : delimiter ∉ front) (h' : delimiter ∉ front')
    (heq : front ++ delimiter :: rest = front' ++ delimiter :: rest') : front = front' ∧ rest = rest' := by
  have hfront : front = front' := by rw [← takeWhile_ne h rest, heq, takeWhile_ne h' rest']
  subst hfront
  exact ⟨rfl, (List.cons.inj (List.append_cancel_left heq)).2⟩

end Delimiter

/-- A namespace without slash is read off the text that it starts. -/
theorem takeWhile_path {ns : String} (h : '/' ∉ ns.toList) (name : String) :
    (ns ++ "/" ++ name).toList.takeWhile (· ≠ '/') = ns.toList := by
  rw [String.toList_append, String.toList_append, List.append_assoc]
  exact takeWhile_ne h name.toList

/-- Different pairs of a namespace without slash and a name make different texts. -/
theorem path_injective {ns ns' name name' : String} (h : '/' ∉ ns.toList) (h' : '/' ∉ ns'.toList)
    (heq : ns ++ "/" ++ name = ns' ++ "/" ++ name') : ns = ns' ∧ name = name' := by
  have hns : ns = ns' := by
    rw [← String.toList_inj, ← takeWhile_path h name, heq, takeWhile_path h' name']
  subst hns
  exact ⟨rfl, by simpa [← String.toList_inj] using heq⟩

end GatewayOperator.Text
