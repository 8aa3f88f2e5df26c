import Mathlib.Data.List.DropRight
import Mathlib.Data.List.TakeWhile
import GatewayOperator.Text.Blank

/-!
# Trimming

A text is made of a core that neither starts nor ends with a blank, and of blanks before and after it. There
is only one such core, so it is what trimming leaves, whatever blanks stand around it.
-/

set_option autoImplicit false

namespace GatewayOperator.Text

/-- Whether a list of characters neither starts nor ends with a blank. -/
def IsTrim (cs : List Char) : Prop :=
  (∀ c ∈ cs.head?, isBlank c = false) ∧ ∀ c ∈ cs.getLast?, isBlank c = false

/-- Whether a text neither starts nor ends with a blank. -/
def IsTrimmed (s : String) : Prop := IsTrim s.toList

/-- Whether a text is blank throughout. -/
def IsBlankText (s : String) : Prop := ∀ c ∈ s.toList, isBlank c = true

/-- Whether a text is what stands between the blanks around another one, and not empty. -/
def IsCoreOf (core s : String) : Prop :=
  core ≠ "" ∧ IsTrimmed core ∧
    ∃ before after, IsBlankText before ∧ IsBlankText after ∧ s = before ++ core ++ after

instance (s : String) : Decidable (IsTrimmed s) :=
  decidable_of_iff (s.toList.head?.all (fun c => !isBlank c) = true ∧
    s.toList.getLast?.all (fun c => !isBlank c) = true) (by simp [IsTrimmed, IsTrim, Option.all_eq_true])

instance (s : String) : Decidable (IsBlankText s) :=
  decidable_of_iff (s.toList.all isBlank = true) List.all_eq_true

/-! ## Lists of characters -/

/-- What is dropped in front of a core is the blanks before it. -/
theorem dropWhile_padded {before core : List Char} (hbefore : ∀ c ∈ before, isBlank c = true)
    (hcore : ∀ c ∈ core.head?, isBlank c = false) : (before ++ core).dropWhile isBlank = core := by
  rw [List.dropWhile_append_of_pos hbefore]
  cases core with
  | nil => rfl
  | cons c rest =>
    have hfirst : isBlank c = false := hcore c rfl
    simp [hfirst]

/-- What is dropped behind a core is the blanks after it. -/
theorem dropBlankEnd_padded {core after : List Char} (hafter : ∀ c ∈ after, isBlank c = true)
    (hcore : ∀ c ∈ core.getLast?, isBlank c = false) : dropBlankEnd (core ++ after) = core := by
  have hreverse : ∀ c ∈ after.reverse, isBlank c = true := by
    intro c hc
    exact hafter c (List.mem_reverse.mp hc)
  have hlast : ∀ c ∈ core.reverse.head?, isBlank c = false := by
    rw [List.head?_reverse]
    exact hcore
  rw [dropBlankEnd, List.reverse_append, dropWhile_padded hreverse hlast, List.reverse_reverse]

/-- Trimming leaves the core. -/
theorem trimBlank_padded {before core after : List Char} (hbefore : ∀ c ∈ before, isBlank c = true)
    (hafter : ∀ c ∈ after, isBlank c = true) (hcore : IsTrim core) :
    trimBlank (before ++ core ++ after) = core := by
  rw [trimBlank, List.append_assoc]
  cases core with
  | nil =>
    -- there is nothing but blanks
    rw [List.nil_append, List.dropWhile_append_of_pos hbefore, List.dropWhile_eq_nil_iff.mpr hafter]
    rfl
  | cons c rest =>
    have hfirst : ∀ d ∈ (c :: rest ++ after).head?, isBlank d = false := hcore.1
    rw [dropWhile_padded hbefore hfirst]
    exact dropBlankEnd_padded hafter hcore.2

/-- Neither end of a trimmed list of characters is blank. -/
theorem isTrim_trimBlank (cs : List Char) : IsTrim (trimBlank cs) := by
  have hend (ds : List Char) : ∀ c ∈ (ds.rdropWhile isBlank).getLast?, isBlank c = false := by
    intro c hc
    have hne : ds.rdropWhile isBlank ≠ [] := by
      intro hnil
      simp [hnil] at hc
    have hlast := List.rdropWhile_last_not isBlank ds hne
    rw [List.getLast?_eq_some_getLast hne, Option.mem_some_iff] at hc
    simpa [hc] using hlast
  refine ⟨?_, hend _⟩
  intro c hc
  -- what the end loses leaves the first character in place
  have hprefix : trimBlank cs <+: cs.dropWhile isBlank := List.rdropWhile_prefix isBlank _
  obtain ⟨rest, hrest⟩ := hprefix
  have hhead : (cs.dropWhile isBlank).head? = some c := by
    rw [← hrest, List.head?_append, Option.mem_def.mp hc]
    rfl
  have hne : cs.dropWhile isBlank ≠ [] := by
    intro hnil
    simp [hnil] at hhead
  have hfirst := List.head_dropWhile_not isBlank hne
  rw [List.head?_eq_some_head hne, Option.some.injEq] at hhead
  rwa [hhead] at hfirst

/-- What trimming takes away is blank. -/
theorem exists_padding (cs : List Char) :
    ∃ before after, (∀ c ∈ before, isBlank c = true) ∧ (∀ c ∈ after, isBlank c = true) ∧
      cs = before ++ trimBlank cs ++ after := by
  refine ⟨cs.takeWhile isBlank, (cs.dropWhile isBlank).rtakeWhile isBlank, ?_, ?_, ?_⟩
  · intro c hc
    exact List.mem_takeWhile_imp hc
  · intro c hc
    exact List.mem_rtakeWhile_imp hc
  · have hsplit : trimBlank cs ++ (cs.dropWhile isBlank).rtakeWhile isBlank = cs.dropWhile isBlank :=
      List.rdropWhile_append_rtakeWhile
    rw [List.append_assoc, hsplit, List.takeWhile_append_dropWhile]

/-! ## Texts -/

/-- A trimmed text is trimmed. -/
theorem isTrimmed_trim (s : String) : IsTrimmed (trim s) := by
  rw [IsTrimmed, trim, String.toList_ofList]
  exact isTrim_trimBlank s.toList

/-- Trimming leaves the core of a text. -/
theorem trim_padded {before core after : String} (hbefore : IsBlankText before)
    (hafter : IsBlankText after) (hcore : IsTrimmed core) : trim (before ++ core ++ after) = core := by
  rw [trim, String.toList_append, String.toList_append, trimBlank_padded hbefore hafter hcore,
    String.ofList_toList]

/-- A text is its core with blanks around it. -/
theorem exists_padded (s : String) :
    ∃ before after, IsBlankText before ∧ IsBlankText after ∧ s = before ++ trim s ++ after := by
  obtain ⟨before, after, hbefore, hafter, hsplit⟩ := exists_padding s.toList
  refine ⟨String.ofList before, String.ofList after, ?_, ?_, ?_⟩
  · rw [IsBlankText, String.toList_ofList]
    exact hbefore
  · rw [IsBlankText, String.toList_ofList]
    exact hafter
  · rw [← String.toList_inj]
    simpa [trim] using hsplit

/-- Two blank texts make a blank text. -/
theorem IsBlankText.append {s t : String} (hs : IsBlankText s) (ht : IsBlankText t) :
    IsBlankText (s ++ t) := by
  intro c hc
  rw [String.toList_append, List.mem_append] at hc
  rcases hc with hc | hc
  · exact hs c hc
  · exact ht c hc

/-- More blanks around a text make no difference to its core. -/
theorem trim_append {before after : String} (hbefore : IsBlankText before) (hafter : IsBlankText after)
    (s : String) : trim (before ++ s ++ after) = trim s := by
  obtain ⟨inner, outer, hinner, houter, hsplit⟩ := exists_padded s
  have hpadded : before ++ s ++ after = (before ++ inner) ++ trim s ++ (outer ++ after) := by
    conv_lhs => rw [hsplit]
    simp only [String.append_assoc]
  rw [hpadded]
  exact trim_padded (hbefore.append hinner) (houter.append hafter) (isTrimmed_trim s)

/-- Padding with blanks does not change what counts as a value. -/
theorem nonBlank?_append {before after : String} (hbefore : IsBlankText before)
    (hafter : IsBlankText after) (s : String) : nonBlank? (before ++ s ++ after) = nonBlank? s := by
  rw [nonBlank?, trim_append hbefore hafter, nonBlank?]

/-- What counts of a text is its core, if it has one. -/
theorem nonBlank?_eq_some_iff (s core : String) : nonBlank? s = some core ↔ IsCoreOf core s := by
  constructor
  · intro h
    unfold nonBlank? at h
    by_cases hempty : trim s = ""
    · simp [hempty] at h
    · simp only [hempty, if_false, Option.some.injEq] at h
      subst h
      exact ⟨hempty, isTrimmed_trim s, exists_padded s⟩
  · rintro ⟨hne, htrimmed, before, after, hbefore, hafter, rfl⟩
    simp [nonBlank?, trim_padded hbefore hafter htrimmed, hne]

/-- A core has no characters that its text lacks. -/
theorem IsCoreOf.subset {core s : String} (h : IsCoreOf core s) : core.toList ⊆ s.toList := by
  obtain ⟨-, -, before, after, -, -, rfl⟩ := h
  intro c hc
  simp [hc]

/-- A core is not blank itself. -/
theorem IsCoreOf.not_isBlankText {core s : String} (h : IsCoreOf core s) : ¬ IsBlankText core := by
  obtain ⟨hne, htrimmed, -⟩ := h
  intro hblank
  cases hcs : core.toList with
  | nil => exact hne (String.toList_eq_nil_iff.mp hcs)
  | cons c rest =>
    have hfirst : isBlank c = false := htrimmed.1 c (by rw [hcs]; rfl)
    have hblankFirst : isBlank c = true := hblank c (by simp [hcs])
    simp [hfirst] at hblankFirst

/-- A text that is blank throughout counts as none, and no other does. -/
theorem nonBlank?_eq_none_iff (s : String) : nonBlank? s = none ↔ IsBlankText s := by
  have hnone : nonBlank? s = none ↔ trim s = "" := by simp [nonBlank?]
  rw [hnone]
  constructor
  · intro hempty
    obtain ⟨before, after, hbefore, hafter, hsplit⟩ := exists_padded s
    rw [hsplit, hempty, String.append_empty]
    exact hbefore.append hafter
  · intro hblank
    have hnothing : IsBlankText "" := by decide
    have htrim : trim (s ++ "" ++ "") = "" := trim_padded hblank hnothing (by decide)
    simpa using htrim

/-- A text that is not blank has a core. -/
theorem exists_isCoreOf {s : String} (h : ¬ IsBlankText s) : ∃ core, IsCoreOf core s := by
  rw [← nonBlank?_eq_none_iff] at h
  obtain ⟨core, hcore⟩ := Option.ne_none_iff_exists'.mp h
  exact ⟨core, (nonBlank?_eq_some_iff s core).mp hcore⟩

end GatewayOperator.Text
