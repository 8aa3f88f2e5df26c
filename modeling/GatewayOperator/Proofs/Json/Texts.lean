import GatewayOperator.Proofs.Json.Canonical

/-!
# Texts that are read back

The text of a value is read back as the value, with the members of its objects in order, if the numbers in it
are integers that fit. So a canonical value without fractions is read back as it was, and different ones
have different texts.
-/

set_option autoImplicit false

namespace GatewayOperator.Json

open Raw

/-- Whether the reader finds this structure in the text of a value, and the value in the structure. The fuel
may be anything above the length of the text. -/
structure IsWritten (j : Json) (x : Raw) : Prop where
  found : ∀ fuel rest, j.chars.length < fuel → Closes rest →
    value? fuel (asWritten j.chars ++ rest) = some (x, rest)
  means : x.read? = some j.settled

/-- A text of a value starts with a character that neither separates nor ends a list. -/
theorem exists_chars_eq {j : Json} (h : j.IsFitting) :
    ∃ c cs, j.chars = c :: cs ∧ isSpace c = false ∧ c ≠ ']' := by
  cases j with
  | null => exact ⟨'n', ['u', 'l', 'l'], rfl, rfl, by decide⟩
  | bool b =>
    cases b with
    | true => exact ⟨'t', ['r', 'u', 'e'], rfl, rfl, by decide⟩
    | false => exact ⟨'f', ['a', 'l', 's', 'e'], rfl, rfl, by decide⟩
  | number n =>
    cases n with
    | float bits => cases h
    | int n =>
      obtain ⟨c, cs, hwritten, hc⟩ := exists_decimalInt_eq n
      exact ⟨c, cs, hwritten, isSpace_of_startsInteger hc, ne_of_startsInteger hc (by decide)⟩
  | string s => exact ⟨'"', _, rfl, rfl, by decide⟩
  | array xs =>
    cases xs with
    | nil => exact ⟨'[', [']'], rfl, rfl, by decide⟩
    | cons x xs => exact ⟨'[', _, rfl, rfl, by decide⟩
  | object ms =>
    cases ms with
    | nil => exact ⟨'{', ['}'], rfl, rfl, by decide⟩
    | cons m ms => exact ⟨'{', _, rfl, rfl, by decide⟩

/-- Behind an item comes a comma or the end of the array. -/
theorem closes_charsItems (xs : List Json) (rest : Loose) :
    Closes (asWritten (charsItems xs) ++ some ']' :: rest) := by
  cases xs with
  | nil => exact closes_cons (by decide) rest
  | cons x xs => exact closes_cons (by decide) _

/-- Behind a member comes a comma or the end of the object. -/
theorem closes_charsMembers (ms : List (String × Json)) (rest : Loose) :
    Closes (asWritten (charsMembers ms) ++ some '}' :: rest) := by
  cases ms with
  | nil => exact closes_cons (by decide) rest
  | cons m ms => exact closes_cons (by decide) _

/-- The items of a list are read one after the other. -/
theorem items?_written {x : Json} {xs : List Json} (h : ∀ y ∈ x :: xs, ∃ r, IsWritten y r) :
    ∃ rs, readItems? rs = some ((x :: xs).map settled) ∧
      ∀ fuel rest, (chars x ++ charsItems xs).length + 1 < fuel →
        Raw.items? fuel (asWritten (chars x ++ charsItems xs) ++ some ']' :: rest) = some (rs, rest) := by
  induction xs generalizing x with
  | nil =>
    obtain ⟨r, hfound, hmeans⟩ := h x List.mem_cons_self
    refine ⟨[r], by simp [readItems?, hmeans], fun fuel rest hfuel => ?_⟩
    cases fuel with
    | zero => omega
    | succ fuel =>
      simp only [charsItems, List.append_nil] at hfuel ⊢
      rw [Raw.items?, hfound fuel _ (by omega) (closes_cons (by decide) rest)]
      simp only [skipSpace_cons (c := ']') (by decide)]
  | cons y ys ih =>
    obtain ⟨r, hfound, hmeans⟩ := h x List.mem_cons_self
    obtain ⟨rs, hvalues, hitems⟩ := ih fun z hz => h z (List.mem_cons_of_mem x hz)
    refine ⟨r :: rs, by simp [readItems?, hmeans, hvalues], fun fuel rest hfuel => ?_⟩
    cases fuel with
    | zero => omega
    | succ fuel =>
      simp only [charsItems, List.length_append, List.length_cons] at hfuel hitems
      rw [asWritten_append, List.append_assoc, Raw.items?,
        hfound fuel _ (by omega) (closes_charsItems (y :: ys) rest)]
      have hnext := hitems fuel rest (by omega)
      simp only [charsItems, asWritten_cons, List.cons_append, skipSpace_cons (c := ',') (by decide)]
      rw [hnext, Option.map_some]

/-- The members of an object are read one after the other. -/
theorem members?_written {m : String × Json} {ms : List (String × Json)}
    (h : ∀ e ∈ m :: ms, ∃ r, IsWritten e.2 r) :
    ∃ rs, readMembers? rs = some ((m :: ms).map fun e => (e.1, e.2.settled)) ∧
      ∀ fuel rest, (quoted m.1.toList ++ ':' :: (chars m.2 ++ charsMembers ms)).length + 1 < fuel →
        members? fuel (asWritten (quoted m.1.toList ++ ':' :: (chars m.2 ++ charsMembers ms)) ++
          some '}' :: rest) = some (rs, rest) := by
  have hkey (k : String) (more : Loose) : asWritten (quoted k.toList) ++ more =
      some '"' :: (body k.toList ++ some '"' :: more) := by
    simp [quoted, body]
  induction ms generalizing m with
  | nil =>
    obtain ⟨r, hfound, hmeans⟩ := h m List.mem_cons_self
    refine ⟨[(body m.1.toList, r)], by simp [readMembers?, hmeans, text?_body], fun fuel rest hfuel => ?_⟩
    cases fuel with
    | zero => omega
    | succ fuel =>
      simp only [charsMembers, List.append_nil, List.length_append, List.length_cons] at hfuel ⊢
      have hvalue := hfound fuel (some '}' :: rest) (by omega) (closes_cons (by decide) rest)
      rw [asWritten_append, List.append_assoc, hkey, Raw.members?, skipSpace_cons (by decide)]
      simp only [stringBody?_body, asWritten_cons, List.cons_append,
        skipSpace_cons (c := ':') (by decide), hvalue, skipSpace_cons (c := '}') (by decide)]
  | cons e es ih =>
    obtain ⟨r, hfound, hmeans⟩ := h m List.mem_cons_self
    obtain ⟨rs, hvalues, hmembers⟩ := ih fun f hf => h f (List.mem_cons_of_mem m hf)
    refine ⟨(body m.1.toList, r) :: rs, by simp [readMembers?, hmeans, hvalues, text?_body],
      fun fuel rest hfuel => ?_⟩
    cases fuel with
    | zero => omega
    | succ fuel =>
      simp only [charsMembers, List.length_append, List.length_cons] at hfuel hmembers
      have hvalue := hfound fuel _ (by omega) (closes_charsMembers (e :: es) rest)
      have hnext := hmembers fuel rest (by omega)
      rw [asWritten_append, List.append_assoc, hkey, Raw.members?, skipSpace_cons (by decide)]
      simp only [stringBody?_body, asWritten_cons, asWritten_append, List.cons_append,
        List.append_assoc, skipSpace_cons (c := ':') (by decide), hvalue]
      simp only [charsMembers, asWritten_cons, List.cons_append, skipSpace_cons (c := ',') (by decide)]
      rw [hnext, Option.map_some]

/-- The reader finds an array in its text if it finds the items in theirs. -/
theorem exists_isWritten_array {xs : List Json} (hfits : ∀ x ∈ xs, x.IsFitting)
    (hitems : ∀ x ∈ xs, ∃ r, IsWritten x r) : ∃ r, IsWritten (.array xs) r := by
  cases xs with
  | nil =>
    refine ⟨.array [], fun fuel rest hfuel _ => ?_, rfl⟩
    cases fuel with
    | zero => omega
    | succ fuel => rfl
  | cons x xs =>
    obtain ⟨rs, hvalues, hitems⟩ := items?_written hitems
    refine ⟨.array rs, fun fuel rest hfuel _ => ?_, by rw [read?, hvalues, settled_array]; rfl⟩
    cases fuel with
    | zero => omega
    | succ fuel =>
      obtain ⟨c, cs, hfirst, hspace, hbracket⟩ := exists_chars_eq (hfits x List.mem_cons_self)
      simp only [chars, List.length_cons, List.length_append, List.length_nil] at hfuel
      have hinside := hitems fuel rest (by rw [List.length_append]; omega)
      have hwritten : asWritten (chars (.array (x :: xs))) ++ rest =
          some '[' :: (asWritten (chars x ++ charsItems xs) ++ some ']' :: rest) := by
        simp [chars]
      rw [hwritten, value?, skipSpace_cons (by decide)]
      rw [hfirst] at hinside ⊢
      simp only [List.cons_append, asWritten_cons, skipSpace_cons hspace] at hinside ⊢
      split
      · next heq => exact absurd (Option.some.inj (List.cons.inj heq).1) hbracket
      · rw [hinside, Option.map_some]

/-- The reader finds an object in its text, member by member, if it finds their values in theirs. -/
theorem exists_isWritten_object {ms : List (String × Json)} (h : ∀ m ∈ ms, ∃ r, IsWritten m.2 r) :
    ∃ rs, readMembers? rs = some (ms.map fun m => (m.1, m.2.settled)) ∧
      IsWritten (.object ms) (.object rs) := by
  cases ms with
  | nil =>
    refine ⟨[], rfl, fun fuel rest hfuel _ => ?_, rfl⟩
    cases fuel with
    | zero => omega
    | succ fuel => rfl
  | cons m ms =>
    obtain ⟨rs, hvalues, hmembers⟩ := members?_written h
    refine ⟨rs, hvalues, fun fuel rest hfuel _ => ?_, by rw [read?, hvalues, settled_object]; rfl⟩
    cases fuel with
    | zero => omega
    | succ fuel =>
      obtain ⟨k, x⟩ := m
      simp only [chars, List.length_cons, List.length_append, List.length_nil] at hfuel
      have hinside := hmembers fuel rest (by simp only [List.length_append, List.length_cons]; omega)
      have hwritten : asWritten (chars (.object ((k, x) :: ms))) ++ rest =
          some '{' :: (asWritten (quoted k.toList ++ ':' :: (chars x ++ charsMembers ms)) ++
            some '}' :: rest) := by
        simp [chars]
      rw [hwritten, value?, skipSpace_cons (by decide)]
      simp only [quoted, List.cons_append, asWritten_cons,
        skipSpace_cons (c := '"') (by decide)] at hinside ⊢
      split
      · next heq => cases heq
      · rw [hinside, Option.map_some]

/-- The reader finds every value in its text. -/
theorem exists_isWritten {j : Json} (h : j.IsFitting) : ∃ x, IsWritten j x := by
  induction j using induction with
  | null =>
    refine ⟨.null, fun fuel rest hfuel _ => ?_, rfl⟩
    cases fuel with
    | zero => omega
    | succ fuel => rfl
  | bool b =>
    refine ⟨.bool b, fun fuel rest hfuel _ => ?_, rfl⟩
    cases fuel with
    | zero => omega
    | succ fuel => cases b <;> rfl
  | number n =>
    cases n with
    | float bits => cases h
    | int n =>
      have hfits : Fits n := of_decide_eq_true h
      refine ⟨.number (numeralOf n), fun fuel rest hfuel hrest => ?_, ?_⟩
      · cases fuel with
        | zero => omega
        | succ fuel => exact value?_decimalInt n fuel hrest
      · rw [read?, ofNumeral?_numeralOf hfits]
        rfl
  | string s =>
    refine ⟨.string (body s.toList), fun fuel rest hfuel _ => ?_, ?_⟩
    · cases fuel with
      | zero => omega
      | succ fuel => exact value?_quoted s.toList fuel rest
    · rw [read?, text?_body]
      rfl
  | array xs ih =>
    obtain ⟨-, hfits⟩ := all_array_iff.mp h
    exact exists_isWritten_array hfits fun x hx => ih x hx (hfits x hx)
  | object ms ih =>
    obtain ⟨-, hfits⟩ := all_object_iff.mp h
    obtain ⟨rs, -, hwritten⟩ := exists_isWritten_object fun m hm => ih m hm (hfits m hm)
    exact ⟨.object rs, hwritten⟩

/-- The structure that the reader finds in the text of a value is the structure of the whole text. -/
theorem IsWritten.ofText? {j : Json} {x : Raw} (h : IsWritten j x) :
    Raw.ofText? (Loose.ofString j.render) = some x := by
  have hloose : Loose.ofString j.render = asWritten j.chars := by
    rw [Loose.ofString, render, String.toList_ofList]
    rfl
  have hvalue := h.found (2 * (asWritten j.chars).length + 2) []
    (by simp only [asWritten, List.length_map]; omega) closes_nil
  rw [List.append_nil] at hvalue
  rw [hloose, Raw.ofText?, hvalue]
  rfl

/-- The members of an object are found in its text one by one, in the order in which they were written. -/
theorem ofText?_render_object {ms : List (String × Json)} (h : (object ms).IsFitting) :
    ∃ rs, Raw.ofText? (Loose.ofString (object ms).render) = some (.object rs) ∧
      readMembers? rs = some (ms.map fun m => (m.1, m.2.settled)) := by
  obtain ⟨-, hfits⟩ := all_object_iff.mp h
  obtain ⟨rs, hmembers, hwritten⟩ := exists_isWritten_object fun m hm => exists_isWritten (hfits m hm)
  exact ⟨rs, hwritten.ofText?, hmembers⟩

/-- The text of a value is read back as the value with the members of its objects in order. -/
theorem parse?_render {j : Json} (h : j.IsFitting) : parse? j.render = some j.settled := by
  obtain ⟨x, hwritten⟩ := exists_isWritten h
  rw [parse?, ofLoose?, hwritten.ofText?]
  exact hwritten.means

/-- A text can be read back. -/
theorem isFitting_text (s : String) : (Json.string s).IsFitting := rfl

/-- A list of texts can be read back. -/
theorem isFitting_strings (xs : List String) : (strings xs).IsFitting := by
  refine all_array_iff.mpr ⟨rfl, fun x hx => ?_⟩
  obtain ⟨s, -, rfl⟩ := List.mem_map.mp hx
  rfl

/-- A list of texts that was written is read as it was. -/
theorem parse?_render_strings (xs : List String) : parse? (strings xs).render = some (strings xs) := by
  rw [parse?_render (isFitting_strings xs), settled_strings]

/-- Different values have different texts. -/
theorem settled_eq_of_render_eq {j j' : Json} (h : j.IsFitting) (h' : j'.IsFitting)
    (heq : j.render = j'.render) : j.settled = j'.settled := by
  have hread := parse?_render h
  rw [heq, parse?_render h'] at hread
  exact (Option.some.inj hread).symm

end GatewayOperator.Json
