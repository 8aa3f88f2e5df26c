import GatewayOperator.Proofs.Management.Derivation

/-!
# Cross IDs that are carried over

A cross ID is carried over into another environment by pinning it there, under whatever namespace and name the
definition has in that place. So it must come out of this as it went in. A cross ID is never empty and has no
blanks around it, which is all that a pinned value can lose. A derived one has a form of its own: the text of
an identifier of version 5.
-/

set_option autoImplicit false

namespace GatewayOperator

namespace Text

/-- The hexadecimal digits in lower case. -/
def hexDigits : List Char := "0123456789abcdef".toList

/-- Digits of base sixteen are shown by the characters of the list. -/
theorem digitChar_mem_hexDigits : ∀ n < 16, digitChar n ∈ hexDigits := by decide

/-- No digit is blank. -/
theorem isBlank_hexDigit : ∀ c ∈ hexDigits, isBlank c = false := by
  have hall : hexDigits.all (fun c => !isBlank c) = true := by decide
  intro c hc
  simpa using List.all_eq_true.mp hall c hc

/-- Each byte takes two digits. -/
theorem length_flatMap_hexByte (bytes : List UInt8) : (bytes.flatMap hexByte).length = 2 * bytes.length := by
  induction bytes with
  | nil => rfl
  | cons b rest ih =>
    rw [List.flatMap_cons, List.length_append, ih, List.length_cons, hexByte]
    simp only [List.length_cons, List.length_nil]
    omega

/-- Bytes are shown by digits of base sixteen. -/
theorem hexByte_subset_hexDigits (b : UInt8) : ∀ c ∈ hexByte b, c ∈ hexDigits := by
  have hb := b.toNat_lt
  intro c hc
  simp only [hexByte, List.mem_cons, List.not_mem_nil, or_false] at hc
  rcases hc with rfl | rfl
  · apply digitChar_mem_hexDigits
    omega
  · apply digitChar_mem_hexDigits
    omega

end Text

namespace Management.CrossId

open Text

/-! ## The form of a derived cross ID -/

/-- Whether a text is that of an identifier of version 5: five groups of hexadecimal digits, the third of which
starts with the version and the fourth with the variant. -/
def IsIdentifierText (s : String) : Prop :=
  ∃ a b c d e : List Char,
    s.toList = a ++ '-' :: (b ++ '-' :: (c ++ '-' :: (d ++ '-' :: e))) ∧
      [a, b, c, d, e].map List.length = [8, 4, 4, 4, 12] ∧
      (∀ group ∈ [a, b, c, d, e], ∀ x ∈ group, x ∈ hexDigits) ∧
      c.head? = some '5' ∧ ∃ variant ∈ ['8', '9', 'a', 'b'], d.head? = some variant

/-- The text of an identifier has 36 characters. -/
theorem IsIdentifierText.length_eq {s : String} (h : IsIdentifierText s) : s.length = 36 := by
  obtain ⟨a, b, c, d, e, hs, hlengths, -⟩ := h
  simp only [List.map_cons, List.map_nil, List.cons.injEq, and_true] at hlengths
  rw [← String.length_toList, hs]
  simp only [List.length_append, List.length_cons]
  omega

/-- The text of an identifier has no blanks at its ends. -/
theorem IsIdentifierText.isTrimmed {s : String} (h : IsIdentifierText s) : IsTrimmed s := by
  obtain ⟨a, b, c, d, e, hs, hlengths, hdigits, -⟩ := h
  simp only [List.map_cons, List.map_nil, List.cons.injEq, and_true] at hlengths
  have hdigit (group : List Char) (hgroup : group ∈ [a, b, c, d, e]) :
      ∀ x ∈ group, isBlank x = false := fun x hx => isBlank_hexDigit x (hdigits group hgroup x hx)
  have ha : a ≠ [] := by
    intro hnil
    simp [hnil] at hlengths
  have he : e ≠ [] := by
    intro hnil
    simp [hnil] at hlengths
  rw [IsTrimmed, hs]
  constructor
  · intro x hx
    rw [List.head?_append_of_ne_nil a ha] at hx
    exact hdigit a (by simp) x (List.mem_of_mem_head? hx)
  · intro x hx
    have hlast : (a ++ '-' :: (b ++ '-' :: (c ++ '-' :: (d ++ '-' :: e)))).getLast? = e.getLast? := by
      have hsplit : a ++ '-' :: (b ++ '-' :: (c ++ '-' :: (d ++ '-' :: e))) =
          (a ++ '-' :: (b ++ '-' :: (c ++ '-' :: (d ++ ['-'])))) ++ e := by simp
      rw [hsplit, List.getLast?_append_of_ne_nil _ he]
    rw [hlast] at hx
    exact hdigit e (by simp) x (List.mem_of_mem_getLast? hx)

/-- The first digit of the byte that holds the version is 5, whatever the digest has there. -/
theorem version_digit (b : UInt8) : digitChar (((b &&& 0x0F) ||| 0x50).toNat / 16) = '5' := by
  have hshift : ((b.toNat &&& 15) ||| 80) >>> 4 = 5 := by
    rw [Nat.shiftRight_or_distrib, Nat.shiftRight_and_distrib]
    simp
  have hhigh : ((b &&& 0x0F) ||| 0x50).toNat / 16 = 5 := by
    rw [UInt8.toNat_or, UInt8.toNat_and, ← hshift, Nat.shiftRight_eq_div_pow]
    rfl
  rw [hhigh]
  rfl

/-- The first digit of the byte that holds the variant is one of four. -/
theorem variant_digit (b : UInt8) :
    digitChar (((b &&& 0x3F) ||| 0x80).toNat / 16) ∈ ['8', '9', 'a', 'b'] := by
  have hlow : (b.toNat >>> 4) &&& 3 ≤ 3 := Nat.and_le_right
  have hshift : ((b.toNat &&& 63) ||| 128) >>> 4 = ((b.toNat >>> 4) &&& 3) ||| 8 := by
    rw [Nat.shiftRight_or_distrib, Nat.shiftRight_and_distrib]
    rfl
  have hhigh : ((b &&& 0x3F) ||| 0x80).toNat / 16 = ((b.toNat >>> 4) &&& 3) ||| 8 := by
    rw [UInt8.toNat_or, UInt8.toNat_and, ← hshift, Nat.shiftRight_eq_div_pow]
    rfl
  have hdigits : ∀ n ≤ 3, digitChar (n ||| 8) ∈ ['8', '9', 'a', 'b'] := by decide
  rw [hhigh]
  exact hdigits _ hlow

/-- The digits of some bytes of an identifier. -/
def digitGroup (bytes : List UInt8) (first count : Nat) : List Char :=
  ((bytes.drop first).take count).flatMap hexByte

/-- A group has two digits for each of its bytes. -/
theorem length_digitGroup {bytes : List UInt8} {first count : Nat} (h : first + count ≤ bytes.length) :
    (digitGroup bytes first count).length = 2 * count := by
  have hlength : ((bytes.drop first).take count).length = count := by
    rw [List.length_take, List.length_drop]
    omega
  rw [digitGroup, length_flatMap_hexByte, hlength]

/-- A group has digits of base sixteen only. -/
theorem digitGroup_subset (bytes : List UInt8) (first count : Nat) :
    ∀ x ∈ digitGroup bytes first count, x ∈ hexDigits := by
  intro x hx
  obtain ⟨b, -, hmem⟩ := List.mem_flatMap.mp hx
  exact hexByte_subset_hexDigits b x hmem

/-- A group starts with the high digit of its first byte. -/
theorem head?_digitGroup {bytes : List UInt8} {first count : Nat} (h : first < bytes.length) :
    (digitGroup bytes first (count + 1)).head? = some (digitChar (bytes[first].toNat / 16)) := by
  rw [digitGroup, List.drop_eq_getElem_cons h]
  rfl

/-- A derived cross ID has the form of an identifier. -/
theorem isIdentifierText_derive (input : String) : IsIdentifierText (derive input) := by
  have hdigest : (Digest.sha1 (urlNamespace ++ utf8 input)).length = 20 := Digest.length_sha1 _
  have hlength : (identifierBytes (Digest.sha1 (urlNamespace ++ utf8 input))).length = 16 :=
    length_identifierBytes (by omega)
  have hbyte := getElem_identifierBytes (Digest.sha1 (urlNamespace ++ utf8 input))
  unfold derive
  generalize identifierBytes (Digest.sha1 (urlNamespace ++ utf8 input)) = bytes at hlength hbyte
  refine ⟨digitGroup bytes 0 4, digitGroup bytes 4 2, digitGroup bytes 6 2, digitGroup bytes 8 2,
    digitGroup bytes 10 6, String.toList_ofList, ?_, ?_, ?_, ?_⟩
  · simp only [List.map_cons, List.map_nil]
    rw [length_digitGroup (by omega), length_digitGroup (by omega), length_digitGroup (by omega),
      length_digitGroup (by omega), length_digitGroup (by omega)]
  · simp only [List.forall_mem_cons]
    exact ⟨digitGroup_subset bytes 0 4, digitGroup_subset bytes 4 2, digitGroup_subset bytes 6 2,
      digitGroup_subset bytes 8 2, digitGroup_subset bytes 10 6, List.forall_mem_nil _⟩
  · rw [head?_digitGroup (by omega), hbyte 6 (by omega)]
    exact congrArg some (version_digit _)
  · refine ⟨_, ?_, head?_digitGroup (by omega)⟩
    rw [hbyte 8 (by omega)]
    exact variant_digit _

/-! ## Pinning -/

/-- A pinned value counts without the blanks around it. -/
theorem resolve_of_isCoreOf {core value : String} (h : IsCoreOf core value) (ns name : String) :
    resolve ns name (some value) = core := by
  rw [resolve, Option.bind_some, (nonBlank?_eq_some_iff value core).mpr h]

/-- A cross ID comes from a pinned value or is derived. -/
theorem resolve_cases (ns name : String) (pinned : Option String) :
    (∃ value, pinned = some value ∧ IsCoreOf (resolve ns name pinned) value) ∨
      IsUnpinned pinned ∧ IsIdentifierText (resolve ns name pinned) := by
  cases hcore : pinned.bind nonBlank? with
  | some core =>
    left
    obtain ⟨value, rfl, hvalue⟩ := Option.bind_eq_some_iff.mp hcore
    have hcore := (nonBlank?_eq_some_iff value core).mp hvalue
    refine ⟨value, rfl, ?_⟩
    rw [resolve_of_isCoreOf hcore]
    exact hcore
  | none =>
    right
    have hunpinned : IsUnpinned pinned := by
      rintro value rfl
      exact (nonBlank?_eq_none_iff value).mp hcore
    refine ⟨hunpinned, ?_⟩
    rw [resolve_of_isUnpinned hunpinned]
    exact isIdentifierText_derive _

/-- A cross ID is not empty and has no blanks around it. -/
theorem resolve_canonical (ns name : String) (pinned : Option String) :
    resolve ns name pinned ≠ "" ∧ IsTrimmed (resolve ns name pinned) := by
  rcases resolve_cases ns name pinned with ⟨value, -, hne, htrimmed, -⟩ | ⟨-, hform⟩
  · exact ⟨hne, htrimmed⟩
  · refine ⟨?_, hform.isTrimmed⟩
    intro hempty
    have hlength := hform.length_eq
    rw [hempty] at hlength
    cases hlength

/-- A cross ID is not empty and has no blanks around it. Wherever it is pinned, with or without blanks, it is the
cross ID there. Blanks around a pinned value make no difference, what they leave of it counts as it is, and a blank
value counts as none. Without a value the cross ID is derived, and what is derived has the form of an identifier of
version 5. -/
theorem crossId_carried_over (ns name : String) (pinned : Option String) :
    resolve ns name pinned ≠ "" ∧ IsTrimmed (resolve ns name pinned) ∧
      (∀ ns' name' before after, IsBlankText before → IsBlankText after →
        resolve ns' name' (some (before ++ resolve ns name pinned ++ after)) = resolve ns name pinned) ∧
      (∀ value before after, IsBlankText before → IsBlankText after →
        resolve ns name (some (before ++ value ++ after)) = resolve ns name (some value)) ∧
      (∀ value core, IsCoreOf core value → resolve ns name (some value) = core) ∧
      (∀ value, IsBlankText value → resolve ns name (some value) = resolve ns name none) ∧
      (IsUnpinned pinned → resolve ns name pinned = derive (ns ++ "/" ++ name)) ∧
      ∀ input, (derive input).length = 36 ∧ IsIdentifierText (derive input) := by
  obtain ⟨hne, htrimmed⟩ := resolve_canonical ns name pinned
  refine ⟨hne, htrimmed, ?_, ?_, ?_, ?_, ?_, ?_⟩
  · intro ns' name' before after hbefore hafter
    have hcore : IsCoreOf (resolve ns name pinned) (before ++ resolve ns name pinned ++ after) :=
      ⟨hne, htrimmed, before, after, hbefore, hafter, rfl⟩
    exact resolve_of_isCoreOf hcore ns' name'
  · intro value before after hbefore hafter
    simp only [resolve, Option.bind_some, nonBlank?_append hbefore hafter]
  · intro value core hcore
    exact resolve_of_isCoreOf hcore ns name
  · intro value hblank
    have hunpinned : IsUnpinned (some value) := by
      rintro _ ⟨⟩
      exact hblank
    rw [resolve_of_isUnpinned hunpinned]
    rfl
  · intro hunpinned
    exact resolve_of_isUnpinned hunpinned ns name
  · intro input
    have hform := isIdentifierText_derive input
    exact ⟨hform.length_eq, hform⟩

/-- A cross ID that was derived for want of a value is pinned elsewhere with an em space before it and a line end
after it, and so is a value with a no-break space. -/
theorem derived_pinned_elsewhere :
    IsBlankText "\u2003" ∧ IsBlankText "\n" ∧ IsUnpinned (some " \t") ∧
      IsCoreOf "orders-api" "\u00a0orders-api " ∧
      resolve "live" "payments" (some ("\u2003" ++ resolve "dev" "orders" (some " \t") ++ "\n")) =
        resolve "dev" "orders" (some " \t") ∧
      resolve "dev" "orders" (some " \t") = derive "dev/orders" ∧
      resolve "dev" "orders" (some "\u00a0orders-api ") = "orders-api" := by
  have hspace : IsBlankText "\u2003" := by decide
  have hend : IsBlankText "\n" := by decide
  have hunpinned : IsUnpinned (some " \t") := by
    have hblank : IsBlankText " \t" := by decide
    rintro _ ⟨⟩
    exact hblank
  have hcore : IsCoreOf "orders-api" "\u00a0orders-api " :=
    ⟨by decide, by decide, "\u00a0", " ", by decide, by decide, by decide⟩
  obtain ⟨-, -, hpinned, -, hvalue, -, hderived, -⟩ := crossId_carried_over "dev" "orders" (some " \t")
  exact ⟨hspace, hend, hunpinned, hcore, hpinned "live" "payments" _ _ hspace hend, hderived hunpinned,
    hvalue _ _ hcore⟩

end Management.CrossId

end GatewayOperator
