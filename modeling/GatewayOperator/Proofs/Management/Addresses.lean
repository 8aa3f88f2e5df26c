import GatewayOperator.Proofs.Management.Endpoint

/-!
# Addresses that meet

Each slot has an address of its own: two records of one client are addressed alike exactly if their ids take the
same slot, and a record is addressed like the collection exactly if its id is left out. Two neighbouring slots of
which one is left out can be mistaken for each other, so two clients can meet although their slots differ, in two
ways.
-/

set_option autoImplicit false

namespace GatewayOperator

namespace Url

/-- URLs that differ in their paths at most are told apart by what is written of these. -/
theorem text_eq_iff (u : Url) (p q : List (List Char)) :
    Url.text { u with path := p } = Url.text { u with path := q } ↔ pathChars p = pathChars q := by
  constructor
  · intro h
    have hchars : Url.chars { u with path := p } = Url.chars { u with path := q } := String.ofList_injective h
    unfold chars at hchars
    exact List.append_cancel_left (List.append_cancel_right (List.append_cancel_right hchars))
  · intro h
    rw [text, text, chars, chars, h]

end Url

namespace Management.Endpoint

open Url

/-! ## Clients -/

/-- Two pairs of slots that stand for one place: the first word stands alone before the other word with a text, or
it is followed by the other word as its own text. -/
inductive Clash : Slot → Slot → Slot → Slot → Prop
  | shifted : Clash .skipped (.part "environments".toList) (.part "environments".toList) .skipped
  | emptied : Clash .skipped (.part []) (.part "environments".toList) .above

/-- A text is written as a word exactly if it is this word. -/
theorem encode_eq_iff {cs ds : List Char} (hds : encode inSegmentSet ds = ds) :
    encode inSegmentSet cs = ds ↔ cs = ds := by
  constructor
  · intro h
    exact encode_injective (by decide) (h.trans hds.symm)
  · rintro rfl
    exact hds

/-- Two pairs of slots that clash stand for one place. -/
theorem place_of_clash {a b a' b' : Slot} (h : Clash a b a' b') : place a b = place a' b' := by
  cases h <;> decide

/-- Where only one of two organizations is followed by a text, the two pairs clash. -/
theorem clash_of_place_eq {a b b' : Slot} {cs : List Char} (h : place a b = place (.part cs) b')
    (ha : (a.under "organizations".toList).length = 1) : Clash a b (.part cs) b' := by
  obtain rfl : a = .skipped := by
    cases a with
    | skipped => rfl
    | above => cases (List.cons.inj h).1
    | part ds => cases ha
  obtain ⟨-, h⟩ := List.cons.inj h
  have hb : b.under "environments".toList = encode inSegmentSet cs :: b'.under "environments".toList := h
  cases b with
  | skipped => cases b' <;> cases (List.cons.inj hb).2
  | above => cases b' <;> cases (List.cons.inj hb).2
  | part ds =>
    obtain ⟨hcs, hb'⟩ := List.cons.inj hb
    obtain rfl := (encode_eq_iff (by decide)).mp hcs.symm
    cases b' with
    | skipped =>
      obtain rfl := (encode_eq_iff (by decide)).mp (List.cons.inj hb').1
      exact .shifted
    | above =>
      obtain rfl := (encode_eq_iff (by decide)).mp (List.cons.inj hb').1
      exact .emptied
    | part es => cases (List.cons.inj hb').2

/-- The pairs of slots that stand for one place. -/
theorem place_eq_iff (a b a' b' : Slot) :
    place a b = place a' b' ↔ (a = a' ∧ b = b') ∨ Clash a b a' b' ∨ Clash a' b' a b := by
  constructor
  · intro h
    by_cases hlength : (a.under "organizations".toList).length = (a'.under "organizations".toList).length
    · obtain ⟨hfirst, hsecond⟩ := List.append_inj h hlength
      exact .inl ⟨Slot.under_injective (by decide) hfirst, Slot.under_injective (by decide) hsecond⟩
    · cases a with
      | part cs =>
        refine .inr (.inr (clash_of_place_eq h.symm ?_))
        cases a' with
        | part ds => exact absurd rfl hlength
        | skipped => rfl
        | above => rfl
      | skipped =>
        cases a' with
        | part ds => exact .inr (.inl (clash_of_place_eq h rfl))
        | skipped => exact absurd rfl hlength
        | above => exact absurd rfl hlength
      | above =>
        cases a' with
        | part ds => exact .inr (.inl (clash_of_place_eq h rfl))
        | skipped => exact absurd rfl hlength
        | above => exact absurd rfl hlength
  · rintro (⟨rfl, rfl⟩ | hclash | hclash)
    · rfl
    · exact place_of_clash hclash
    · exact (place_of_clash hclash).symm

/-- No part of a place has a slash in it. -/
theorem slash_not_mem_place (a b : Slot) : ∀ x ∈ place a b, '/' ∉ x := by
  intro x hx
  rcases List.mem_append.mp hx with hx | hx
  · exact slash_not_mem_under (by decide) a x hx
  · exact slash_not_mem_under (by decide) b x hx

/-! ## Addresses -/

/-- Two clients of a base have one collection exactly if their slots are the same or clash. Within a client, two
records have one address exactly if their ids take the same slot, and so have the requests that replace them. A
record is addressed like the collection, and its replacement like a creation, exactly if its id is left out. -/
theorem same_address_iff_same_slot {base organization environment organization' environment' : String} {c c' : Url}
    (hc : collection base organization environment = .ok c)
    (hc' : collection base organization' environment' = .ok c') (id id' : String) :
    (c.text = c'.text ↔
      (slot organization = slot organization' ∧ slot environment = slot environment') ∨
        Clash (slot organization) (slot environment) (slot organization') (slot environment') ∨
        Clash (slot organization') (slot environment') (slot organization) (slot environment)) ∧
      ((record c id).text = (record c id').text ↔ slot id = slot id') ∧
      ((change c id).text = (change c id').text ↔ slot id = slot id') ∧
      ((record c id).text = c.text ↔ id = "." ∨ id = "..") ∧
      ((change c id).text = (creation c).text ↔ id = "." ∨ id = "..") := by
  obtain ⟨u, hread, rfl⟩ := exists_base hc
  obtain ⟨v, hread', rfl⟩ := exists_base hc'
  obtain rfl : u = v := Except.ok.inj (hread.symm.trans hread')
  have hfront := front_ne_nil u.dropEmptyEnd organization environment
  have hname : "apis".toList ≠ [] ∧ '/' ∉ "apis".toList := by decide
  have hskipped (path : List (List Char)) :
      path ++ ["apis".toList] = path ++ Slot.skipped.under "apis".toList := rfl
  refine ⟨?_, ?_, ?_, ?_, ?_⟩
  · rw [text_eq_iff, front, front, pathChars_between_iff (slash_not_mem_place _ _) (slash_not_mem_place _ _),
      place_eq_iff]
  · rw [record_eq, record_eq, text_eq_iff]
    simpa using pathChars_under_iff hname.1 hname.2 _ [] _ _
  · rw [change_eq u hfront, change_eq u hfront, text_eq_iff]
    exact pathChars_under_iff hname.1 hname.2 _ _ _ _
  · rw [record_eq, hskipped, text_eq_iff, ← slot_eq_skipped_iff]
    simpa using pathChars_under_iff hname.1 hname.2 _ [] _ _
  · rw [change_eq u hfront, creation_eq u hfront, text_eq_iff, ← slot_eq_skipped_iff]
    exact pathChars_under_iff hname.1 hname.2 _ _ _ _

/-- The collection of two tenants of one installation, each of which has a dot and a word for its two names. -/
def shared : Url :=
  { installation with
    path := ["management", "organizations", "environments", "environments", "apis"].map String.toList }

/-- A client whose organization is a dot and one whose environment is a dot can have one collection, and there a
record is addressed like one whose id has a tab more. -/
theorem tenants_meet :
    ∃ c c', collection "https://apim.example.com" "." "environments" = .ok c ∧
      collection "https://apim.example.com" "environments" "." = .ok c' ∧
      c.text = c'.text ∧ (record c "a1\t").text = (record c "a1").text := by
  have hfirst : collection "https://apim.example.com" "." "environments" = .ok shared := by decide +kernel
  have hsecond : collection "https://apim.example.com" "environments" "." = .ok shared := by decide +kernel
  have hclash : Clash (slot ".") (slot "environments") (slot "environments") (slot ".") := .shifted
  obtain ⟨hclients, hrecords, -⟩ := same_address_iff_same_slot hfirst hsecond "a1\t" "a1"
  exact ⟨shared, shared, hfirst, hsecond, hclients.mpr (.inr (.inl hclash)), hrecords.mpr (by decide)⟩

/-- A record whose id is a dot is addressed like the whole collection, and its replacement like a creation. -/
theorem dot_addresses_collection :
    ∃ c, collection "https://apim.example.com" "DEFAULT" "DEFAULT" = .ok c ∧
      (record c ".").text = c.text ∧ (change c ".").text = (creation c).text :=
  ⟨installation, collection_installation, rfl, rfl⟩

end Management.Endpoint

end GatewayOperator
