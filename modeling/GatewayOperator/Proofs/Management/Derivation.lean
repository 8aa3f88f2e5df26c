import Mathlib.Data.List.DropRight
import Mathlib.Data.Nat.Bitwise
import GatewayOperator.Management.CrossId
import GatewayOperator.Proofs.Text.Blank
import GatewayOperator.Proofs.Text.Path
import GatewayOperator.Proofs.Text.Utf8

/-!
# Derived cross IDs that meet

A cross ID that is not pinned is derived in four stages: namespace and name are joined by a slash, the text is
written as bytes, the bytes behind the URL namespace are digested, and the first sixteen bytes of the
digest are written in hexadecimal digits once six of their bits are overwritten. No stage but the digest
brings two definitions together: two of them have one derived cross ID exactly if the digests of two
different messages agree in all bits that are kept.
-/

set_option autoImplicit false

namespace GatewayOperator

namespace Text

/-- Different digits of base sixteen are shown differently. -/
theorem digitChar_injective : ∀ m < 16, ∀ n < 16, digitChar m = digitChar n → m = n := by decide

/-- No digit is shown as a hyphen. -/
theorem digitChar_ne_hyphen : ∀ n < 16, digitChar n ≠ '-' := by decide

/-- Different bytes have different digits. -/
theorem hexByte_injective {a b : UInt8} (h : hexByte a = hexByte b) : a = b := by
  have ha := a.toNat_lt
  have hb := b.toNat_lt
  simp only [hexByte, List.cons.injEq, and_true] at h
  have hhigh := digitChar_injective _ (by omega) _ (by omega) h.1
  have hlow := digitChar_injective _ (by omega) _ (by omega) h.2
  rw [← UInt8.toNat_inj]
  omega

/-- The digits of a byte have no hyphen among them. -/
theorem hyphen_not_mem_hexByte (b : UInt8) : ∀ c ∈ hexByte b, c ≠ '-' := by
  have hb := b.toNat_lt
  intro c hc
  simp only [hexByte, List.mem_cons, List.not_mem_nil, or_false] at hc
  rcases hc with rfl | rfl
  · exact digitChar_ne_hyphen _ (by omega)
  · exact digitChar_ne_hyphen _ (by omega)

/-- Different lists of bytes have different digits. -/
theorem flatMap_hexByte_injective {as bs : List UInt8}
    (h : as.flatMap hexByte = bs.flatMap hexByte) : as = bs := by
  induction as generalizing bs with
  | nil =>
    cases bs with
    | nil => rfl
    | cons b bs => simp [hexByte] at h
  | cons a as ih =>
    cases bs with
    | nil => simp [hexByte] at h
    | cons b bs =>
      rw [List.flatMap_cons, List.flatMap_cons] at h
      obtain ⟨hfirst, hrest⟩ := List.append_inj h rfl
      rw [hexByte_injective hfirst, ih hrest]

end Text

namespace Digest

/-- A number takes as many bytes as its width says. -/
theorem length_bigEndian (width n : Nat) : (Sha1.bigEndian width n).length = width := by
  simp [Sha1.bigEndian]

/-- A digest has twenty bytes. -/
theorem length_sha1 (message : List UInt8) : (sha1 message).length = 20 := by
  simp [sha1, Sha1.bytes, length_bigEndian]

end Digest

namespace Management.CrossId

/-- The bytes that are digested for a definition. -/
def message (ns name : String) : List UInt8 := urlNamespace ++ Text.utf8 (ns ++ "/" ++ name)

/-! ## Bits that are kept -/

/-- Whether a bit of a byte of an identifier tells its version or its variant. -/
def IsMark (byte bit : Nat) : Prop := byte = 6 ∧ 4 ≤ bit ∨ byte = 8 ∧ 6 ≤ bit

/-- Whether two digests have the same bits in their first sixteen bytes, but for those that are overwritten. -/
def Agree (d e : List UInt8) : Prop :=
  ∀ byte < 16, ∀ bit < 8, ¬ IsMark byte bit →
    (d.getD byte 0).toNat.testBit bit = (e.getD byte 0).toNat.testBit bit

/-- Bytes are equal if their bits are. -/
theorem eq_iff_testBit (a b : UInt8) :
    a = b ↔ ∀ bit < 8, a.toNat.testBit bit = b.toNat.testBit bit := by
  constructor
  · rintro rfl bit -
    rfl
  · intro h
    have hhigh (c : UInt8) {bit : Nat} (hbit : 8 ≤ bit) : c.toNat.testBit bit = false :=
      Nat.testBit_lt_two_pow (c.toNat_lt.trans_le (Nat.pow_le_pow_right (by decide) hbit))
    rw [← UInt8.toNat_inj]
    refine Nat.eq_of_testBit_eq fun bit => ?_
    by_cases hbit : bit < 8
    · exact h bit hbit
    · rw [hhigh a (Nat.le_of_not_lt hbit), hhigh b (Nat.le_of_not_lt hbit)]

/-- Bytes with the bits outside of a mask overwritten are equal if their bits in the mask are. -/
theorem overwritten_eq_iff {keep mark : UInt8} (h : keep &&& mark = 0) (a b : UInt8) :
    (a &&& keep) ||| mark = (b &&& keep) ||| mark ↔
      ∀ bit < 8, keep.toNat.testBit bit = true → a.toNat.testBit bit = b.toNat.testBit bit := by
  have hapart (bit : Nat) (hkeep : keep.toNat.testBit bit = true) :
      mark.toNat.testBit bit = false := by
    have hzero := congrArg (fun c => c.toNat.testBit bit) h
    simpa [UInt8.toNat_and, hkeep] using hzero
  rw [eq_iff_testBit]
  simp only [UInt8.toNat_or, UInt8.toNat_and, Nat.testBit_or, Nat.testBit_and]
  refine forall₂_congr fun bit _ => ?_
  cases hkeep : keep.toNat.testBit bit with
  | false => simp
  | true => simp [hapart bit hkeep]

/-- The bytes of an identifier, one by one. -/
theorem getElem_identifierBytes (digest : List UInt8) (i : Nat)
    (h : i < (identifierBytes digest).length) :
    (identifierBytes digest)[i] =
      if i = 6 then (digest.getD i 0 &&& 0x0F) ||| 0x50
      else if i = 8 then (digest.getD i 0 &&& 0x3F) ||| 0x80
      else digest.getD i 0 := by
  have hi : i < digest.length := by
    simp [identifierBytes] at h
    omega
  rw [List.getD_eq_getElem _ _ hi]
  simp only [identifierBytes, List.getElem_modify, List.getElem_take]
  by_cases h6 : i = 6
  · simp [h6]
  · by_cases h8 : i = 8
    · simp [h8]
    · simp [h6, h8, Ne.symm h6, Ne.symm h8]

/-- An identifier has sixteen bytes. -/
theorem length_identifierBytes {digest : List UInt8} (h : 16 ≤ digest.length) :
    (identifierBytes digest).length = 16 := by
  simp [identifierBytes, h]

/-- Two digests give the same bytes exactly if they agree. -/
theorem identifierBytes_eq_iff {d e : List UInt8} (hd : 16 ≤ d.length) (he : 16 ≤ e.length) :
    identifierBytes d = identifierBytes e ↔ Agree d e := by
  have hlow : ∀ bit < 8, (0x0F : UInt8).toNat.testBit bit = true ↔ ¬ 4 ≤ bit := by decide
  have hlow' : ∀ bit < 8, (0x3F : UInt8).toNat.testBit bit = true ↔ ¬ 6 ≤ bit := by decide
  have hbyte (i : Nat) (hi : i < (identifierBytes d).length) (hi' : i < (identifierBytes e).length) :
      (identifierBytes d)[i] = (identifierBytes e)[i] ↔
        ∀ bit < 8, ¬ IsMark i bit →
          (d.getD i 0).toNat.testBit bit = (e.getD i 0).toNat.testBit bit := by
    rw [getElem_identifierBytes, getElem_identifierBytes]
    by_cases h6 : i = 6
    · rw [if_pos h6, if_pos h6, overwritten_eq_iff (by decide)]
      refine forall₂_congr fun bit hbit => ?_
      rw [hlow bit hbit]
      simp [IsMark, h6]
    · rw [if_neg h6, if_neg h6]
      by_cases h8 : i = 8
      · rw [if_pos h8, if_pos h8, overwritten_eq_iff (by decide)]
        refine forall₂_congr fun bit hbit => ?_
        rw [hlow' bit hbit]
        simp [IsMark, h8]
      · rw [if_neg h8, if_neg h8, eq_iff_testBit]
        refine forall₂_congr fun bit _ => ?_
        simp [IsMark, h6, h8]
  have hlength := length_identifierBytes hd
  have hlength' := length_identifierBytes he
  constructor
  · intro h i hi
    refine (hbyte i (by omega) (by omega)).mp ?_
    simp only [h]
  · intro h
    refine List.ext_getElem (by omega) fun i hi hi' => (hbyte i hi hi').mpr ?_
    exact h i (by omega)

/-! ## The text of an identifier -/

/-- The digits of the text are those of the bytes. -/
theorem filter_hyphenated (bytes : List UInt8) :
    (hyphenated bytes).filter (· ≠ '-') = (bytes.take 16).flatMap Text.hexByte := by
  have hdigits (bs : List UInt8) :
      (bs.flatMap Text.hexByte).filter (· ≠ '-') = bs.flatMap Text.hexByte := by
    rw [List.filter_eq_self]
    intro c hc
    obtain ⟨b, -, hmem⟩ := List.mem_flatMap.mp hc
    simpa using Text.hyphen_not_mem_hexByte b c hmem
  have hgroups : bytes.take 16 = bytes.take 4 ++ ((bytes.drop 4).take 2 ++
      ((bytes.drop 6).take 2 ++ ((bytes.drop 8).take 2 ++ (bytes.drop 10).take 6))) := by
    rw [show 16 = 4 + (2 + (2 + (2 + 6))) from rfl]
    simp only [List.take_add, List.drop_drop]
  rw [hgroups]
  simp only [hyphenated, List.filter_append, List.filter_cons, hdigits, List.flatMap_append]
  simp

/-- Different identifiers have different texts. -/
theorem hyphenated_injective {as bs : List UInt8} (ha : as.length = 16) (hb : bs.length = 16)
    (h : hyphenated as = hyphenated bs) : as = bs := by
  have hdigits := congrArg (fun cs => cs.filter (· ≠ '-')) h
  simp only [filter_hyphenated] at hdigits
  rw [List.take_of_length_le ha.le, List.take_of_length_le hb.le] at hdigits
  exact Text.flatMap_hexByte_injective hdigits

/-- Two derived identifiers are equal exactly if the digests agree. -/
theorem derive_eq_iff (s t : String) :
    derive s = derive t ↔ Agree (Digest.sha1 (urlNamespace ++ Text.utf8 s))
      (Digest.sha1 (urlNamespace ++ Text.utf8 t)) := by
  have hlength (m : List UInt8) : 16 ≤ (Digest.sha1 m).length := by
    rw [Digest.length_sha1]
    decide
  rw [← identifierBytes_eq_iff (hlength _) (hlength _), derive, derive, ← String.toList_inj,
    String.toList_ofList, String.toList_ofList]
  constructor
  · exact hyphenated_injective (length_identifierBytes (hlength _)) (length_identifierBytes (hlength _))
  · intro h
    rw [h]

/-! ## Definitions -/

/-- Whether no cross ID is pinned, or a blank one. -/
def IsUnpinned (pinned : Option String) : Prop :=
  ∀ value ∈ pinned, ∀ c ∈ value.toList, Text.isBlank c = true

/-- Without an explicit cross ID the one derived from namespace and name is taken. -/
theorem resolve_of_isUnpinned {pinned : Option String} (h : IsUnpinned pinned) (ns name : String) :
    resolve ns name pinned = derive (ns ++ "/" ++ name) := by
  have hnone : pinned.bind Text.nonBlank? = none := by
    cases pinned with
    | none => rfl
    | some value => exact (Text.nonBlank?_eq_none_iff value).mpr (h value rfl)
  rw [resolve, hnone]

/-- Two definitions without a pinned cross ID are told apart by the messages that are digested for them,
and they have one cross ID exactly if the digests of these two messages agree. -/
theorem same_crossId_iff_digests_agree {ns ns' name name' : String} {pinned pinned' : Option String}
    (hns : '/' ∉ ns.toList) (hns' : '/' ∉ ns'.toList) (hne : (ns, name) ≠ (ns', name'))
    (hpinned : IsUnpinned pinned) (hpinned' : IsUnpinned pinned') :
    message ns name ≠ message ns' name' ∧
      (resolve ns name pinned = resolve ns' name' pinned' ↔
        Agree (Digest.sha1 (message ns name)) (Digest.sha1 (message ns' name'))) := by
  constructor
  · intro hmessage
    have hpath := Text.utf8_injective (List.append_cancel_left hmessage)
    obtain ⟨rfl, rfl⟩ := Text.path_injective hns hns' hpath
    exact hne rfl
  · rw [resolve_of_isUnpinned hpinned, resolve_of_isUnpinned hpinned', derive_eq_iff]
    rfl

/-- Two definitions that have each other's namespace as name, one of them pinned to a blank, do not
meet. -/
theorem swapped_definitions_apart :
    message "default" "orders" ≠ message "orders" "default" ∧
      (resolve "default" "orders" none = resolve "orders" "default" (some " ") ↔
        Agree (Digest.sha1 (message "default" "orders")) (Digest.sha1 (message "orders" "default"))) ∧
      resolve "default" "orders" none ≠ resolve "orders" "default" (some " ") := by
  have hnone : IsUnpinned none := fun value hvalue => by cases hvalue
  have hblank : IsUnpinned (some " ") := by
    intro value hvalue
    cases hvalue
    have hall : " ".toList.all Text.isBlank = true := by decide
    exact List.all_eq_true.mp hall
  have hne : ("default", "orders") ≠ ("orders", "default") := by decide
  have hmeet := same_crossId_iff_digests_agree (by decide) (by decide) hne hnone hblank
  exact ⟨hmeet.1, hmeet.2, by decide +kernel⟩

end Management.CrossId

end GatewayOperator
