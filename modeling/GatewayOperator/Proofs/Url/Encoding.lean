import GatewayOperator.Proofs.Text.Path
import GatewayOperator.Proofs.Text.Utf8
import GatewayOperator.Url.Basic

/-!
# Encodings that are undone

What is escaped in a URL is found again when the escapes are resolved, as long as the percent sign itself is
escaped, and no delimiter that is escaped stands in the result. The same holds for the form encoding of names and
values, so a pair that is appended to a query is one more pair when the query is read.
-/

set_option autoImplicit false

namespace GatewayOperator

/-! ## Fields -/

namespace Text

variable {separator : Char}

/-- A character that is no separator joins the first field. -/
theorem splitAt_cons_of_ne {c : Char} (h : c ≠ separator) (cs : List Char) :
    ∃ first others, splitAt separator cs = first :: others ∧
      splitAt separator (c :: cs) = (c :: first) :: others := by
  rw [splitAt, if_neg h]
  cases hsplit : splitAt separator cs with
  | nil =>
    cases cs with
    | nil => cases hsplit
    | cons d rest =>
      rw [splitAt] at hsplit
      split at hsplit
      · cases hsplit
      · split at hsplit <;> cases hsplit
  | cons first others => exact ⟨first, others, rfl, rfl⟩

/-- A text without the separator is one field. -/
theorem splitAt_of_not_mem {cs : List Char} (h : separator ∉ cs) : splitAt separator cs = [cs] := by
  induction cs with
  | nil => rfl
  | cons c cs ih =>
    have hc : c ≠ separator := (List.ne_of_not_mem_cons h).symm
    obtain ⟨first, others, hsplit, hcons⟩ := splitAt_cons_of_ne hc cs
    rw [ih (List.not_mem_of_not_mem_cons h)] at hsplit
    cases hsplit
    exact hcons

/-- Two texts with a separator between them have the fields of both. -/
theorem splitAt_append (before after : List Char) :
    splitAt separator (before ++ separator :: after) =
      splitAt separator before ++ splitAt separator after := by
  induction before with
  | nil =>
    show splitAt separator (separator :: after) = [] :: splitAt separator after
    rw [splitAt, if_pos rfl]
  | cons c before ih =>
    by_cases hc : c = separator
    · rw [List.cons_append, splitAt, if_pos hc, splitAt, if_pos hc, ih, List.cons_append]
    · obtain ⟨first, others, hsplit, hcons⟩ := splitAt_cons_of_ne hc before
      obtain ⟨first', others', hsplit', hcons'⟩ := splitAt_cons_of_ne hc (before ++ separator :: after)
      rw [ih, hsplit, List.cons_append] at hsplit'
      cases hsplit'
      rw [List.cons_append, hcons', hcons, List.cons_append]

end Text

namespace Url

open Text (hexValue? splitAt utf8)

/-! ## Escapes -/

/-- Digits in upper case are read as they were shown. -/
theorem hexValue?_digit : ∀ n < 16, hexValue? (Text.digitChar n).toUpper = some n := by decide

/-- A byte is escaped as a percent sign and two digits. -/
theorem escape_eq (b : UInt8) :
    escape b = ['%', (Text.digitChar (b.toNat / 16)).toUpper, (Text.digitChar (b.toNat % 16)).toUpper] := rfl

/-- An escaped byte is a percent sign and two digits. -/
theorem not_mem_escape {c : Char} (hpercent : c ≠ '%') (hdigit : hexValue? c = none) (b : UInt8) :
    c ∉ escape b := by
  have hb := b.toNat_lt
  rw [escape_eq, List.mem_cons, List.mem_cons, List.mem_singleton]
  rintro (rfl | rfl | rfl)
  · exact hpercent rfl
  · cases hdigit.symm.trans (hexValue?_digit _ (by omega))
  · cases hdigit.symm.trans (hexValue?_digit _ (by omega))

/-- An escaped byte is read back. -/
theorem decodeBytes_escape (b : UInt8) (rest : List Char) :
    decodeBytes (escape b ++ rest) = b :: decodeBytes rest := by
  have hb := b.toNat_lt
  have hvalue : UInt8.ofNat (b.toNat / 16 * 16 + b.toNat % 16) = b := by
    rw [Nat.div_add_mod']
    exact UInt8.ofNat_toNat
  rw [escape_eq, List.cons_append, List.cons_append, List.singleton_append, decodeBytes,
    hexValue?_digit _ (by omega), hexValue?_digit _ (by omega)]
  dsimp only
  rw [hvalue]

/-- Escaped bytes are read back. -/
theorem decodeBytes_escapes (bytes : List UInt8) (rest : List Char) :
    decodeBytes (bytes.flatMap escape ++ rest) = bytes ++ decodeBytes rest := by
  induction bytes with
  | nil => rfl
  | cons b bytes ih => rw [List.flatMap_cons, List.append_assoc, decodeBytes_escape, ih, List.cons_append]

/-- A character that is no percent sign stands for itself. -/
theorem decodeBytes_cons {c : Char} (h : c ≠ '%') (rest : List Char) :
    decodeBytes (c :: rest) = String.utf8EncodeChar c ++ decodeBytes rest := by
  rw [decodeBytes]
  exact fun _ _ _ hc _ => h hc

section Encode

variable {escaped : Char → Bool}

/-- What is escaped is found again. -/
theorem decodeBytes_encode (hpercent : escaped '%' = true) (cs rest : List Char) :
    decodeBytes (encode escaped cs ++ rest) = cs.flatMap String.utf8EncodeChar ++ decodeBytes rest := by
  induction cs with
  | nil => rfl
  | cons c cs ih =>
    rw [encode, List.flatMap_cons, List.flatMap_cons, List.append_assoc, ← encode, List.append_assoc, ← ih]
    by_cases hc : escaped c = true
    · rw [if_pos hc, decodeBytes_escapes]
    · rw [if_neg hc]
      refine decodeBytes_cons ?_ _
      rintro rfl
      exact hc hpercent

/-- Different texts are written differently. -/
theorem encode_injective (hpercent : escaped '%' = true) {cs ds : List Char}
    (h : encode escaped cs = encode escaped ds) : cs = ds := by
  have hbytes := congrArg decodeBytes h
  rw [← List.append_nil (encode escaped cs), ← List.append_nil (encode escaped ds), decodeBytes_encode hpercent,
    decodeBytes_encode hpercent, decodeBytes, List.append_nil, List.append_nil] at hbytes
  exact Text.flatMap_utf8EncodeChar_injective hbytes

/-- A delimiter that is escaped does not stand in what is written. -/
theorem not_mem_encode {c : Char} (hc : escaped c = true) (hpercent : c ≠ '%') (hdigit : hexValue? c = none)
    (cs : List Char) : c ∉ encode escaped cs := by
  intro hmem
  obtain ⟨d, -, hd⟩ := List.mem_flatMap.mp hmem
  by_cases hescaped : escaped d = true
  · rw [if_pos hescaped] at hd
    obtain ⟨b, -, hb⟩ := List.mem_flatMap.mp hd
    exact not_mem_escape hpercent hdigit b hb
  · rw [if_neg hescaped, List.mem_singleton] at hd
    exact hescaped (hd ▸ hc)

end Encode

/-! ## Forms -/

/-- Whether a byte stands for itself in a form, and then it is a character of ASCII that is neither a plus sign, a
percent sign nor a separator. -/
theorem of_isFormPlain : ∀ n < 256, isFormPlain n = true →
    n < 128 ∧ Char.ofNat n ≠ '+' ∧ Char.ofNat n ≠ '%' ∧ Char.ofNat n ≠ '&' ∧ Char.ofNat n ≠ '=' := by
  decide +kernel

/-- A character of ASCII is one byte. -/
theorem utf8EncodeChar_ofNat : ∀ n < 128, String.utf8EncodeChar (Char.ofNat n) = [UInt8.ofNat n] := by
  decide +kernel

/-- A form's character as it stands before escapes are resolved. -/
def blanked (c : Char) : Char := if c = '+' then ' ' else c

/-- What can become of a byte in a form. -/
theorem formByte_cases (b : UInt8) :
    (isFormPlain b.toNat = true ∧ formByte b = [Char.ofNat b.toNat]) ∨ (b = 0x20 ∧ formByte b = ['+']) ∨
      formByte b = escape b := by
  unfold formByte
  by_cases hplain : isFormPlain b.toNat = true
  · exact .inl ⟨hplain, if_pos hplain⟩
  by_cases hblank : b = 0x20
  · exact .inr (.inl ⟨hblank, by rw [if_neg hplain, if_pos hblank]⟩)
  · exact .inr (.inr (by rw [if_neg hplain, if_neg hblank]))

/-- No escape has a plus sign that would be read as a blank. -/
theorem blanked_escape (b : UInt8) : (escape b).map blanked = escape b := by
  refine (List.map_congr_left fun c hc => ?_).trans (List.map_id _)
  refine if_neg ?_
  rintro rfl
  exact not_mem_escape (by decide) rfl b hc

/-- A byte in the coding of forms is read back. -/
theorem decodeBytes_formByte (b : UInt8) (rest : List Char) :
    decodeBytes ((formByte b).map blanked ++ rest) = b :: decodeBytes rest := by
  rcases formByte_cases b with ⟨hplain, heq⟩ | ⟨rfl, heq⟩ | heq
  · obtain ⟨hascii, hplus, hpercent, -, -⟩ := of_isFormPlain b.toNat b.toNat_lt hplain
    rw [heq, List.map_singleton, blanked, if_neg hplus, List.singleton_append, decodeBytes_cons hpercent,
      utf8EncodeChar_ofNat _ hascii, UInt8.ofNat_toNat, List.singleton_append]
  · rw [heq, List.map_singleton, blanked, if_pos rfl, List.singleton_append, decodeBytes_cons (by decide)]
    rfl
  · rw [heq, blanked_escape, decodeBytes_escape]

/-- A form-encoded text stands for the text. -/
theorem formDecode_formEncode (s : String) : formDecode (formEncode s) = s := by
  have hbytes (bytes : List UInt8) : decodeBytes ((bytes.flatMap formByte).map blanked) = bytes := by
    induction bytes with
    | nil => rfl
    | cons b bytes ih => rw [List.flatMap_cons, List.map_append, decodeBytes_formByte, ih]
  show Text.Utf8.readLossy (decodeBytes (((utf8 s).flatMap formByte).map blanked)) = s
  rw [hbytes, Text.Utf8.readLossy_utf8]

/-- No separator of a query stands in a form-encoded text. -/
theorem separator_not_mem_formEncode (s : String) : '&' ∉ formEncode s ∧ '=' ∉ formEncode s := by
  have hbyte (b : UInt8) : '&' ∉ formByte b ∧ '=' ∉ formByte b := by
    rcases formByte_cases b with ⟨hplain, heq⟩ | ⟨-, heq⟩ | heq
    · obtain ⟨-, -, -, hamp, hequals⟩ := of_isFormPlain b.toNat b.toNat_lt hplain
      rw [heq, List.mem_singleton, List.mem_singleton]
      exact ⟨hamp.symm, hequals.symm⟩
    · rw [heq]
      decide
    · rw [heq]
      exact ⟨not_mem_escape (by decide) rfl b, not_mem_escape (by decide) rfl b⟩
  constructor
  · intro hmem
    obtain ⟨b, -, hb⟩ := List.mem_flatMap.mp hmem
    exact (hbyte b).1 hb
  · intro hmem
    obtain ⟨b, -, hb⟩ := List.mem_flatMap.mp hmem
    exact (hbyte b).2 hb

/-! ## Pairs -/

/-- The name and the value of a field of a query, divided by its first equals sign. -/
def pair (field : List Char) : String × String :=
  (formDecode (field.takeWhile (· ≠ '=')), formDecode ((field.dropWhile (· ≠ '=')).drop 1))

/-- The pairs of a query. Empty fields do not count. -/
def pairs (query : List Char) : List (String × String) :=
  ((splitAt '&' query).filter (· ≠ [])).map pair

/-- A field of a name and a value is read as just these. -/
theorem pair_formEncode (name value : String) :
    pair (formEncode name ++ '=' :: formEncode value) = (name, value) := by
  have hname := (separator_not_mem_formEncode name).2
  rw [pair, Text.takeWhile_ne hname, Text.dropWhile_ne hname, List.drop_succ_cons, List.drop_zero,
    formDecode_formEncode, formDecode_formEncode]

/-- A pair that is appended to a query is its last one, and the others stay. -/
theorem pairs_appendPairTo (query : Option (List Char)) (name value : String) :
    pairs (appendPairTo query name value) = pairs (query.getD []) ++ [(name, value)] := by
  have hwhole : '&' ∉ formEncode name ++ '=' :: formEncode value := by
    simp [separator_not_mem_formEncode]
  have hlast : pairs (formEncode name ++ '=' :: formEncode value) = [(name, value)] := by
    rw [pairs, Text.splitAt_of_not_mem hwhole, List.filter_cons_of_pos (by simp), List.filter_nil,
      List.map_singleton, pair_formEncode]
  rcases query with - | - | ⟨c, cs⟩
  · exact hlast
  · exact hlast
  · show pairs ((c :: cs) ++ '&' :: (formEncode name ++ '=' :: formEncode value)) = _
    rw [← hlast, Option.getD_some, pairs, Text.splitAt_append, List.filter_append, List.map_append]
    rfl

end Url

end GatewayOperator
