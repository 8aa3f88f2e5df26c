import GatewayOperator.Json.Reader

/-!
# Texts that are read back

A text is written between quotes, character by character, and each character is written in one of three
ways: after a backslash, as four hexadecimal digits, or as it is. Whichever way it is, the reader passes
over it in one step, and what it stands for is the character again. So a text that is written between
quotes is read back as it was.
-/

set_option autoImplicit false

namespace GatewayOperator.Json

/-- A text that was written, for a reader. -/
def asWritten (cs : List Char) : Loose := cs.map some

/-- The characters of a text as they stand between quotes, for a reader. -/
def body (cs : List Char) : Loose := asWritten (cs.flatMap escape)

/-- The characters of a text are escaped one by one. -/
theorem body_cons (c : Char) (cs : List Char) : body (c :: cs) = asWritten (escape c) ++ body cs := by
  simp [body, asWritten]

/-- The control characters in hexadecimal digits. -/
theorem hex4_digitChar : ∀ n < 32,
    Raw.isHex4 '0' '0' (Text.digitChar (n / 16)) (Text.digitChar (n % 16)) = true ∧
      Raw.hex4 '0' '0' (Text.digitChar (n / 16)) (Text.digitChar (n % 16)) = n := by decide

/-- Characters with the same code point are the same. -/
theorem char_eq_of_toNat {c d : Char} (h : c.toNat = d.toNat) : c = d := by
  rw [← Char.ofNat_toNat c, h, Char.ofNat_toNat]

/-- The ways in which a character is written between quotes: after a backslash, as four digits, or as it
is. -/
inductive Escaped (c : Char) : List Char → Prop where
  | short {e : Char} (known : Raw.isShortEscape e = true) (notUnit : e ≠ 'u')
      (stands : Raw.shortEscape e = c) : Escaped c ['\\', e]
  | digits {a b : Char} (hex : Raw.isHex4 '0' '0' a b = true)
      (stands : Raw.hex4 '0' '0' a b = c.toNat) (control : c.toNat < 32) :
      Escaped c ['\\', 'u', '0', '0', a, b]
  | plain (notQuote : c ≠ '"') (notBackslash : c ≠ '\\') (printed : 32 ≤ c.toNat) : Escaped c [c]

/-- Every character is written in one of these ways. -/
theorem escaped_escape (c : Char) : Escaped c (escape c) := by
  unfold escape
  split
  · next h => exact .short (by decide) (by decide) h.symm
  split
  · next h => exact .short (by decide) (by decide) h.symm
  split
  · next h => exact .short (by decide) (by decide) (char_eq_of_toNat h.symm)
  split
  · next h => exact .short (by decide) (by decide) (char_eq_of_toNat h.symm)
  split
  · next h => exact .short (by decide) (by decide) (char_eq_of_toNat h.symm)
  split
  · next h => exact .short (by decide) (by decide) (char_eq_of_toNat h.symm)
  split
  · next h => exact .short (by decide) (by decide) (char_eq_of_toNat h.symm)
  split
  · next h =>
    obtain ⟨hhex, hstands⟩ := hex4_digitChar c.toNat h
    exact .digits hhex hstands h
  · next hquote hbackslash _ _ _ _ _ h => exact .plain hquote hbackslash (Nat.le_of_not_lt h)

/-! ## The structure of a text -/

section Structure

open Raw

/-- The reader passes over a character in one step. -/
theorem stringBody?_of_escaped {c : Char} {w : List Char} (h : Escaped c w) (rest : Loose) :
    stringBody? (asWritten w ++ rest) =
      (stringBody? rest).map fun p => (asWritten w ++ p.1, p.2) := by
  cases h with
  | @short e hknown hunit _ =>
    show stringBody? (some '\\' :: some e :: rest) = _
    rw [stringBody?, if_pos hknown]
    · rfl
    · exact fun _ _ _ _ _ _ he => hunit he
  | @digits a b hhex _ _ =>
    show stringBody? (some '\\' :: some 'u' :: some '0' :: some '0' :: some a :: some b :: rest) = _
    rw [stringBody?, if_pos hhex]
    rfl
  | plain hquote hbackslash hprinted =>
    show stringBody? (some c :: rest) = _
    rw [stringBody?, if_neg (Nat.not_lt.mpr hprinted)]
    · rfl
    · exact hquote
    all_goals
      intros
      exact hbackslash ‹_›

/-- What a reader finds between the quotes of a text that was written. -/
theorem stringBody?_body (cs : List Char) (rest : Loose) :
    stringBody? (body cs ++ some '"' :: rest) = some (body cs, rest) := by
  induction cs with
  | nil => rfl
  | cons c cs ih =>
    rw [body_cons, List.append_assoc, stringBody?_of_escaped (escaped_escape c), ih]
    rfl

/-- No character is passed over that is not a space. -/
theorem skipSpace_cons {c : Char} (h : isSpace c = false) (rest : Loose) :
    skipSpace (some c :: rest) = some c :: rest := by
  rw [skipSpace, h]
  rfl

/-- A text that was written is read as a text. -/
theorem value?_quoted (cs : List Char) (fuel : Nat) (rest : Loose) :
    value? (fuel + 1) (asWritten (quoted cs) ++ rest) = some (.string (body cs), rest) := by
  have hquoted : asWritten (quoted cs) ++ rest = some '"' :: (body cs ++ some '"' :: rest) := by
    simp [quoted, asWritten, body]
  rw [hquoted, value?, skipSpace_cons (by decide)]
  simp only [stringBody?_body, Option.map_some]

end Structure

/-! ## The meaning of a text -/

section Meaning

open Raw

/-- What stands for a character means that character. -/
theorem pieces?_of_escaped {c : Char} {w : List Char} (h : Escaped c w) :
    ∃ piece, (∀ rest, pieces? (asWritten w ++ rest) = (pieces? rest).map (piece :: ·)) ∧
      ∀ pieces, joinPieces? (piece :: pieces) = (joinPieces? pieces).map (c :: ·) := by
  cases h with
  | @short e _ hunit hstands =>
    refine ⟨.char c, fun rest => ?_, fun pieces => by rw [joinPieces?]⟩
    show pieces? (some '\\' :: some e :: rest) = _
    rw [pieces?, hstands]
    exact fun _ _ _ _ _ _ he => hunit he
  | @digits a b _ hstands hcontrol =>
    refine ⟨.unit c.toNat, fun rest => ?_, fun pieces => ?_⟩
    · show pieces? (some '\\' :: some 'u' :: some '0' :: some '0' :: some a :: some b :: rest) = _
      rw [pieces?, hstands]
    · -- a control character is no half of a surrogate pair
      rw [joinPieces?.eq_def]
      simp only
      rw [if_neg (by omega), if_neg (by omega), Char.ofNat_toNat]
  | plain _ hbackslash _ =>
    refine ⟨.char c, fun rest => ?_, fun pieces => by rw [joinPieces?]⟩
    show pieces? (some c :: rest) = _
    rw [pieces?]
    all_goals
      intros
      exact hbackslash ‹_›

/-- A text that was written has the meaning that it had. -/
theorem text?_body (s : String) : Raw.text? (body s.toList) = some s := by
  have hmeaning : ∀ cs, (pieces? (body cs)).bind joinPieces? = some cs := by
    intro cs
    induction cs with
    | nil => rfl
    | cons c cs ih =>
      obtain ⟨piece, hpieces, hjoin⟩ := pieces?_of_escaped (escaped_escape c)
      obtain ⟨pieces, hrest, hjoined⟩ := Option.bind_eq_some_iff.mp ih
      rw [body_cons, hpieces, hrest, Option.map_some, Option.bind_some, hjoin, hjoined, Option.map_some]
  rw [Raw.text?, hmeaning, Option.map_some, String.ofList_toList]

end Meaning

end GatewayOperator.Json
