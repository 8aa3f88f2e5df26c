import GatewayOperator.Proofs.Json.Strings
import GatewayOperator.Proofs.Text.Decimal

/-!
# Integers that are read back

An integer is written in decimal digits without leading zeros, behind a minus sign if it is negative. The
reader takes all digits, finds neither a fraction nor an exponent where a value ends, and gets the integer
back if it fits in 64 bits, signed or unsigned.
-/

set_option autoImplicit false

namespace GatewayOperator.Json

open Raw

/-- Whether an integer fits in 64 bits, signed or unsigned. -/
def Fits (n : Int) : Prop := -9223372036854775808 ≤ n ∧ n ≤ 18446744073709551615

instance (n : Int) : Decidable (Fits n) := inferInstanceAs (Decidable (_ ∧ _))

/-- Whether a text does not go on with a numeral: it is at an end, or a value of a list or an object ends. -/
def Closes (rest : Loose) : Prop :=
  ∀ c more, rest = some c :: more → c = ',' ∨ c = ']' ∨ c = '}'

/-- The end of the text closes a value. -/
theorem closes_nil : Closes [] := by
  intro c more h
  cases h

/-- A comma or a closing bracket closes a value. -/
theorem closes_cons {c : Char} (h : c = ',' ∨ c = ']' ∨ c = '}') (rest : Loose) :
    Closes (some c :: rest) := by
  intro c' more heq
  cases heq
  exact h

/-- An empty text is written without characters. -/
@[simp]
theorem asWritten_nil : asWritten [] = [] := rfl

/-- Characters are written one by one. -/
@[simp]
theorem asWritten_cons (c : Char) (cs : List Char) : asWritten (c :: cs) = some c :: asWritten cs := rfl

/-- Texts are written one after the other. -/
@[simp]
theorem asWritten_append (cs ds : List Char) : asWritten (cs ++ ds) = asWritten cs ++ asWritten ds :=
  List.map_append

/-- The reader takes all digits up to the end of a value. -/
theorem spanDigits_asWritten {ds : List Char} (hds : ∀ c ∈ ds, Text.isDigit c = true) {rest : Loose}
    (hrest : Closes rest) : spanDigits (asWritten ds ++ rest) = (ds, rest) := by
  induction ds with
  | nil =>
    cases rest with
    | nil => rfl
    | cons first more =>
      cases first with
      | none => rfl
      | some c =>
        have hc : Text.isDigit c = false := by
          rcases hrest c more rfl with rfl | rfl | rfl <;> rfl
        simp [spanDigits, hc]
  | cons c cs ih =>
    have hc := hds c List.mem_cons_self
    have hcs := ih fun d hd => hds d (List.mem_cons_of_mem c hd)
    simp [spanDigits, hc, hcs]

/-- No fraction is read where the value is closed. -/
theorem fraction?_of_closes {rest : Loose} (h : Closes rest) : fraction? rest = some ([], false, rest) := by
  unfold fraction?
  split
  · next more =>
    rcases h '.' more rfl with hpoint | hpoint | hpoint <;> cases hpoint
  · rfl

/-- No exponent is read where the value is closed. -/
theorem exponent?_of_closes {rest : Loose} (h : Closes rest) : exponent? rest = some (none, rest) := by
  unfold exponent?
  split
  · next c more =>
    have hc : ¬ (c = 'e' ∨ c = 'E') := by
      rcases h c more rfl with rfl | rfl | rfl <;> decide
    rw [if_neg hc]
  · rfl

/-- The numeral of an integer. -/
def numeralOf (n : Int) : Numeral := ⟨decide (n < 0), Text.decimal n.natAbs, [], none, false⟩

/-- The digits of a number are read up to where the value is closed. -/
theorem numeralAfterSign?_decimal (negative : Bool) (n : Nat) {rest : Loose} (h : Closes rest) :
    numeralAfterSign? negative (asWritten (Text.decimal n) ++ rest) =
      some (⟨negative, Text.decimal n, [], none, false⟩, rest) := by
  have hstart : ¬ (Text.decimal n = [] ∨
      (Text.decimal n).head? = some '0' ∧ 1 < (Text.decimal n).length) := by
    rintro (hnil | ⟨hzero, hlong⟩)
    · exact Text.decimal_ne_nil n hnil
    · by_cases hn : n = 0
      · rw [hn, Text.length_decimal_zero] at hlong
        omega
      · exact Text.head?_decimal hn hzero
  unfold numeralAfterSign?
  rw [spanDigits_asWritten (Text.isDigit_of_mem_decimal n) h]
  simp [hstart, fraction?_of_closes h, exponent?_of_closes h]

/-- An integer is written with a digit or a minus sign first. -/
theorem exists_decimalInt_eq (n : Int) :
    ∃ c cs, Text.decimalInt n = c :: cs ∧ (Text.isDigit c = true ∨ c = '-') := by
  unfold Text.decimalInt
  split
  · exact ⟨'-', _, rfl, .inr rfl⟩
  · cases hdigits : Text.decimal n.natAbs with
    | nil => exact absurd hdigits (Text.decimal_ne_nil _)
    | cons c cs =>
      refine ⟨c, cs, rfl, .inl (Text.isDigit_of_mem_decimal n.natAbs c ?_)⟩
      rw [hdigits]
      exact List.mem_cons_self

/-- The text of an integer is read as its sign and digits. -/
theorem numeral?_decimalInt (n : Int) {rest : Loose} (h : Closes rest) :
    numeral? (asWritten (Text.decimalInt n) ++ rest) = some (numeralOf n, rest) := by
  unfold Text.decimalInt numeralOf
  by_cases hn : n < 0
  · simp only [hn, if_true, decide_true]
    exact numeralAfterSign?_decimal true n.natAbs h
  · simp only [hn, if_false, decide_false]
    have hafter := numeralAfterSign?_decimal false n.natAbs h
    unfold numeral?
    split
    · next more hminus =>
      -- no digit is a minus sign
      cases hdigits : Text.decimal n.natAbs with
      | nil => exact absurd hdigits (Text.decimal_ne_nil _)
      | cons c cs =>
        have hc := Text.isDigit_of_mem_decimal n.natAbs c (by rw [hdigits]; exact List.mem_cons_self)
        rw [hdigits] at hminus
        cases hminus
        cases hc
    · exact hafter

/-- A character that starts an integer is none that starts another value. -/
theorem ne_of_startsInteger {c : Char} (h : Text.isDigit c = true ∨ c = '-') {d : Char}
    (hd : Text.isDigit d = false ∧ d ≠ '-') : c ≠ d := by
  rintro rfl
  rw [hd.1] at h
  simp [hd.2] at h

/-- No integer starts with a space. -/
theorem isSpace_of_startsInteger {c : Char} (h : Text.isDigit c = true ∨ c = '-') : isSpace c = false := by
  have hblank := ne_of_startsInteger h (d := ' ') (by decide)
  have htab := ne_of_startsInteger h (d := '\t') (by decide)
  have hfeed := ne_of_startsInteger h (d := '\n') (by decide)
  have hreturn := ne_of_startsInteger h (d := '\r') (by decide)
  simp [isSpace, hblank, htab, hfeed, hreturn]

/-- A value that starts like an integer is read as a numeral. -/
theorem value?_of_startsInteger {c : Char} (h : Text.isDigit c = true ∨ c = '-') (fuel : Nat)
    (more : Loose) :
    value? (fuel + 1) (some c :: more) =
      (numeral? (some c :: more)).map fun p => (.number p.1, p.2) := by
  rw [value?, skipSpace_cons (isSpace_of_startsInteger h)]
  split
  all_goals
    first
    | rfl
    | next heq =>
      exact absurd (Option.some.inj (List.cons.inj heq).1) (ne_of_startsInteger h (by decide))

/-- An integer that was written is read as a numeral. -/
theorem value?_decimalInt (n : Int) (fuel : Nat) {rest : Loose} (h : Closes rest) :
    value? (fuel + 1) (asWritten (Text.decimalInt n) ++ rest) =
      some (.number (numeralOf n), rest) := by
  have hnumeral := numeral?_decimalInt n h
  obtain ⟨c, cs, hwritten, hc⟩ := exists_decimalInt_eq n
  rw [hwritten] at hnumeral ⊢
  simp only [asWritten_cons, List.cons_append] at hnumeral ⊢
  rw [value?_of_startsInteger hc, hnumeral, Option.map_some]

/-- A numeral of an integer that fits denotes it. -/
theorem ofNumeral?_numeralOf {n : Int} (h : Fits n) : Number.ofNumeral? (numeralOf n) = some (.int n) := by
  obtain ⟨hleast, hgreatest⟩ := h
  simp only [Number.ofNumeral?, numeralOf, Text.decimalValue_decimal, Number.greatest]
  by_cases hn : n < 0
  · obtain ⟨m, rfl⟩ : ∃ m : Nat, n = -(m : Int) := ⟨n.natAbs, by omega⟩
    have hwhole : 0 < m ∧ m ≠ 0 ∧ m ≤ 9223372036854775808 := by omega
    simp [hwhole]
  · obtain ⟨m, rfl⟩ : ∃ m : Nat, n = (m : Int) := ⟨n.natAbs, by omega⟩
    have hwhole : m ≤ 18446744073709551615 := by omega
    simp [hwhole]

/-- An integer that a numeral denotes fits. -/
theorem fits_of_ofNumeral? {m : Numeral} {n : Int} (h : Number.ofNumeral? m = some (.int n)) : Fits n := by
  unfold Number.ofNumeral? Number.greatest at h
  simp only at h
  split at h
  · next hwhole =>
    simp only [Bool.and_eq_true, decide_eq_true_eq] at hwhole
    cases h
    unfold Fits
    omega
  · split at h
    · next hwhole =>
      simp only [Bool.and_eq_true, decide_eq_true_eq] at hwhole
      cases h
      unfold Fits
      omega
    · obtain ⟨f, -, hfloat⟩ := Option.map_eq_some_iff.mp h
      cases hfloat

end GatewayOperator.Json
