import Mathlib.Algebra.Group.Nat.Defs
import GatewayOperator.Text.Decimal

/-!
# Decimal digits

The digits of a number denote it. Digit texts of one length are in the order of the numbers that they denote,
whatever follows them, so numbers of at most so many digits that are filled up with zeros are in their own
order.
-/

set_option autoImplicit false

namespace GatewayOperator.Text

/-! ## Numbers that are read back -/

/-- Digits below ten are shown as decimal digits. -/
theorem isDigit_digitChar : ∀ d < 10, isDigit (digitChar d) = true := by decide

/-- A digit is read as it was shown. -/
theorem digitValue_digitChar : ∀ d < 10, digitValue (digitChar d) = d := by decide

/-- Only zero is shown as `0`. -/
theorem digitChar_ne_zero : ∀ d < 10, d ≠ 0 → digitChar d ≠ '0' := by decide

/-- The text of a number has digits only. -/
theorem isDigit_of_mem_decimal (n : Nat) : ∀ c ∈ decimal n, isDigit c = true := by
  fun_induction decimal n with
  | case1 n h =>
    intro c hc
    rw [List.mem_singleton.mp hc]
    exact isDigit_digitChar n h
  | case2 n h ih =>
    intro c hc
    rcases List.mem_append.mp hc with hc | hc
    · exact ih c hc
    · rw [List.mem_singleton.mp hc]
      exact isDigit_digitChar _ (Nat.mod_lt n (by decide))

/-- The text of a number is not empty. -/
theorem decimal_ne_nil (n : Nat) : decimal n ≠ [] := by
  unfold decimal
  split <;> simp

/-- The digits of a number denote it. -/
theorem decimalValue_decimal (n : Nat) : decimalValue (decimal n) = n := by
  fun_induction decimal n with
  | case1 n h => simp [decimalValue, digitValue_digitChar n h]
  | case2 n h ih =>
    have hlast := digitValue_digitChar (n % 10) (Nat.mod_lt n (by decide))
    simp only [decimalValue, List.foldl_append, List.foldl_cons, List.foldl_nil] at ih ⊢
    rw [ih, hlast]
    omega

/-- The digits of a positive number do not start with a zero. -/
theorem head?_decimal {n : Nat} (h : n ≠ 0) : (decimal n).head? ≠ some '0' := by
  fun_induction decimal n with
  | case1 n hn =>
    intro hzero
    exact digitChar_ne_zero n hn h (Option.some.inj hzero)
  | case2 n hn ih =>
    have hfirst : (decimal (n / 10) ++ [digitChar (n % 10)]).head? = (decimal (n / 10)).head? := by
      cases hdigits : decimal (n / 10) with
      | nil => exact absurd hdigits (decimal_ne_nil _)
      | cons c cs => rfl
    rw [hfirst]
    exact ih (by omega)

/-- Zero has one digit. -/
theorem length_decimal_zero : (decimal 0).length = 1 := by
  simp [decimal]

/-! ## Values of digit texts -/

/-- Digits read on from a value add to it, moved by as many places as they are. -/
theorem foldl_digitValue (n : Nat) (ds : List Char) :
    ds.foldl (fun n c => n * 10 + digitValue c) n = n * 10 ^ ds.length + decimalValue ds := by
  induction ds generalizing n with
  | nil => simp [decimalValue]
  | cons d ds ih =>
    have hrest := ih (digitValue d)
    simp only [decimalValue, List.foldl_cons, List.length_cons, Nat.zero_mul, Nat.zero_add] at ih hrest ⊢
    rw [ih, hrest, Nat.pow_succ, Nat.add_mul, Nat.mul_assoc, Nat.mul_comm 10, Nat.add_assoc]

/-- The first digit counts by its place. -/
theorem decimalValue_cons (c : Char) (cs : List Char) :
    decimalValue (c :: cs) = digitValue c * 10 ^ cs.length + decimalValue cs := by
  simpa [decimalValue] using foldl_digitValue (digitValue c) cs

/-- A digit is at most nine. -/
theorem digitValue_le {c : Char} (h : isDigit c = true) : digitValue c ≤ 9 := by
  simp only [isDigit, Bool.and_eq_true, decide_eq_true_eq] at h
  unfold digitValue
  omega

/-- Digits have a value below the power of ten of their length. -/
theorem decimalValue_lt {ds : List Char} (h : ∀ c ∈ ds, isDigit c = true) :
    decimalValue ds < 10 ^ ds.length := by
  induction ds with
  | nil => simp [decimalValue]
  | cons c cs ih =>
    obtain ⟨hc, hcs⟩ := List.forall_mem_cons.mp h
    have hrest := ih hcs
    have hfirst : digitValue c * 10 ^ cs.length ≤ 9 * 10 ^ cs.length :=
      Nat.mul_le_mul_right _ (digitValue_le hc)
    rw [decimalValue_cons, List.length_cons, Nat.pow_succ]
    omega

/-- Digits are in the order of their characters. -/
theorem digitValue_lt_iff {c d : Char} (hc : isDigit c = true) (hd : isDigit d = true) :
    digitValue c < digitValue d ↔ c < d := by
  simp only [isDigit, Bool.and_eq_true, decide_eq_true_eq] at hc hd
  have hcode : c < d ↔ c.toNat < d.toNat := Iff.rfl
  rw [hcode]
  unfold digitValue
  omega

/-- Digits of the same value are the same character. -/
theorem digitValue_eq_iff {c d : Char} (hc : isDigit c = true) (hd : isDigit d = true) :
    digitValue c = digitValue d ↔ c = d := by
  simp only [isDigit, Bool.and_eq_true, decide_eq_true_eq] at hc hd
  rw [← Char.toNat_inj]
  unfold digitValue
  omega

/-! ## Digit texts in order -/

/-- Digit texts of one length are in the order of their values, and where these are equal what follows
decides. -/
theorem digits_append_lt_iff {ds es : List Char} (hds : ∀ c ∈ ds, isDigit c = true)
    (hes : ∀ c ∈ es, isDigit c = true) (hlength : ds.length = es.length) (rest rest' : List Char) :
    ds ++ rest < es ++ rest' ↔
      decimalValue ds < decimalValue es ∨ decimalValue ds = decimalValue es ∧ rest < rest' := by
  induction ds generalizing es with
  | nil =>
    cases es with
    | nil => simp
    | cons e es => cases hlength
  | cons d ds ih =>
    cases es with
    | nil => cases hlength
    | cons e es =>
      obtain ⟨hd, hds⟩ := List.forall_mem_cons.mp hds
      obtain ⟨he, hes⟩ := List.forall_mem_cons.mp hes
      have hsame : ds.length = es.length := Nat.succ.inj hlength
      have hlow : decimalValue ds < 10 ^ es.length := by
        rw [← hsame]
        exact decimalValue_lt hds
      have hlow' := decimalValue_lt hes
      rw [List.cons_append, List.cons_append, List.cons_lt_cons_iff, ih hds hes hsame,
        ← digitValue_lt_iff hd he, ← digitValue_eq_iff hd he, decimalValue_cons, decimalValue_cons, hsame]
      -- the first digits decide unless they are the same
      rcases Nat.lt_trichotomy (digitValue d) (digitValue e) with hlt | heq | hgt
      · have hstep := Nat.mul_le_mul_right (10 ^ es.length) hlt
        rw [Nat.succ_mul] at hstep
        exact iff_of_true (.inl hlt) (.inl (by omega))
      · simp [heq]
      · have hstep := Nat.mul_le_mul_right (10 ^ es.length) hgt
        rw [Nat.succ_mul] at hstep
        omega

/-- Zeros in front are digits, too. -/
theorem isDigit_of_mem_padded (width n : Nat) : ∀ c ∈ padded width n, isDigit c = true := by
  intro c hc
  rcases List.mem_append.mp hc with hzero | hdigit
  · rw [(List.mem_replicate.mp hzero).2]
    rfl
  · exact isDigit_of_mem_decimal n c hdigit

/-- Zeros in front do not change the value. -/
theorem decimalValue_padded (width n : Nat) : decimalValue (padded width n) = n := by
  have hzeros (k : Nat) (ds : List Char) :
      decimalValue (List.replicate k '0' ++ ds) = decimalValue ds := by
    induction k with
    | zero => rfl
    | succ k ih =>
      rw [List.replicate_succ, List.cons_append, decimalValue_cons, ih]
      simp [digitValue]
  exact (hzeros _ _).trans (decimalValue_decimal n)

/-- A number below a power of ten has no more digits than its exponent says. -/
theorem length_decimal_le {width n : Nat} (hwidth : width ≠ 0) (h : n < 10 ^ width) :
    (decimal n).length ≤ width := by
  induction width generalizing n with
  | zero => exact absurd rfl hwidth
  | succ width ih =>
    unfold decimal
    split
    · simp
    · next hn =>
      have hmore : width ≠ 0 := by
        rintro rfl
        omega
      have hpart := ih hmore (n := n / 10) (by omega)
      rw [List.length_append, List.length_singleton]
      omega

/-- A number that fits a width takes up just that width. -/
theorem length_padded {width n : Nat} (hwidth : width ≠ 0) (h : n < 10 ^ width) :
    (padded width n).length = width := by
  have hle := length_decimal_le hwidth h
  simp only [padded, List.length_append, List.length_replicate]
  omega

/-- Numbers that are filled up to one length are in their own order, and where they are equal what follows
decides. -/
theorem padded_append_lt_iff {width m n : Nat} (hwidth : width ≠ 0) (hm : m < 10 ^ width)
    (hn : n < 10 ^ width) (rest rest' : List Char) :
    padded width m ++ rest < padded width n ++ rest' ↔ m < n ∨ m = n ∧ rest < rest' := by
  have hlength : (padded width m).length = (padded width n).length := by
    rw [length_padded hwidth hm, length_padded hwidth hn]
  rw [digits_append_lt_iff (isDigit_of_mem_padded width m) (isDigit_of_mem_padded width n) hlength,
    decimalValue_padded, decimalValue_padded]

end GatewayOperator.Text
