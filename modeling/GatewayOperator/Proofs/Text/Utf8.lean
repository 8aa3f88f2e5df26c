import GatewayOperator.Text.Utf8

/-!
# Reading back UTF-8

What is written as UTF-8 is read back, character by character: the bytes of a character complete exactly this
character, and no byte of them is left over or missed. And nothing else can be read: bytes that are read without a
hole are those of the text that is read.
-/

set_option autoImplicit false

namespace GatewayOperator.Text

open Utf8

namespace Utf8

/-! ## Bytes -/

/-- A number below 256 is the value of its byte. -/
theorem toNat_ofNat {n : Nat} (h : n < 256) : (UInt8.ofNat n).toNat = n := by
  rw [UInt8.toNat_ofNat']
  exact Nat.mod_eq_of_lt h

/-- A first byte that announces more leaves the reader inside of a character. -/
theorem readAfter_first {n : Nat} (hn : n < 256) {p : Partial} (h : Step.first n = .more p) (rest : List UInt8) :
    readAfter none (UInt8.ofNat n :: rest) = readAfter (some p) rest := by
  rw [readAfter, toNat_ofNat hn, h]

/-- A byte in the range leaves a character that owes one byte less. -/
theorem readAfter_next {p : Partial} {n : Nat} (hn : n < 64) (hleast : p.least ≤ n + 128)
    (hgreatest : n + 128 ≤ p.greatest) (howed : 2 ≤ p.owed) (rest : List UInt8) :
    readAfter (some p) (UInt8.ofNat (n + 128) :: rest) =
      readAfter (some ⟨p.bits * 64 + n, p.owed - 1, 0x80, 0xBF⟩) rest := by
  have hpush : p.push (n + 128) = some (.more ⟨p.bits * 64 + n, p.owed - 1, 0x80, 0xBF⟩) := by
    have hmore : ¬ p.owed ≤ 1 := by omega
    simp only [Partial.push, if_pos (And.intro hleast hgreatest), if_neg hmore, Nat.add_sub_cancel]
  rw [readAfter, toNat_ofNat (by omega), hpush]

/-- A byte in the range completes a character that owes no other. -/
theorem readAfter_last {p : Partial} {n : Nat} (hn : n < 64) (hleast : p.least ≤ n + 128)
    (hgreatest : n + 128 ≤ p.greatest) (howed : p.owed = 1) (rest : List UInt8) :
    readAfter (some p) (UInt8.ofNat (n + 128) :: rest) =
      some (Char.ofNat (p.bits * 64 + n)) :: readAfter none rest := by
  have hpush : p.push (n + 128) = some (.complete (Char.ofNat (p.bits * 64 + n))) := by
    have hlast : p.owed ≤ 1 := by omega
    simp only [Partial.push, if_pos (And.intro hleast hgreatest), if_pos hlast, Nat.add_sub_cancel]
  rw [readAfter, toNat_ofNat (by omega), hpush]

/-- The byte that starts a character of two bytes. -/
theorem first_of_two {n : Nat} (hleast : 2 ≤ n) (hgreatest : n < 32) :
    Step.first (n + 192) = .more ⟨n, 1, 0x80, 0xBF⟩ := by
  rw [Step.first, if_neg (by omega), if_neg (by omega), if_pos (by omega), Nat.add_sub_cancel]

/-- The byte that starts a character of three bytes, whose second one leaves out overlong forms and surrogates. -/
theorem first_of_three {n : Nat} (hgreatest : n < 16) :
    Step.first (n + 224) = .more ⟨n, 2, if n = 0 then 0xA0 else 0x80, if n = 13 then 0x9F else 0xBF⟩ := by
  have hcases : n = 0 ∨ n = 13 ∨ (n ≠ 0 ∧ n ≠ 13) := by omega
  rcases hcases with rfl | rfl | ⟨hzero, hthirteen⟩
  · rfl
  · rfl
  · rw [Step.first, if_neg (by omega), if_neg (by omega), if_neg (by omega), if_neg (by omega), if_neg (by omega),
      if_pos (by omega), Nat.add_sub_cancel, if_neg hzero, if_neg hthirteen]

/-- The byte that starts a character of four bytes, whose second one leaves out overlong forms and what is too
great. -/
theorem first_of_four {n : Nat} (hgreatest : n ≤ 4) :
    Step.first (n + 240) = .more ⟨n, 3, if n = 0 then 0x90 else 0x80, if n = 4 then 0x8F else 0xBF⟩ := by
  have hcases : n = 0 ∨ n = 1 ∨ n = 2 ∨ n = 3 ∨ n = 4 := by omega
  rcases hcases with rfl | rfl | rfl | rfl | rfl <;> rfl

/-- The bytes of a character are read back as this character. -/
theorem readAfter_utf8EncodeChar (c : Char) (rest : List UInt8) :
    readAfter none (String.utf8EncodeChar c ++ rest) = some c :: readAfter none rest := by
  have hvalid : c.val.toNat < 0xD800 ∨ (0xDFFF < c.val.toNat ∧ c.val.toNat < 0x110000) := c.valid
  have hofNat : Char.ofNat c.val.toNat = c := Char.ofNat_toNat c
  unfold String.utf8EncodeChar
  generalize c.val.toNat = v at hvalid hofNat
  subst hofNat
  dsimp only
  by_cases hone : v ≤ 127
  · rw [if_pos hone, List.singleton_append, readAfter, toNat_ofNat (by omega), Step.first, if_pos (by omega)]
  rw [if_neg hone]
  by_cases htwo : v ≤ 2047
  · rw [if_pos htwo, List.cons_append, readAfter_first (by omega) (first_of_two (by omega) (by omega)),
      List.singleton_append, readAfter_last (by omega) (by simp) (by dsimp only; omega) rfl]
    congr 3
    dsimp only
    omega
  rw [if_neg htwo]
  by_cases hthree : v ≤ 65535
  · rw [if_pos hthree, List.cons_append, readAfter_first (by omega) (first_of_three (by omega)), List.cons_append,
      readAfter_next (by omega) (by dsimp only; split <;> omega) (by dsimp only; split <;> omega) (by simp),
      List.singleton_append, readAfter_last (by omega) (by simp) (by dsimp only; omega) rfl]
    congr 3
    dsimp only
    omega
  · rw [if_neg hthree, List.cons_append, readAfter_first (by omega) (first_of_four (by omega)), List.cons_append,
      readAfter_next (by omega) (by dsimp only; split <;> omega) (by dsimp only; split <;> omega) (by simp),
      List.cons_append, readAfter_next (by omega) (by simp) (by dsimp only; omega) (by simp),
      List.singleton_append, readAfter_last (by omega) (by simp) (by dsimp only; omega) rfl]
    congr 3
    dsimp only
    omega

/-- The bytes of a text are read back without a hole. -/
theorem readLoose_utf8 (s : String) : readLoose (utf8 s) = s.toList.map some := by
  unfold readLoose utf8
  induction s.toList with
  | nil => rfl
  | cons c cs ih => rw [List.flatMap_cons, readAfter_utf8EncodeChar, ih, List.map_cons]

/-- Nothing is lost of bytes that were written from a text. -/
theorem readLossy_utf8 (s : String) : readLossy (utf8 s) = s := by
  rw [readLossy, readLoose_utf8, List.map_map]
  exact (congrArg String.ofList (List.map_id s.toList)).trans String.ofList_toList

/-! ## What can be read -/

variable {rest : List UInt8} {cs : List Char}

/-- A code point outside the surrogates is the value of its character. -/
theorem toNat_val_ofNat {v : Nat} (h : v < 0xD800 ∨ (0xDFFF < v ∧ v < 0x110000)) :
    (Char.ofNat v).val.toNat = v := by
  rw [Char.ofNat, dif_pos h]
  rfl

/-- A character that owes a byte is only completed by one in the range. -/
theorem exists_push {p : Partial} (hleast : 0x80 ≤ p.least) (hgreatest : p.greatest ≤ 0xBF)
    (h : readAfter (some p) rest = cs.map some) :
    ∃ n < 64, ∃ more, rest = UInt8.ofNat (n + 128) :: more ∧ p.least ≤ n + 128 ∧ n + 128 ≤ p.greatest := by
  cases rest with
  | nil =>
    cases cs with
    | nil => simp [readAfter] at h
    | cons c cs => simp [readAfter] at h
  | cons b more =>
    by_cases hrange : p.least ≤ b.toNat ∧ b.toNat ≤ p.greatest
    · refine ⟨b.toNat - 128, by omega, more, ?_, by omega, by omega⟩
      rw [Nat.sub_add_cancel (by omega), UInt8.ofNat_toNat]
    · -- a byte out of the range leaves a hole
      have hpush : p.push b.toNat = none := if_neg hrange
      rw [readAfter, hpush] at h
      cases cs with
      | nil => cases hfirst : Step.first b.toNat <;> simp [hfirst] at h
      | cons c cs => cases hfirst : Step.first b.toNat <;> simp [hfirst] at h

/-- Where at least two bytes are owed, good reading goes on with one in range. -/
theorem exists_next {p : Partial} (hleast : 0x80 ≤ p.least) (hgreatest : p.greatest ≤ 0xBF)
    (howed : 2 ≤ p.owed) (h : readAfter (some p) rest = cs.map some) :
    ∃ n < 64, ∃ more, rest = UInt8.ofNat (n + 128) :: more ∧ p.least ≤ n + 128 ∧ n + 128 ≤ p.greatest ∧
      readAfter (some ⟨p.bits * 64 + n, p.owed - 1, 0x80, 0xBF⟩) more = cs.map some := by
  obtain ⟨n, hn, more, rfl, hl, hg⟩ := exists_push hleast hgreatest h
  rw [readAfter_next hn hl hg howed] at h
  exact ⟨n, hn, more, rfl, hl, hg, h⟩

/-- Where one byte is owed, good reading goes on with one in range, which completes the character. -/
theorem exists_last {p : Partial} (hleast : 0x80 ≤ p.least) (hgreatest : p.greatest ≤ 0xBF)
    (howed : p.owed = 1) (h : readAfter (some p) rest = cs.map some) :
    ∃ n < 64, ∃ more, rest = UInt8.ofNat (n + 128) :: more ∧ p.least ≤ n + 128 ∧ n + 128 ≤ p.greatest ∧
      ∃ others, cs = Char.ofNat (p.bits * 64 + n) :: others ∧ readAfter none more = others.map some := by
  obtain ⟨n, hn, more, rfl, hl, hg⟩ := exists_push hleast hgreatest h
  rw [readAfter_last hn hl hg howed] at h
  cases cs with
  | nil => cases h
  | cons c others =>
    rw [List.map_cons, List.cons.injEq, Option.some.injEq] at h
    exact ⟨n, hn, more, rfl, hl, hg, others, by rw [h.1], h.2⟩

/-- How a byte can start a character. -/
theorem first_cases {n : Nat} (hn : n < 256) :
    (n < 128 ∧ Step.first n = .complete (Char.ofNat n)) ∨ Step.first n = .stray ∨
      (∃ m, 2 ≤ m ∧ m < 32 ∧ n = m + 192) ∨ (∃ m < 16, n = m + 224) ∨ ∃ m ≤ 4, n = m + 240 := by
  unfold Step.first
  by_cases hascii : n < 128
  · exact .inl ⟨hascii, if_pos hascii⟩
  by_cases htwo : 194 ≤ n ∧ n < 224
  · exact .inr (.inr (.inl ⟨n - 192, by omega, by omega, by omega⟩))
  by_cases hthree : 224 ≤ n ∧ n < 240
  · exact .inr (.inr (.inr (.inl ⟨n - 224, by omega, by omega⟩)))
  by_cases hfour : 240 ≤ n ∧ n ≤ 244
  · exact .inr (.inr (.inr (.inr ⟨n - 240, by omega, by omega⟩)))
  · right
    left
    rw [if_neg hascii]
    by_cases hlow : n < 194
    · rw [if_pos hlow]
    · rw [if_neg hlow, if_neg (by omega), if_neg (by omega), if_neg (by omega), if_neg (by omega),
        if_neg (by omega), if_neg (by omega), if_neg (by omega)]

/-- A character of one byte is written as its code point. -/
theorem utf8EncodeChar_of_one {v : Nat} (h : v < 128) : String.utf8EncodeChar (Char.ofNat v) = [UInt8.ofNat v] := by
  unfold String.utf8EncodeChar
  rw [toNat_val_ofNat (by omega)]
  dsimp only
  rw [if_pos (by omega)]

/-- A character of two bytes is written as two groups of its bits. -/
theorem utf8EncodeChar_of_two {m n : Nat} (hleast : 2 ≤ m) (hgreatest : m < 32) (hn : n < 64) :
    String.utf8EncodeChar (Char.ofNat (m * 64 + n)) = [UInt8.ofNat (m + 192), UInt8.ofNat (n + 128)] := by
  have hfirst : (m * 64 + n) / 64 % 32 = m := by omega
  have hsecond : (m * 64 + n) % 64 = n := by omega
  unfold String.utf8EncodeChar
  rw [toNat_val_ofNat (by omega)]
  dsimp only
  rw [if_neg (by omega), if_pos (by omega), hfirst, hsecond]

/-- A character of three bytes is written as three groups of its bits. -/
theorem utf8EncodeChar_of_three {m n k : Nat} (hm : m < 16) (hn : n < 64) (hk : k < 64)
    (hleast : m = 0 → 32 ≤ n) (hgreatest : m = 13 → n < 32) :
    String.utf8EncodeChar (Char.ofNat ((m * 64 + n) * 64 + k)) =
      [UInt8.ofNat (m + 224), UInt8.ofNat (n + 128), UInt8.ofNat (k + 128)] := by
  have hfirst : ((m * 64 + n) * 64 + k) / 4096 % 16 = m := by omega
  have hsecond : ((m * 64 + n) * 64 + k) / 64 % 64 = n := by omega
  have hthird : ((m * 64 + n) * 64 + k) % 64 = k := by omega
  unfold String.utf8EncodeChar
  rw [toNat_val_ofNat (by omega)]
  dsimp only
  rw [if_neg (by omega), if_neg (by omega), if_pos (by omega), hfirst, hsecond, hthird]

/-- A character of four bytes is written as four groups of its bits. -/
theorem utf8EncodeChar_of_four {m n k l : Nat} (hm : m ≤ 4) (hn : n < 64) (hk : k < 64) (hl : l < 64)
    (hleast : m = 0 → 16 ≤ n) (hgreatest : m = 4 → n < 16) :
    String.utf8EncodeChar (Char.ofNat (((m * 64 + n) * 64 + k) * 64 + l)) =
      [UInt8.ofNat (m + 240), UInt8.ofNat (n + 128), UInt8.ofNat (k + 128), UInt8.ofNat (l + 128)] := by
  have hfirst : (((m * 64 + n) * 64 + k) * 64 + l) / 262144 % 8 = m := by omega
  have hsecond : (((m * 64 + n) * 64 + k) * 64 + l) / 4096 % 64 = n := by omega
  have hthird : (((m * 64 + n) * 64 + k) * 64 + l) / 64 % 64 = k := by omega
  have hfourth : (((m * 64 + n) * 64 + k) * 64 + l) % 64 = l := by omega
  unfold String.utf8EncodeChar
  rw [toNat_val_ofNat (by omega)]
  dsimp only
  rw [if_neg (by omega), if_neg (by omega), if_neg (by omega), hfirst, hsecond, hthird, hfourth]

/-- Bytes that are read without a hole start with those of the first character that is read. -/
theorem exists_character {b : UInt8} (h : readAfter none (b :: rest) = cs.map some) :
    ∃ c others more, cs = c :: others ∧ b :: rest = String.utf8EncodeChar c ++ more ∧
      readAfter none more = others.map some := by
  have hb : b = UInt8.ofNat b.toNat := UInt8.ofNat_toNat.symm
  rcases first_cases b.toNat_lt with ⟨hone, hfirst⟩ | hfirst | ⟨m, hleast, hgreatest, htwo⟩ | ⟨m, hm, hthree⟩ |
    ⟨m, hm, hfour⟩
  · rw [readAfter, hfirst] at h
    cases cs with
    | nil => cases h
    | cons c others =>
      rw [List.map_cons, List.cons.injEq, Option.some.injEq] at h
      refine ⟨c, others, rest, rfl, ?_, h.2⟩
      rw [← h.1, utf8EncodeChar_of_one hone, ← hb, List.singleton_append]
  · rw [readAfter, hfirst] at h
    cases cs <;> simp at h
  · rw [hb, htwo, readAfter_first (by omega) (first_of_two hleast hgreatest)] at h
    obtain ⟨n, hn, more, rfl, -, -, others, rfl, hmore⟩ := exists_last (by simp) (by simp) rfl h
    refine ⟨_, others, more, rfl, ?_, hmore⟩
    rw [utf8EncodeChar_of_two hleast hgreatest hn, hb, htwo]
    rfl
  · rw [hb, hthree, readAfter_first (by omega) (first_of_three hm)] at h
    obtain ⟨n, hn, more, rfl, hl, hg, h⟩ := exists_next (by dsimp only; split <;> omega)
      (by dsimp only; split <;> omega) (by simp) h
    obtain ⟨k, hk, more, rfl, -, -, others, rfl, hmore⟩ := exists_last (by simp) (by simp) rfl h
    refine ⟨_, others, more, rfl, ?_, hmore⟩
    dsimp only at hl hg
    rw [utf8EncodeChar_of_three hm hn hk (by intro hzero; rw [if_pos hzero] at hl; omega)
      (by intro hthirteen; rw [if_pos hthirteen] at hg; omega), hb, hthree]
    rfl
  · rw [hb, hfour, readAfter_first (by omega) (first_of_four hm)] at h
    obtain ⟨n, hn, more, rfl, hl, hg, h⟩ := exists_next (by dsimp only; split <;> omega)
      (by dsimp only; split <;> omega) (by simp) h
    obtain ⟨k, hk, more, rfl, -, -, h⟩ := exists_next (by simp) (by simp) (by simp) h
    obtain ⟨l, hl', more, rfl, -, -, others, rfl, hmore⟩ := exists_last (by simp) (by simp) rfl h
    refine ⟨_, others, more, rfl, ?_, hmore⟩
    dsimp only at hl hg
    rw [utf8EncodeChar_of_four hm hn hk hl' (by intro hzero; rw [if_pos hzero] at hl; omega)
      (by intro hfourth; rw [if_pos hfourth] at hg; omega), hb, hfour]
    rfl

/-- Bytes that are read without a hole are those of the characters that are read. -/
theorem eq_of_readAfter {bytes : List UInt8} (h : readAfter none bytes = cs.map some) :
    bytes = cs.flatMap String.utf8EncodeChar := by
  induction cs generalizing bytes with
  | nil =>
    cases bytes with
    | nil => rfl
    | cons b rest =>
      obtain ⟨c, others, more, hcs, -⟩ := exists_character h
      cases hcs
  | cons c cs ih =>
    cases bytes with
    | nil => cases h
    | cons b rest =>
      obtain ⟨first, others, more, hcs, hbytes, hmore⟩ := exists_character h
      obtain ⟨rfl, rfl⟩ := List.cons.inj hcs
      rw [hbytes, List.flatMap_cons, ih hmore]

/-- Strict reading succeeds if loose reading has no gaps. -/
theorem mapM_id_eq_some_iff {loose : List (Option Char)} : loose.mapM id = some cs ↔ loose = cs.map some := by
  induction loose generalizing cs with
  | nil => cases cs <;> simp
  | cons o loose ih =>
    cases o with
    | none => cases cs <;> simp
    | some c =>
      rw [List.mapM_cons]
      cases hrest : loose.mapM id with
      | none =>
        cases cs with
        | nil => simp
        | cons d ds =>
          have hnot : loose ≠ ds.map some := by
            intro heq
            rw [ih.mpr heq] at hrest
            cases hrest
          simp [hnot]
      | some ds =>
        have hds : loose = ds.map some := ih.mp hrest
        subst hds
        cases cs with
        | nil => simp
        | cons d es => simp [List.map_inj_right]

/-- A text is read from its bytes and from no others. -/
theorem read?_eq_some_iff {bytes : List UInt8} {s : String} : read? bytes = some s ↔ bytes = utf8 s := by
  constructor
  · intro h
    obtain ⟨cs, hcs, rfl⟩ := Option.map_eq_some_iff.mp h
    rw [utf8, String.toList_ofList]
    exact eq_of_readAfter (mapM_id_eq_some_iff.mp hcs)
  · rintro rfl
    rw [read?, readLoose_utf8, mapM_id_eq_some_iff.mpr rfl, Option.map_some, String.ofList_toList]

/-- Bytes cannot be read exactly if no text is written so. -/
theorem read?_eq_none_iff {bytes : List UInt8} : read? bytes = none ↔ ∀ s, bytes ≠ utf8 s := by
  simp only [Option.eq_none_iff_forall_ne_some, ne_eq, read?_eq_some_iff]

end Utf8

/-- Different texts have different bytes. -/
theorem utf8_injective {s t : String} (h : utf8 s = utf8 t) : s = t := by
  rw [← readLossy_utf8 s, h, readLossy_utf8]

/-- Lists of characters that are written alike are equal. -/
theorem flatMap_utf8EncodeChar_injective {cs ds : List Char}
    (h : cs.flatMap String.utf8EncodeChar = ds.flatMap String.utf8EncodeChar) : cs = ds := by
  refine String.ofList_injective (utf8_injective ?_)
  rw [utf8, utf8, String.toList_ofList, String.toList_ofList, h]

/-- The greatest byte is in no character. -/
theorem ne_of_mem_utf8EncodeChar (c : Char) : ∀ b ∈ String.utf8EncodeChar c, b ≠ 0xFF := by
  have hother {n : Nat} (hn : n < 0xFF) : UInt8.ofNat n ≠ 0xFF := by
    intro heq
    have hnat : (UInt8.ofNat n).toNat = 0xFF := congrArg UInt8.toNat heq
    rw [toNat_ofNat (by omega)] at hnat
    omega
  unfold String.utf8EncodeChar
  generalize c.val.toNat = v
  dsimp only
  split
  · exact List.forall_mem_singleton.mpr (hother (by omega))
  split
  · exact List.forall_mem_cons.mpr ⟨hother (by omega), List.forall_mem_singleton.mpr (hother (by omega))⟩
  split <;> simp only [List.forall_mem_cons, List.not_mem_nil, false_implies, implies_true, and_true]
  · exact ⟨hother (by omega), hother (by omega), hother (by omega)⟩
  · exact ⟨hother (by omega), hother (by omega), hother (by omega), hother (by omega)⟩

/-- The greatest byte is in no text. -/
theorem not_mem_utf8 (s : String) : (0xFF : UInt8) ∉ utf8 s := by
  intro hmem
  obtain ⟨c, -, hbyte⟩ := List.mem_flatMap.mp hmem
  exact ne_of_mem_utf8EncodeChar c _ hbyte rfl

end GatewayOperator.Text
