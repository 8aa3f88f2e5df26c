import GatewayOperator.Proofs.Text.Utf8
import GatewayOperator.Text.Cut

/-!
# Where a text is cut

Only the first byte of a character starts one, so the boundaries of a text lie between its characters and at its
ends. The search from the limit backwards passes over the bytes of the one character in which the limit falls, and
ends before it. So a text is cut to its longest prefix of whole characters within the limit, and since a character
takes at most four bytes, no more than three bytes of the limit are left over.
-/

set_option autoImplicit false

namespace GatewayOperator.Text

/-! ## Boundaries -/

section Boundaries

variable {front rest : List Char} {c : Char}

/-- The bytes of a character: one that starts it, and up to three that continue it. -/
theorem exists_utf8EncodeChar_eq (c : Char) : ∃ b more, String.utf8EncodeChar c = b :: more ∧
    isLeading b = true ∧ more.length ≤ 3 ∧ ∀ x ∈ more, isLeading x = false := by
  have hcontinues (n : Nat) : isLeading (UInt8.ofNat (n % 64 + 128)) = false := by
    rw [isLeading, Utf8.toNat_ofNat (by omega)]
    simp only [Bool.or_eq_false_iff, decide_eq_false_iff_not]
    omega
  have hstarts {n : Nat} (hn : n < 128 ∨ 192 ≤ n ∧ n < 256) : isLeading (UInt8.ofNat n) = true := by
    rw [isLeading, Utf8.toNat_ofNat (by omega)]
    simp only [Bool.or_eq_true, decide_eq_true_eq]
    omega
  unfold String.utf8EncodeChar
  generalize c.val.toNat = v
  dsimp only
  split
  · exact ⟨_, _, rfl, hstarts (by omega), by simp, by simp⟩
  split
  · refine ⟨_, _, rfl, hstarts (by omega), by simp, ?_⟩
    exact List.forall_mem_singleton.mpr (hcontinues _)
  split
  · refine ⟨_, _, rfl, hstarts (by omega), by simp, ?_⟩
    exact List.forall_mem_cons.mpr ⟨hcontinues _, List.forall_mem_singleton.mpr (hcontinues _)⟩
  · refine ⟨_, _, rfl, hstarts (by omega), by simp, ?_⟩
    exact List.forall_mem_cons.mpr
      ⟨hcontinues _, List.forall_mem_cons.mpr ⟨hcontinues _, List.forall_mem_singleton.mpr (hcontinues _)⟩⟩

/-- The byte of a text some way into one of its characters. -/
theorem getElem?_flatMap_utf8EncodeChar (front : List Char) (c : Char) (rest : List Char) {i : Nat}
    (hi : i < (String.utf8EncodeChar c).length) :
    ((front ++ c :: rest).flatMap String.utf8EncodeChar)[(front.flatMap String.utf8EncodeChar).length + i]? =
      (String.utf8EncodeChar c)[i]? := by
  rw [List.flatMap_append, List.flatMap_cons, List.getElem?_append_right (by omega), Nat.add_sub_cancel_left,
    List.getElem?_append_left hi]

/-- There is a boundary before each character. -/
theorem isBoundary_before (front : List Char) (c : Char) (rest : List Char) :
    isBoundary ((front ++ c :: rest).flatMap String.utf8EncodeChar)
      (front.flatMap String.utf8EncodeChar).length = true := by
  obtain ⟨b, more, hbytes, hb, -, -⟩ := exists_utf8EncodeChar_eq c
  have hfirst : 0 < (String.utf8EncodeChar c).length := by
    rw [hbytes]
    exact Nat.succ_pos _
  have hbyte := getElem?_flatMap_utf8EncodeChar front c rest hfirst
  rw [Nat.add_zero, hbytes, List.getElem?_cons_zero] at hbyte
  rw [isBoundary, hbyte]
  simp only [hb, Bool.or_true]

/-- There is no boundary inside of a character. -/
theorem isBoundary_inside {k : Nat} (hlow : (front.flatMap String.utf8EncodeChar).length < k)
    (hhigh : k < (front.flatMap String.utf8EncodeChar).length + (String.utf8EncodeChar c).length) :
    isBoundary ((front ++ c :: rest).flatMap String.utf8EncodeChar) k = false := by
  obtain ⟨b, more, hbytes, -, -, hmore⟩ := exists_utf8EncodeChar_eq c
  obtain ⟨i, rfl⟩ : ∃ i, k = (front.flatMap String.utf8EncodeChar).length + (i + 1) :=
    ⟨k - (front.flatMap String.utf8EncodeChar).length - 1, by omega⟩
  have hlater : i + 1 < (String.utf8EncodeChar c).length := by omega
  have hbyte := getElem?_flatMap_utf8EncodeChar front c rest hlater
  have hi : i < more.length := by
    rw [hbytes, List.length_cons] at hlater
    omega
  rw [hbytes, List.getElem?_cons_succ, List.getElem?_eq_getElem hi] at hbyte
  rw [isBoundary, hbyte]
  simp only [hmore _ (List.getElem_mem hi), Bool.or_false, decide_eq_false_iff_not]
  omega

/-- A text that is longer than a limit has a character in which the limit falls. -/
theorem exists_character_at {limit : Nat} {cs : List Char}
    (h : limit < (cs.flatMap String.utf8EncodeChar).length) :
    ∃ front c rest, cs = front ++ c :: rest ∧ (front.flatMap String.utf8EncodeChar).length ≤ limit ∧
      limit < (front.flatMap String.utf8EncodeChar).length + (String.utf8EncodeChar c).length := by
  induction cs generalizing limit with
  | nil => cases h
  | cons c cs ih =>
    by_cases hfirst : limit < (String.utf8EncodeChar c).length
    · exact ⟨[], c, cs, rfl, by simp, by simpa using hfirst⟩
    · rw [List.flatMap_cons, List.length_append] at h
      have hlater : limit - (String.utf8EncodeChar c).length < (cs.flatMap String.utf8EncodeChar).length := by omega
      obtain ⟨front, d, rest, rfl, hlow, hhigh⟩ := ih hlater
      refine ⟨c :: front, d, rest, rfl, ?_, ?_⟩ <;> rw [List.flatMap_cons, List.length_append] <;> omega

/-- The search from inside of a character ends before it. -/
theorem boundaryFrom?_eq {limit : Nat} (hlow : (front.flatMap String.utf8EncodeChar).length ≤ limit)
    (hhigh : limit < (front.flatMap String.utf8EncodeChar).length + (String.utf8EncodeChar c).length) :
    boundaryFrom? ((front ++ c :: rest).flatMap String.utf8EncodeChar) limit =
      some (front.flatMap String.utf8EncodeChar).length := by
  obtain ⟨stop, hstop, hle, hboundary, hnone⟩ :=
    exists_boundaryFrom? ((front ++ c :: rest).flatMap String.utf8EncodeChar) limit
  rw [hstop, Option.some.injEq]
  rcases Nat.lt_trichotomy stop (front.flatMap String.utf8EncodeChar).length with hlt | heq | hgt
  · -- the search would have passed over the boundary before the character
    have hpassed := hnone _ hlt hlow
    rw [isBoundary_before] at hpassed
    cases hpassed
  · exact heq
  · rw [isBoundary_inside hgt (by omega)] at hboundary
    cases hboundary

end Boundaries

/-! ## Cuts -/

/-- Whether a text is another one cut to a limit: the longest prefix of whole characters that takes no more
bytes. -/
structure IsCut (limit : Nat) (s t : String) : Prop where
  isPrefix : t.toList <+: s.toList
  fits : (utf8 t).length ≤ limit
  longest : ∀ u : String, u.toList <+: s.toList → (utf8 u).length ≤ limit → u.toList <+: t.toList

/-- A text that is not too long is left as it is. -/
theorem isCut_self {limit : Nat} {s : String} (h : (utf8 s).length ≤ limit) : IsCut limit s s :=
  ⟨List.prefix_rfl, h, fun _ hprefix _ => hprefix⟩

/-- What stands before the character in which the limit falls is the longest prefix within the limit. -/
theorem isCut_front {limit : Nat} {s : String} {front rest : List Char} {c : Char}
    (hs : s.toList = front ++ c :: rest) (hlow : (front.flatMap String.utf8EncodeChar).length ≤ limit)
    (hhigh : limit < (front.flatMap String.utf8EncodeChar).length + (String.utf8EncodeChar c).length) :
    IsCut limit s (String.ofList front) := by
  have hfront : front <+: s.toList := ⟨c :: rest, hs.symm⟩
  refine ⟨by rwa [String.toList_ofList], by rwa [utf8, String.toList_ofList], fun u hu hfits => ?_⟩
  rw [String.toList_ofList]
  rcases List.prefix_or_prefix_of_prefix hu hfront with hle | hge
  · exact hle
  · -- a longer prefix would take in the character as well
    obtain ⟨more, hmore⟩ := hge
    cases more with
    | nil =>
      rw [List.append_nil] at hmore
      exact hmore ▸ List.prefix_rfl
    | cons d more =>
      exfalso
      rw [← hmore, hs, List.prefix_append_right_inj] at hu
      obtain ⟨rfl, -⟩ := List.cons_prefix_cons.mp hu
      rw [utf8, ← hmore, List.flatMap_append, List.flatMap_cons, List.length_append, List.length_append] at hfits
      omega

/-- Every text can be cut, a text that is not too long is left as it is, and of one that is too long at most three
bytes less than the limit are kept. -/
theorem exists_cut? (limit : Nat) (s : String) :
    ∃ t, cut? limit s = some t ∧ IsCut limit s t ∧ ((utf8 s).length ≤ limit → t = s) ∧
      (limit < (utf8 s).length → limit ≤ (utf8 t).length + 3) := by
  by_cases h : limit < (utf8 s).length
  · obtain ⟨front, c, rest, hs, hlow, hhigh⟩ := exists_character_at h
    have hbytes : utf8 s = (front ++ c :: rest).flatMap String.utf8EncodeChar := by rw [utf8, hs]
    have hstart : (utf8 s).take (front.flatMap String.utf8EncodeChar).length = utf8 (String.ofList front) := by
      rw [hbytes, List.flatMap_append, List.take_left, utf8, String.toList_ofList]
    have hcut : cut? limit s = some (String.ofList front) := by
      have hstop : boundaryFrom? (utf8 s) limit = some (front.flatMap String.utf8EncodeChar).length := by
        rw [hbytes]
        exact boundaryFrom?_eq hlow hhigh
      have hboundary : isBoundary (utf8 s) (front.flatMap String.utf8EncodeChar).length = true := by
        rw [hbytes]
        exact isBoundary_before front c rest
      rw [cut?, if_pos h, hstop, Option.bind_some, truncate?, if_neg (by omega), if_pos hboundary, hstart,
        Utf8.readLossy_utf8]
    refine ⟨_, hcut, isCut_front hs hlow hhigh, fun hshort => absurd h (by omega), fun _ => ?_⟩
    obtain ⟨b, more, hc, -, hmore, -⟩ := exists_utf8EncodeChar_eq c
    rw [hc, List.length_cons] at hhigh
    rw [utf8, String.toList_ofList]
    omega
  · exact ⟨s, if_neg h, isCut_self (by omega), fun _ => rfl, fun hlong => absurd hlong h⟩

end GatewayOperator.Text
