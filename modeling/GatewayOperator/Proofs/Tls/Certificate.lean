import GatewayOperator.Tls.Certificate
import Mathlib.Data.Option.Basic

/-!
# Certificates that end early or late

Bytes that are not cut are read alike whatever follows them. A certificate therefore stays one if more bytes
follow it, and if any of its last bytes are missing, the fault that is named is that it is truncated, not a part
of it that has become unreadable.
-/

set_option autoImplicit false

namespace GatewayOperator.Tls

namespace Der

variable {bytes back : List UInt8}

/-- What was read, with more bytes behind what follows it. -/
def extended {α : Type} (back : List UInt8) (r : α × List UInt8) : α × List UInt8 := (r.1, r.2 ++ back)

/-- A long tag reads the same with more bytes behind it, as long as it did not run out of bytes. -/
theorem readLongTag?_append (back : List UInt8) {left number : Nat}
    (h : readLongTag? left number bytes = none → left ≤ bytes.length) :
    readLongTag? left number (bytes ++ back) = (readLongTag? left number bytes).map (extended back) := by
  induction left generalizing number bytes with
  | zero => rfl
  | succ left ih =>
    cases bytes with
    | nil => exact absurd (h rfl) (Nat.not_succ_le_zero left)
    | cons b rest =>
      simp only [readLongTag?, List.cons_append] at h ⊢
      split
      · rfl
      · next hmore =>
        rw [if_neg hmore] at h
        exact ih fun hnone => Nat.le_of_succ_le_succ (h hnone)

/-- A tag reads the same with more bytes behind it, as long as it did not run out of bytes. -/
theorem readTag?_append (back : List UInt8) (h : readTag? bytes = none → greatestTagLength < bytes.length) :
    readTag? (bytes ++ back) = (readTag? bytes).map fun t => (t.1, extended back t.2) := by
  cases bytes with
  | nil => exact absurd (h rfl) (Nat.not_lt_zero _)
  | cons b rest =>
    simp only [readTag?, List.cons_append] at h ⊢
    split
    · next hlong =>
      rw [if_pos hlong] at h
      rw [readLongTag?_append back fun hnone => Nat.le_of_lt_succ (h (Option.map_eq_none_iff.mpr hnone)),
        Option.map_map, Option.map_map]
      rfl
    · rfl

/-- A length reads the same with more bytes behind it, as long as it was not cut. -/
theorem readLength?_append (back : List UInt8) (h : readLength? bytes = none → isLengthCut bytes = false) :
    readLength? (bytes ++ back) = (readLength? bytes).map (extended back) := by
  cases bytes with
  | nil => cases h rfl
  | cons b rest =>
    simp only [readLength?, isLengthCut, List.cons_append] at h ⊢
    by_cases hshort : b.toNat < 128
    · simp only [if_pos hshort, Option.map_some, extended]
    · simp only [if_neg hshort] at h ⊢
      by_cases hreserved : b.toNat = 128 ∨ b.toNat = 255
      · have hbad (more : List UInt8) : b.toNat = 128 ∨ b.toNat = 255 ∨ more.length < b.toNat - 128 :=
          hreserved.imp_right .inl
        rw [if_pos (hbad _), if_pos (hbad _)]
        rfl
      · have hle : b.toNat - 128 ≤ rest.length := by
          by_contra hlt
          have hcut := h (if_pos (.inr (.inr (Nat.lt_of_not_le hlt))))
          have hbound := b.toNat_lt
          simp only [Bool.and_eq_false_iff, decide_eq_false_iff_not] at hcut
          omega
        have hgood (more : List UInt8) (hmore : b.toNat - 128 ≤ more.length) :
            ¬ (b.toNat = 128 ∨ b.toNat = 255 ∨ more.length < b.toNat - 128) := by omega
        rw [if_neg (hgood rest hle), if_neg (hgood (rest ++ back) (by simp only [List.length_append]; omega)),
          List.take_append_of_le_length hle, List.drop_append_of_le_length hle]
        by_cases hfits : valueOf (rest.take (b.toNat - 128)) ≤ greatestLength
        · simp only [if_pos hfits, Option.map_some, extended]
        · simp only [if_neg hfits, Option.map_none]

/-- Bytes that are not cut are read alike whatever follows them. -/
theorem read?_append (back : List UInt8) (h : isCut bytes = false) :
    read? (bytes ++ back) = (read? bytes).map (extended back) := by
  unfold isCut at h
  unfold read? readHeader?
  rw [readTag?_append back fun hnone => by simpa [hnone] using h]
  cases htag : readTag? bytes with
  | none => rfl
  | some t =>
    simp only [htag] at h
    have hlength : readLength? (t.2.2 ++ back) = (readLength? t.2.2).map (extended back) :=
      readLength?_append back fun hnone => by simpa only [hnone] using h
    cases hread : readLength? t.2.2 with
    | none => simp only [Option.map_some, Option.bind_some, extended, hlength, hread, Option.map_none, Option.bind_none]
    | some l =>
      simp only [hread, decide_eq_false_iff_not, Nat.not_lt] at h
      have hle : l.1 ≤ (l.2 ++ back).length := by
        rw [List.length_append]
        exact Nat.le_add_right_of_le h
      simp only [Option.map_some, Option.bind_some, extended, hlength, hread, if_pos h, if_pos hle,
        List.take_append_of_le_length h, List.drop_append_of_le_length h]

/-- No element is read from bytes that end before it does. -/
theorem read?_of_isCut (h : isCut bytes = true) : read? bytes = none := by
  unfold isCut at h
  unfold read? readHeader?
  cases htag : readTag? bytes with
  | none => rfl
  | some t =>
    simp only [htag] at h
    cases hread : readLength? t.2.2 with
    | none => simp only [Option.bind_some, hread, Option.map_none, Option.bind_none]
    | some l =>
      simp only [hread, decide_eq_true_eq] at h
      simp only [Option.bind_some, hread, Option.map_some, if_neg (Nat.not_le_of_lt h)]

/-- An element that is read is read alike whatever follows it. -/
theorem read?_append_of_eq_some (back : List UInt8) {r : Element × List UInt8} (h : read? bytes = some r) :
    read? (bytes ++ back) = some (extended back r) := by
  have hwhole : isCut bytes = false := by
    by_contra hcut
    cases h.symm.trans (read?_of_isCut (eq_true_of_ne_false hcut))
  rw [read?_append back hwhole, h]
  rfl

/-- Bytes from which the end of an element is missing are cut. -/
theorem isCut_of_read?_append {r : Element × List UInt8} (h : read? (bytes ++ back) = some r)
    (hmissing : r.2.length < back.length) : isCut bytes = true := by
  by_contra hwhole
  rw [read?_append back (eq_false_of_ne_true hwhole)] at h
  obtain ⟨s, -, rfl⟩ := Option.map_eq_some_iff.mp h
  simp only [extended, List.length_append] at hmissing
  omega

end Der

namespace Certificate

open Der

variable {bytes back : List UInt8}

/-- A part that is read is there. -/
theorem due_eq_ok_iff {α : Type} {part : Part} {read? : List UInt8 → Option α} {r : α} :
    due part read? bytes = .ok r ↔ read? bytes = some r := by
  unfold due
  cases read? bytes with
  | none => simp
  | some s => simp

/-- A sequence that is read is read alike whatever follows it. -/
theorem sequence?_append (back : List UInt8) {r : List UInt8 × List UInt8} (h : sequence? bytes = some r) :
    sequence? (bytes ++ back) = some (extended back r) := by
  obtain ⟨e, he, rfl⟩ := Option.map_eq_some_iff.mp h
  obtain ⟨s, hs, hfits⟩ := Option.bind_eq_some_iff.mp he
  split at hfits
  · next hnumber =>
    cases hfits
    rw [sequence?, expect?, read?_append_of_eq_some back hs, Option.bind_some,
      if_pos (show (extended back e).1.tag.number = sequenceTag from hnumber)]
    rfl
  · cases hfits

/-- Whatever follows a certificate, the bytes start with one. -/
theorem read_append (back : List UInt8) (h : read bytes = .ok ()) : read (bytes ++ back) = .ok () := by
  unfold read at h ⊢
  cases houter : due .outline sequence? bytes with
  | error fault =>
    simp only [houter, bind, Except.bind] at h
    cases h
  | ok r =>
    rw [houter] at h
    rw [due_eq_ok_iff.mpr (sequence?_append back (due_eq_ok_iff.mp houter))]
    exact h

/-- A certificate whose last bytes are missing is truncated, wherever it was cut. -/
theorem read_of_missing {r : List UInt8 × List UInt8} (h : sequence? (bytes ++ back) = some r)
    (hmissing : r.2.length < back.length) : read bytes = .error .truncated := by
  obtain ⟨e, he, rfl⟩ := Option.map_eq_some_iff.mp h
  obtain ⟨s, hs, hfits⟩ := Option.bind_eq_some_iff.mp he
  have hrest : s.2 = e.2 := by
    split at hfits
    · cases hfits
      rfl
    · cases hfits
  have hcut : isCut bytes = true := isCut_of_read?_append hs (by rw [hrest]; exact hmissing)
  have hnone : sequence? bytes = none := by
    rw [sequence?, expect?, read?_of_isCut hcut]
    rfl
  unfold read due
  simp only [hnone, faultAt, if_pos hcut]
  rfl

end Certificate

end GatewayOperator.Tls
