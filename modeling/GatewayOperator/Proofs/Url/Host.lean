import GatewayOperator.Proofs.Url.Encoding
import GatewayOperator.Url.Host

/-!
# Hosts that end in a blank

No host is read from a text that ends in a blank or a control: it is no digit of an escape, it completes no
character before it, folding and composition leave it where it is, Punycode keeps it, and no name may hold it.
-/

set_option autoImplicit false

namespace GatewayOperator

/-- What becomes of an element of a list each of which becomes something. -/
theorem exists_of_mapM {α β : Type} {f : α → Option β} {xs : List α} {ys : List β} (h : xs.mapM f = some ys)
    {x : α} (hx : x ∈ xs) : ∃ y ∈ ys, f x = some y := by
  induction xs generalizing ys with
  | nil => cases hx
  | cons first rest ih =>
    rw [List.mapM_cons] at h
    obtain ⟨y, hy, h⟩ := Option.bind_eq_some_iff.mp h
    obtain ⟨others, hothers, h⟩ := Option.bind_eq_some_iff.mp h
    cases h
    rcases List.mem_cons.mp hx with rfl | hx
    · exact ⟨y, List.mem_cons_self, hy⟩
    · obtain ⟨found, hfound, heq⟩ := ih hothers hx
      exact ⟨found, List.mem_cons_of_mem y hfound, heq⟩

/-! ## Composition -/

namespace Text

section Composition

variable {b : Char}

/-- A character below all marks stays at the end of a text. -/
theorem placeMark_concat (h : b.toNat < 0x300) (c : Char) (cs : List Char) :
    placeMark c (cs ++ [b]) = placeMark c cs ++ [b] := by
  have hclass : markClass b = 0 := if_pos h
  induction cs with
  | nil => exact if_neg fun hboth => hboth.1 hclass
  | cons d cs ih =>
    rw [List.cons_append, placeMark, placeMark]
    split
    · rw [ih, List.cons_append]
    · rfl

/-- A character that is no mark stays last when marks are put in order. -/
theorem ordered_concat (h : b.toNat < 0x300) (cs : List Char) : ordered (cs ++ [b]) = ordered cs ++ [b] := by
  unfold ordered
  induction cs with
  | nil => rfl
  | cons c cs ih => rw [List.cons_append, List.foldr_cons, ih, placeMark_concat h, List.foldr_cons]

/-- A character without a decomposition stays last when characters are taken apart. -/
theorem apart_concat (h : b.toNat < 0xC0) (cs : List Char) : apart (cs ++ [b]) = apart cs ++ [b] := by
  have hparts : parts? b = none := if_pos h
  rw [apart, List.flatMap_append, List.flatMap_singleton, takeApart, hparts]
  rfl

/-- A character that joins with none stays when characters are put together behind a head. -/
theorem mem_joinAfter (h : b.toNat < 0x300) (cs : List Char) (head : Char) (skipped : List Char) :
    b ∈ joinAfter head skipped (cs ++ [b]) := by
  have hclass : markClass b = 0 := if_pos h
  have hjoined (a : Char) : joined? a b = none := if_pos h
  induction cs generalizing head skipped with
  | nil =>
    rw [List.nil_append, joinAfter, hjoined, ite_self, hclass]
    simp [joinAfter]
  | cons c cs ih =>
    rw [List.cons_append, joinAfter]
    split
    · exact ih _ _
    · split
      · exact List.mem_append_right _ (ih _ _)
      · exact ih _ _

/-- A character that joins with none stays when characters are put together. -/
theorem mem_joinAll (h : b.toNat < 0x300) (cs : List Char) : b ∈ joinAll (cs ++ [b]) := by
  have hclass : markClass b = 0 := if_pos h
  induction cs with
  | nil =>
    rw [List.nil_append, joinAll, if_pos hclass, joinAfter]
    exact List.mem_cons_self
  | cons c cs ih =>
    rw [List.cons_append, joinAll]
    split
    · exact mem_joinAfter h cs c []
    · exact List.mem_cons_of_mem c ih

/-- A character of ASCII at the end of a text is kept when the text is composed. -/
theorem mem_composed (h : b.toNat < 0x80) (cs : List Char) : b ∈ composed (cs ++ [b]) := by
  unfold composed
  split
  · exact List.mem_append_right cs List.mem_cons_self
  · rw [apart_concat (by omega), ordered_concat (by omega)]
    exact mem_joinAll (by omega) _

/-- A character that is no separator is in one of the fields. -/
theorem exists_mem_splitAt {separator : Char} (hb : b ≠ separator) {cs : List Char} (h : b ∈ cs) :
    ∃ field ∈ splitAt separator cs, b ∈ field := by
  induction cs with
  | nil => cases h
  | cons c cs ih =>
    by_cases hc : c = separator
    · rw [splitAt, if_pos hc]
      rcases List.mem_cons.mp h with rfl | h
      · exact absurd hc hb
      · obtain ⟨field, hfield, hmem⟩ := ih h
        exact ⟨field, List.mem_cons_of_mem _ hfield, hmem⟩
    · obtain ⟨first, others, hsplit, hcons⟩ := splitAt_cons_of_ne hc cs
      rw [hcons]
      rcases List.mem_cons.mp h with rfl | h
      · exact ⟨_, List.mem_cons_self, List.mem_cons_self⟩
      · obtain ⟨field, hfield, hmem⟩ := ih h
        rw [hsplit] at hfield
        rcases List.mem_cons.mp hfield with rfl | hfield
        · exact ⟨_, List.mem_cons_self, List.mem_cons_of_mem c hmem⟩
        · exact ⟨field, List.mem_cons_of_mem _ hfield, hmem⟩

/-- Fields that are joined keep their characters. -/
theorem mem_joinWith {separator : Char} {fields : List (List Char)} {field : List Char} (hfield : field ∈ fields)
    (h : b ∈ field) : b ∈ joinWith separator fields := by
  induction fields with
  | nil => cases hfield
  | cons first rest ih =>
    cases rest with
    | nil =>
      obtain rfl := List.mem_singleton.mp hfield
      exact h
    | cons second rest =>
      rw [joinWith]
      rcases List.mem_cons.mp hfield with rfl | hfield
      · exact List.mem_append_left _ h
      · exact List.mem_append_right _ (List.mem_cons_of_mem _ (ih hfield))
      · simp

end Composition

end Text

namespace Url

open Text (splitAt joinWith)

/-! ## Punycode -/

namespace Punycode

/-- What is written of a label stays when more is placed. -/
theorem prefix_visit (basic code : Nat) (w : Writing) (c : Char) : w.text <+: (w.visit basic code c).text := by
  unfold Writing.visit
  split
  · exact List.prefix_refl _
  · split
    · exact List.prefix_append _ _
    · exact List.prefix_refl _

/-- A label under encoding keeps what it starts with. -/
theorem prefix_placeAll (label : List Char) (basic : Nat) (codes : List Nat) (next : Nat) (w : Writing) :
    w.text <+: (Writing.placeAll label basic codes next w).text := by
  have hfold (code : Nat) (w : Writing) (cs : List Char) :
      w.text <+: (cs.foldl (Writing.visit basic code) w).text := by
    induction cs generalizing w with
    | nil => exact List.prefix_refl _
    | cons c cs ih => exact (prefix_visit basic code w c).trans (ih _)
  induction codes generalizing next w with
  | nil => exact List.prefix_refl _
  | cons code codes ih =>
    rw [Writing.placeAll]
    refine List.IsPrefix.trans ?_ (ih _ _)
    exact hfold code { w with distance := w.distance + (code - next) * (w.placed + 1) } label

/-- The characters of ASCII stand in the encoding of a label. -/
theorem mem_encode {label : List Char} {b : Char} (h : b ∈ label) (hb : b.toNat < 0x80) : b ∈ encode label := by
  have hbasic : b ∈ label.filter fun c => decide (c.toNat < 0x80) := List.mem_filter.mpr ⟨h, decide_eq_true hb⟩
  unfold encode
  refine (prefix_placeAll label _ _ _ _).subset ?_
  dsimp only
  split
  · next hempty =>
    rw [List.isEmpty_iff.mp hempty] at hbasic
    cases hbasic
  · exact List.mem_append_left _ hbasic

end Punycode

/-! ## Names -/

namespace Domain

/-- A blank is folded to itself. -/
theorem fold?_of_blank {b : Char} (h : b.toNat ≤ 0x20) : fold? b = some [b] := by
  unfold fold?
  dsimp only
  rw [if_pos (by omega), if_neg (by omega)]

/-- A blank is forbidden in a host. -/
theorem isForbidden_of_blank {b : Char} (h : b.toNat ≤ 0x20) : isForbidden b = true := by
  unfold isForbidden
  rw [decide_eq_true h]
  rfl

/-- A character of ASCII stays in the ASCII form of its label. -/
theorem mem_ascii_of_read? {cs : List Char} {label : Label} (h : Label.read? cs = some label) {b : Char}
    (hb : b ∈ cs) (hascii : b.toNat < 0x80) : b ∈ label.ascii := by
  unfold Label.read? at h
  split at h
  · dsimp only at h
    split at h
    · obtain ⟨shown, -, h⟩ := Option.bind_eq_some_iff.mp h
      split at h
      · cases h
        exact hb
      · cases h
    · cases h
  · split at h
    · cases h
      exact hb
    · split at h
      · cases h
        exact List.mem_append_right _ (Punycode.mem_encode hb hascii)
      · cases h

/-- A blank at the end stays there through the folding. -/
theorem folded?_concat {b : Char} (h : b.toNat ≤ 0x20) (cs : List Char) :
    folded? (cs ++ [b]) = (folded? cs).map fun text => text ++ [b] := by
  rw [folded?, folded?, List.mapM_append, List.mapM_cons, fold?_of_blank h]
  cases cs.mapM fold? with
  | none => rfl
  | some texts => simp [List.mapM_nil]

/-- No name is made of a text that ends in a blank. -/
theorem ascii?_concat {b : Char} (h : b.toNat ≤ 0x20) (cs : List Char) : ascii? (cs ++ [b]) = none := by
  have hdot : b ≠ '.' := by
    rintro rfl
    revert h
    decide
  rw [ascii?, folded?_concat h]
  cases folded? cs with
  | none => rfl
  | some text =>
    show ((splitAt '.' (Text.composed (text ++ [b]))).mapM Label.read?).bind _ = none
    cases hlabels : (splitAt '.' (Text.composed (text ++ [b]))).mapM Label.read? with
    | none => rfl
    | some labels =>
      obtain ⟨field, hfield, hb⟩ := Text.exists_mem_splitAt hdot (Text.mem_composed (by omega) text)
      obtain ⟨label, hlabel, hread⟩ := exists_of_mapM hlabels hfield
      have hname : b ∈ joinWith '.' (labels.map Label.ascii) :=
        Text.mem_joinWith (List.mem_map_of_mem hlabel) (mem_ascii_of_read? hread hb (by omega))
      exact if_pos (List.any_eq_true.mpr ⟨b, hname, isForbidden_of_blank h⟩)

end Domain

/-! ## Hosts -/

/-- A blank is no digit. -/
theorem hexValue?_of_blank {b : Char} (h : b.toNat ≤ 0x20) : Text.hexValue? b = none := by
  unfold Text.hexValue?
  dsimp only
  rw [if_neg (by omega), if_neg (by omega), if_neg (by omega)]

/-- A percent sign that no two digits follow stands for itself. -/
theorem decodeBytes_percent {a b : Char} {rest : List Char}
    (h : ∀ high low, Text.hexValue? a = some high → Text.hexValue? b = some low → False) :
    decodeBytes ('%' :: a :: b :: rest) = String.utf8EncodeChar '%' ++ decodeBytes (a :: b :: rest) := by
  rw [decodeBytes]
  split
  · next high low ha hb => exact (h high low ha hb).elim
  · rfl

/-- A blank at the end of a text belongs to no escape. -/
theorem decodeBytes_concat {b : Char} (h : b.toNat ≤ 0x20) (cs : List Char) :
    decodeBytes (cs ++ [b]) = decodeBytes cs ++ String.utf8EncodeChar b := by
  have hdigit := hexValue?_of_blank h
  have hpercent : b ≠ '%' := by
    rintro rfl
    revert h
    decide
  induction cs using decodeBytes.induct with
  | case1 =>
    rw [List.nil_append, decodeBytes_cons hpercent]
    exact List.append_nil _
  | case2 first second rest high low hsecond hfirst ih =>
    rw [List.cons_append, List.cons_append, List.cons_append, decodeBytes, hfirst, hsecond, decodeBytes, hfirst,
      hsecond]
    exact congrArg _ ih
  | case3 first second rest hnone ih =>
    rw [List.cons_append, List.cons_append, List.cons_append, decodeBytes_percent hnone, decodeBytes_percent hnone,
      List.append_assoc]
    exact congrArg _ ih
  | case4 c rest hshort ih =>
    rw [decodeBytes.eq_3 c rest hshort, List.append_assoc, ← ih]
    by_cases hc : c = '%'
    · subst hc
      rcases rest with - | ⟨first, - | ⟨second, rest⟩⟩
      · rfl
      · -- the blank is the second of the two characters
        exact decodeBytes_percent fun _ _ _ hlow => by cases hdigit.symm.trans hlow
      · exact (hshort first second rest rfl rfl).elim
    · exact decodeBytes_cons hc _

/-! ## Bytes -/

/-- A blank is written as one byte. -/
theorem utf8EncodeChar_of_blank {b : Char} (h : b.toNat ≤ 0x20) :
    String.utf8EncodeChar b = [UInt8.ofNat b.toNat] := by
  have hsmall : b.val.toNat ≤ 127 := Nat.le_trans h (by decide)
  exact if_pos hsmall

/-- Whether what is owed to a character can only be paid by bytes outside ASCII. -/
def IsOpen (st : Option Text.Utf8.Partial) : Prop := ∀ p, st = some p → 0x80 ≤ p.least

/-- Between characters nothing is owed. -/
theorem isOpen_none : IsOpen none := fun _ h => by cases h

/-- A first byte that announces more owes bytes outside ASCII. -/
theorem isOpen_of_first {n : Nat} {p : Text.Utf8.Partial} (h : Text.Utf8.Step.first n = .more p) :
    IsOpen (some p) := by
  intro q hq
  obtain rfl := Option.some.inj hq
  unfold Text.Utf8.Step.first at h
  repeat' split at h
  all_goals simp only [Text.Utf8.Step.more.injEq, reduceCtorEq] at h
  all_goals
    subst h
    exact Nat.le_of_ble_eq_true rfl

/-- A byte that leaves more owing owes bytes outside ASCII. -/
theorem isOpen_of_push {n : Nat} {p q : Text.Utf8.Partial} (h : p.push n = some (.more q)) : IsOpen (some q) := by
  intro r hr
  obtain rfl := Option.some.inj hr
  unfold Text.Utf8.Partial.push at h
  split at h
  · dsimp only at h
    split at h
    · cases h
    · rw [Option.some.injEq, Text.Utf8.Step.more.injEq] at h
      subst h
      exact Nat.le_of_ble_eq_true rfl
  · cases h

/-- A byte of ASCII is a whole character. -/
theorem first_of_ascii {n : Nat} (h : n < 0x80) : Text.Utf8.Step.first n = .complete (Char.ofNat n) := if_pos h

/-- A byte of ASCII continues no character. -/
theorem push_of_ascii {n : Nat} (h : n < 0x80) {p : Text.Utf8.Partial} (hp : IsOpen (some p)) :
    p.push n = none := by
  have hleast := hp p rfl
  exact if_neg fun hin => by omega

/-- A byte of ASCII at the end completes its own character. -/
theorem exists_readAfter_concat {n : Nat} (hn : n < 0x80) (bytes : List UInt8) {st : Option Text.Utf8.Partial}
    (hst : IsOpen st) :
    ∃ before, Text.Utf8.readAfter st (bytes ++ [UInt8.ofNat n]) = before ++ [some (Char.ofNat n)] := by
  have hbyte : (UInt8.ofNat n).toNat = n := Text.Utf8.toNat_ofNat (by omega)
  induction bytes generalizing st with
  | nil =>
    cases st with
    | none => exact ⟨[], by rw [List.nil_append, Text.Utf8.readAfter, hbyte, first_of_ascii hn]; rfl⟩
    | some p =>
      refine ⟨[none], ?_⟩
      rw [List.nil_append, Text.Utf8.readAfter, hbyte, push_of_ascii hn hst, first_of_ascii hn]
      rfl
  | cons x rest ih =>
    obtain ⟨before, hbefore⟩ := ih isOpen_none
    have hanew : ∃ before, Text.Utf8.readAfter none (x :: (rest ++ [UInt8.ofNat n])) =
        before ++ [some (Char.ofNat n)] := by
      rw [Text.Utf8.readAfter]
      split
      · next c _ => exact ⟨some c :: before, by rw [hbefore, List.cons_append]⟩
      · next p hmore => exact ih (isOpen_of_first hmore)
      · exact ⟨none :: before, by rw [hbefore, List.cons_append]⟩
    cases st with
    | none => exact hanew
    | some p =>
      rw [List.cons_append, Text.Utf8.readAfter]
      split
      · next c _ => exact ⟨some c :: before, by rw [hbefore, List.cons_append]⟩
      · next q hmore => exact ih (isOpen_of_push hmore)
      · exact ⟨none :: before, by rw [hbefore, List.cons_append]⟩
      · -- the byte starts anew after a hole
        split
        · next c _ => exact ⟨none :: some c :: before, by rw [hbefore, List.cons_append, List.cons_append]⟩
        · next q hmore =>
          obtain ⟨after, hafter⟩ := ih (isOpen_of_first hmore)
          exact ⟨none :: after, by rw [hafter, List.cons_append]⟩
        · exact ⟨none :: none :: before, by rw [hbefore, List.cons_append, List.cons_append]⟩

/-- A text that is read from bytes that end in a blank ends in the blank. -/
theorem exists_concat_of_read? {b : Char} (h : b.toNat ≤ 0x20) {bytes : List UInt8} {s : String}
    (hread : Text.Utf8.read? (bytes ++ String.utf8EncodeChar b) = some s) : ∃ cs, s.toList = cs ++ [b] := by
  obtain ⟨before, hbefore⟩ := exists_readAfter_concat (n := b.toNat) (by omega) bytes isOpen_none
  rw [utf8EncodeChar_of_blank h, Text.Utf8.read?, Text.Utf8.readLoose, hbefore, Char.ofNat_toNat,
    List.mapM_append] at hread
  obtain ⟨cs, hcs, rfl⟩ := Option.map_eq_some_iff.mp hread
  obtain ⟨front, -, hcs⟩ := Option.bind_eq_some_iff.mp hcs
  refine ⟨front, ?_⟩
  rw [String.toList_ofList]
  exact (Option.some.inj hcs).symm

/-- No host is read from a text that ends in a blank. -/
theorem host_read_concat {b : Char} (h : b.toNat ≤ 0x20) (cs : List Char) (host : Host) :
    Host.read (cs ++ [b]) ≠ .ok host := by
  have hname : (Text.Utf8.read? (decodeBytes (cs ++ [b]))).bind (fun s => Domain.ascii? s.toList) = none := by
    rw [decodeBytes_concat h]
    cases hread : Text.Utf8.read? (decodeBytes cs ++ String.utf8EncodeChar b) with
    | none => rfl
    | some s =>
      obtain ⟨front, hfront⟩ := exists_concat_of_read? h hread
      rw [Option.bind_some, hfront, Domain.ascii?_concat h]
  intro hhost
  unfold Host.read at hhost
  split at hhost
  · next rest hbracket =>
    -- an address ends in a bracket
    have hlast : rest.getLast? ≠ some ']' := by
      cases cs with
      | nil =>
        obtain ⟨rfl, -⟩ := List.cons.inj hbracket
        exact absurd h (by decide)
      | cons c cs =>
        have hrest : cs ++ [b] = rest := (List.cons.inj hbracket).2
        rw [← hrest, List.getLast?_concat]
        rintro heq
        cases heq
        exact absurd h (by decide)
    rw [if_neg hlast] at hhost
    cases hhost
  · rw [hname] at hhost
    cases hhost

end Url

end GatewayOperator
