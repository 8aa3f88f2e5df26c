import GatewayOperator.Proofs.Json.Records

/-!
# How much a text can hold

Whatever is decoded from a value takes no more room than the compact text of the value: a list has no more items, a
dictionary no more entries, and bytes are no longer than the text that they were read from.
-/

set_option autoImplicit false

namespace GatewayOperator

namespace Text

/-- The bytes of two texts add up. -/
theorem utf8Length_append (cs ds : List Char) : utf8Length (cs ++ ds) = utf8Length cs + utf8Length ds := by
  induction cs with
  | nil => simp [utf8Length]
  | cons c cs ih =>
    simp only [utf8Length, List.cons_append, List.foldr_cons] at ih ⊢
    omega

/-- The bytes of a text are those of its characters. -/
theorem utf8Length_cons (c : Char) (cs : List Char) : utf8Length (c :: cs) = c.utf8Size + utf8Length cs := rfl

/-- The UTF-8 form of a text has as many bytes as its characters take. -/
theorem length_utf8 (s : String) : (utf8 s).length = utf8Length s.toList := by
  unfold utf8
  induction s.toList with
  | nil => rfl
  | cons c cs ih => rw [List.flatMap_cons, List.length_append, ih, String.length_utf8EncodeChar, utf8Length_cons]

namespace Base64

variable {start : Nat} {group text bs : List UInt8}

/-- The last group of symbols gives no more values than it has characters. -/
theorem length_of_lastGroup {i pads count : Nat} {symbols found : List (UInt8 × Nat)}
    (h : lastGroup start group i symbols pads = .ok (found, count)) :
    found.length ≤ symbols.length + group.length := by
  induction group generalizing i symbols pads with
  | nil =>
    cases h
    simp
  | cons b rest ih =>
    rw [lastGroup] at h
    rw [List.length_cons]
    split at h
    · split at h
      · cases h
      · have hrest := ih h
        omega
    · split at h
      · cases h
      · cases hsymbol : symbolAt (start + i) b with
        | error fault =>
          rw [hsymbol] at h
          cases h
        | ok v =>
          rw [hsymbol] at h
          have hrest := ih h
          rw [List.length_cons] at hrest
          omega

/-- The last group decodes to no more bytes than it has. -/
theorem length_of_decodeLast (h : decodeLast start group = .ok bs) : bs.length ≤ group.length := by
  unfold decodeLast at h
  cases hlast : lastGroup start group 0 [] 0 with
  | error fault =>
    rw [hlast] at h
    cases h
  | ok last =>
    obtain ⟨symbols, pads⟩ := last
    have hsymbols := length_of_lastGroup hlast
    rw [List.length_nil, Nat.zero_add] at hsymbols
    rw [hlast] at h
    simp only [bind, Except.bind] at h
    generalize (if symbols.length = 2 then 16 else if symbols.length = 3 then 4 else 1 : Nat) = spare at h
    -- two symbols give a byte, three give two, and more give three
    iterate 3
      split at h
      · cases h
    split at h
    · cases h
      rw [List.length_singleton]
      omega
    · split at h
      · cases h
        rw [List.length_cons, List.length_singleton]
        omega
      · cases h
        rw [List.length_cons, List.length_cons, List.length_singleton]
        omega

/-- A base64 text decodes to no more bytes than it has. -/
theorem length_of_decodeFrom (h : decodeFrom start text = .ok bs) : bs.length ≤ text.length := by
  induction start, text using decodeFrom.induct generalizing bs with
  | case1 start a b c d e rest ih =>
    rw [decodeFrom] at h
    simp only [bind, Except.bind, pure, Except.pure] at h
    iterate 4
      split at h
      · cases h
    split at h
    · cases h
    · next tail htail =>
      cases h
      have hrest := ih htail
      simp only [List.length_cons] at hrest ⊢
      omega
  | case2 start =>
    cases h
    exact Nat.le_refl 0
  | case3 start group hlong hsome =>
    rw [decodeFrom] at h
    · exact length_of_decodeLast h
    · exact hlong
    · exact hsome

/-- Base64 is longer than the bytes that it stands for. -/
theorem length_of_decode (h : decode text = .ok bs) : bs.length ≤ text.length := by
  unfold decode at h
  split at h
  · split at h
    · cases h
    · exact length_of_decodeFrom h
  · exact length_of_decodeFrom h

end Base64

end Text

namespace Entries

variable {α : Type}

/-- An insertion adds one entry at most. -/
theorem length_insert_le (key : String) (value : α) (entries : List (String × α)) :
    (insert key value entries).length ≤ entries.length + 1 := by
  induction entries with
  | nil => exact Nat.le_refl 1
  | cons e rest ih =>
    obtain ⟨k, v⟩ := e
    simp only [insert]
    split
    · exact Nat.le_succ _
    · split
      · exact Nat.le_refl _
      · exact Nat.succ_le_succ ih

/-- A dictionary has no more entries than were put in. -/
theorem length_ofList_le (entries : List (String × α)) : (ofList entries).length ≤ entries.length := by
  have hfoldl (acc : List (String × α)) :
      (entries.foldl (fun acc e => insert e.1 e.2 acc) acc).length ≤ acc.length + entries.length := by
    induction entries generalizing acc with
    | nil => exact Nat.le_refl _
    | cons e rest ih =>
      have hinsert := length_insert_le e.1 e.2 acc
      have hrest := ih (insert e.1 e.2 acc)
      rw [List.foldl_cons, List.length_cons]
      omega
  have hall := hfoldl []
  rwa [List.length_nil, Nat.zero_add] at hall

end Entries

namespace Json

open Text (utf8Length utf8Length_append utf8Length_cons)

/-! ## Parts -/

/-- The text of items has at least a byte for each of them, and room for the widest. -/
theorem bounds_charsItems (xs : List Json) :
    xs.length ≤ utf8Length (charsItems xs) ∧ ∀ x ∈ xs, x.width ≤ utf8Length (charsItems xs) := by
  induction xs with
  | nil => simp
  | cons x xs ih =>
    obtain ⟨hlength, hitems⟩ := ih
    have hcomma : ','.utf8Size = 1 := rfl
    rw [charsItems, utf8Length_cons, utf8Length_append, List.length_cons, List.forall_mem_cons]
    refine ⟨by omega, by unfold width; omega, fun y hy => ?_⟩
    have hy := hitems y hy
    omega

/-- The text of members has at least a byte for each of them, and room for the widest. -/
theorem bounds_charsMembers (ms : List (String × Json)) :
    ms.length ≤ utf8Length (charsMembers ms) ∧ ∀ m ∈ ms, m.2.width ≤ utf8Length (charsMembers ms) := by
  induction ms with
  | nil => simp
  | cons m ms ih =>
    obtain ⟨hlength, hmembers⟩ := ih
    have hcomma : ','.utf8Size = 1 := rfl
    rw [charsMembers, utf8Length_cons, utf8Length_append, utf8Length_cons, utf8Length_append, List.length_cons,
      List.forall_mem_cons]
    refine ⟨by omega, by unfold width; omega, fun n hn => ?_⟩
    have hn := hmembers n hn
    omega

/-- A value has no more parts than its text has bytes, and none of them is longer. -/
theorem bounds_parts (j : Json) : j.parts.length ≤ j.width ∧ ∀ v ∈ j.parts, v.width ≤ j.width := by
  cases j with
  | array xs =>
    cases xs with
    | nil => simp [parts]
    | cons x xs =>
      obtain ⟨hlength, hitems⟩ := bounds_charsItems xs
      have hbracket : '['.utf8Size = 1 := rfl
      rw [parts, List.length_cons, List.forall_mem_cons]
      unfold width at hitems ⊢
      rw [chars, utf8Length_cons, utf8Length_append, utf8Length_append]
      refine ⟨by omega, by omega, fun y hy => ?_⟩
      have hy := hitems y hy
      omega
  | object ms =>
    cases ms with
    | nil => simp [parts]
    | cons m ms =>
      obtain ⟨hlength, hmembers⟩ := bounds_charsMembers ms
      have hbracket : '\x7b'.utf8Size = 1 := rfl
      rw [parts, List.length_map, List.length_cons, List.forall_mem_map, List.forall_mem_cons]
      unfold width at hmembers ⊢
      rw [chars, utf8Length_cons, utf8Length_append, utf8Length_cons, utf8Length_append, utf8Length_append]
      refine ⟨by omega, by omega, fun n hn => ?_⟩
      have hn := hmembers n hn
      omega
  | _ => simp [parts]

/-! ## Texts -/

/-- Escaping makes no character shorter. -/
theorem utf8Size_le_escape (c : Char) : c.utf8Size ≤ utf8Length (escape c) := by
  have hascii (h : c.toNat < 128) : c.utf8Size = 1 := by
    rw [Char.utf8Size_eq_one_iff, UInt32.le_iff_toNat_le]
    exact Nat.le_of_lt_succ h
  have hquote : '"'.toNat = 34 := rfl
  have hbackslash : '\\'.toNat = 92 := rfl
  unfold escape
  split
  · next h => rw [hascii (by rw [h]; decide)]; decide
  split
  · next h => rw [hascii (by rw [h]; decide)]; decide
  iterate 5
    split
    · rw [hascii (by omega)]; decide
  split
  · rw [hascii (by omega), utf8Length_cons]
    exact Nat.le_add_right 1 _
  · exact Nat.le_refl _

/-- The text of a string is as wide as the string, or wider. -/
theorem utf8Length_le_width (s : String) : utf8Length s.toList ≤ (Json.string s).width := by
  have hescaped (cs : List Char) : utf8Length cs ≤ utf8Length (cs.flatMap escape) := by
    induction cs with
    | nil => exact Nat.le_refl 0
    | cons c cs ih =>
      have hc := utf8Size_le_escape c
      rw [List.flatMap_cons, utf8Length_cons, utf8Length_append]
      omega
  have hs := hescaped s.toList
  rw [width, chars, quoted, utf8Length_cons, utf8Length_append]
  omega

/-! ## What is decoded -/

namespace Decode

variable {α : Type} {item : Json → Decoded α} {j v : Json}

/-- As many entries are read as there are members. -/
theorem length_of_entries {ms : List (String × Json)} {es : List (String × α)} (h : entries item ms = .ok es) :
    es.length = ms.length := by
  induction ms generalizing es with
  | nil =>
    cases h
    rfl
  | cons m ms ih =>
    obtain ⟨k, x⟩ := m
    simp only [entries, bind, Except.bind, pure, Except.pure] at h
    iterate 2
      split at h
      · cases h
    next more hmore =>
      cases h
      rw [List.length_cons, List.length_cons, ih hmore]

/-- As many items are read as there are. -/
theorem length_of_itemsFrom {i : Nat} {xs : List Json} {as : List α} (h : itemsFrom item i xs = .ok as) :
    as.length = xs.length := by
  induction xs generalizing i as with
  | nil =>
    cases h
    rfl
  | cons x xs ih =>
    simp only [itemsFrom, bind, Except.bind, pure, Except.pure] at h
    iterate 2
      split at h
      · cases h
    next rest hrest =>
      cases h
      rw [List.length_cons, List.length_cons, ih hrest]

/-- A dictionary is decoded from the members of an object. -/
theorem exists_entries {d : Dict α} (h : dict item j = .ok d) :
    ∃ ms es, j = .object ms ∧ entries item ms = .ok es ∧ Dict.ofList es = d := by
  cases j with
  | object ms =>
    rw [dict] at h
    cases hentries : entries item ms with
    | error fault =>
      rw [hentries] at h
      cases h
    | ok es =>
      rw [hentries] at h
      exact ⟨ms, es, rfl, hentries, Except.ok.inj h⟩
  | _ => cases h

/-- A dictionary that was read has no more entries than its text has bytes. -/
theorem length_of_dict {d : Dict α} (h : dict item j = .ok d) : d.entries.length ≤ j.width := by
  obtain ⟨ms, es, rfl, hes, rfl⟩ := exists_entries h
  have hparts := (bounds_parts (.object ms)).1
  rw [parts, List.length_map, ← length_of_entries hes] at hparts
  exact Nat.le_trans (Entries.length_ofList_le es) hparts

/-- A list that was read has no more items than its text has bytes. -/
theorem length_of_list {as : List α} (h : list item j = .ok as) : as.length ≤ j.width := by
  cases j with
  | array xs =>
    rw [length_of_itemsFrom h]
    exact (bounds_parts (.array xs)).1
  | _ => cases h

/-- Saying where a fault lies does not change what is read. -/
theorem ok_of_under {step : Step} {r : Decoded α} {a : α} (h : under step r = .ok a) : r = .ok a := by
  cases r with
  | error fault => cases h
  | ok b =>
    cases h
    rfl

/-- Every entry that was read comes from a member. -/
theorem exists_of_mem_entries {ms : List (String × Json)} {es : List (String × α)} (h : entries item ms = .ok es) :
    ∀ e ∈ es, ∃ m ∈ ms, item m.2 = .ok e.2 := by
  induction ms generalizing es with
  | nil =>
    cases h
    exact fun e he => absurd he List.not_mem_nil
  | cons m ms ih =>
    obtain ⟨k, x⟩ := m
    simp only [entries, bind, Except.bind, pure, Except.pure] at h
    split at h
    · cases h
    next a ha =>
    split at h
    · cases h
    next more hmore =>
    cases h
    refine List.forall_mem_cons.mpr ⟨⟨(k, x), List.mem_cons_self, ok_of_under ha⟩, fun e he => ?_⟩
    obtain ⟨m, hm, hread⟩ := ih hmore e he
    exact ⟨m, List.mem_cons_of_mem _ hm, hread⟩

/-- A value of a dictionary was decoded from a part. -/
theorem exists_of_mem_dict {d : Dict α} (h : dict item j = .ok d) :
    ∀ e ∈ d.entries, ∃ v ∈ j.parts, item v = .ok e.2 := by
  obtain ⟨ms, es, rfl, hes, rfl⟩ := exists_entries h
  refine Entries.forall_mem_ofList fun e he => ?_
  obtain ⟨m, hm, hread⟩ := exists_of_mem_entries hes e he
  exact ⟨m.2, List.mem_map_of_mem hm, hread⟩

/-- Bytes are no longer than the text that they were read from. -/
theorem length_of_bytes {b : List UInt8} (h : bytes j = .ok b) : b.length ≤ j.width := by
  cases j with
  | null =>
    cases h
    exact Nat.zero_le _
  | string s =>
    rw [bytes] at h
    cases hdecode : Text.Base64.decode (Text.utf8 s) with
    | error fault =>
      rw [hdecode] at h
      cases h
    | ok bs =>
      rw [hdecode] at h
      cases h
      have hlength := Text.Base64.length_of_decode hdecode
      rw [Text.length_utf8] at hlength
      exact Nat.le_trans hlength (utf8Length_le_width s)
  | _ => cases h

end Decode

end Json

end GatewayOperator
