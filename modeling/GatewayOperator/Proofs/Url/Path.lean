import GatewayOperator.Proofs.Url.Encoding

/-!
# Texts that are appended to a path

A plain text that is appended to a path is left out, or it takes away the last segment, or it becomes a segment of
its own. Which of these it is depends on the text only: on whether it is made of dots, as it stands or once the
characters that do not count in a URL are gone. A text that becomes a segment can be read off the path again.
-/

set_option autoImplicit false

namespace GatewayOperator.Url

/-! ## Dots -/

/-- A character is in lower case already, or it is a capital of ASCII. -/
theorem toLower_cases (c : Char) :
    c.toLower = c ∨ (65 ≤ c.toNat ∧ c.toNat ≤ 90 ∧ c.toLower.toNat = c.toNat + 32) := by
  unfold Char.toLower
  split
  · next h =>
    have hleast : 65 ≤ c.toNat := h.1
    have hgreatest : c.toNat ≤ 90 := h.2
    refine .inr ⟨hleast, hgreatest, ?_⟩
    show (c.val + ('a'.val - 'A'.val)).toNat = c.toNat + 32
    rw [UInt32.toNat_add]
    exact Nat.mod_eq_of_lt (by show c.toNat + 32 < 2 ^ 32; omega)
  · exact .inl rfl

/-- A character whose lower case is no letter is that character. -/
theorem eq_of_toLower_eq {c d : Char} (h : c.toLower = d) (hd : d.toNat < 97) : c = d := by
  rcases toLower_cases c with heq | ⟨_, _, hlower⟩
  · exact heq.symm.trans h
  · rw [h] at hlower
    omega

/-- Two characters have the lower case `e`. -/
theorem eq_e_of_toLower_eq {c : Char} (h : c.toLower = 'e') : c = 'e' ∨ c = 'E' := by
  rcases toLower_cases c with heq | ⟨_, _, hlower⟩
  · exact .inl (heq.symm.trans h)
  · rw [h] at hlower
    refine .inr (Char.toNat_inj.mp ?_)
    show c.toNat = 69
    have he : 'e'.toNat = 101 := rfl
    omega

/-- A dot at the start of a segment, in either of its written forms. -/
theorem decodeBytes_of_dot {segment tail : List Char}
    (h : segment.map Char.toLower = '.' :: tail ∨ segment.map Char.toLower = '%' :: '2' :: 'e' :: tail) :
    ∃ rest, rest.map Char.toLower = tail ∧ decodeBytes segment = 0x2E :: decodeBytes rest := by
  rcases h with h | h
  · obtain ⟨c, rest, rfl, hc, hrest⟩ := List.map_eq_cons_iff.mp h
    obtain rfl := eq_of_toLower_eq hc (by decide)
    exact ⟨rest, hrest, decodeBytes_cons (by decide) rest⟩
  · obtain ⟨c, more, rfl, hc, hmore⟩ := List.map_eq_cons_iff.mp h
    obtain ⟨d, more, rfl, hd, hmore⟩ := List.map_eq_cons_iff.mp hmore
    obtain ⟨e, rest, rfl, he, hrest⟩ := List.map_eq_cons_iff.mp hmore
    obtain rfl := eq_of_toLower_eq hc (by decide)
    obtain rfl := eq_of_toLower_eq hd (by decide)
    refine ⟨rest, hrest, ?_⟩
    rcases eq_e_of_toLower_eq he with rfl | rfl <;> rfl

/-- A segment of one dot, however it is written, is read as one dot. -/
theorem decodeBytes_of_isDot {segment : List Char} (h : isDot segment = true) : decodeBytes segment = [0x2E] := by
  have hdot : segment.map Char.toLower = ['.'] ∨ segment.map Char.toLower = ['%', '2', 'e'] := by
    simpa [isDot] using h
  obtain ⟨rest, hrest, hdecoded⟩ := decodeBytes_of_dot hdot
  rw [hdecoded, List.map_eq_nil_iff.mp hrest]
  rfl

/-- A segment of two dots, however they are written, is read as two dots. -/
theorem decodeBytes_of_isDoubleDot {segment : List Char} (h : isDoubleDot segment = true) :
    decodeBytes segment = [0x2E, 0x2E] := by
  have hdots : ∃ tail,
      (segment.map Char.toLower = '.' :: tail ∨ segment.map Char.toLower = '%' :: '2' :: 'e' :: tail) ∧
        (tail = ['.'] ∨ tail = ['%', '2', 'e']) := by
    have hcases : segment.map Char.toLower = ['.', '.'] ∨ segment.map Char.toLower = ['.', '%', '2', 'e'] ∨
        segment.map Char.toLower = ['%', '2', 'e', '.'] ∨
        segment.map Char.toLower = ['%', '2', 'e', '%', '2', 'e'] := by
      simpa [isDoubleDot] using h
    rcases hcases with h | h | h | h
    · exact ⟨['.'], .inl h, .inl rfl⟩
    · exact ⟨['%', '2', 'e'], .inl h, .inr rfl⟩
    · exact ⟨['.'], .inr h, .inl rfl⟩
    · exact ⟨['%', '2', 'e'], .inr h, .inr rfl⟩
  obtain ⟨tail, hfirst, hlast⟩ := hdots
  obtain ⟨rest, rfl, hdecoded⟩ := decodeBytes_of_dot hfirst
  obtain ⟨more, hmore, hrest⟩ := decodeBytes_of_dot hlast
  rw [hdecoded, hrest, List.map_eq_nil_iff.mp hmore]
  rfl

/-- A text whose encoding is read as another text is that text. -/
theorem eq_of_decodeBytes_encode {cs ds : List Char}
    (h : decodeBytes (encode inSegmentSet cs) = ds.flatMap String.utf8EncodeChar) : cs = ds := by
  rw [← List.append_nil (encode inSegmentSet cs), decodeBytes_encode (by decide), decodeBytes,
    List.append_nil] at h
  exact Text.flatMap_utf8EncodeChar_injective h

/-- A written segment means the directory itself only if its text is a dot. -/
theorem isDot_encode_iff {cs : List Char} : isDot (encode inSegmentSet cs) = true ↔ cs = ['.'] := by
  constructor
  · intro h
    exact eq_of_decodeBytes_encode (decodeBytes_of_isDot h)
  · rintro rfl
    decide

/-- A written segment means the directory above only if its text is two dots. -/
theorem isDoubleDot_encode_iff {cs : List Char} :
    isDoubleDot (encode inSegmentSet cs) = true ↔ cs = ['.', '.'] := by
  constructor
  · intro h
    exact eq_of_decodeBytes_encode (decodeBytes_of_isDoubleDot h)
  · rintro rfl
    decide

/-! ## Slots -/

/-- What a plain text does at the end of a path. -/
inductive Slot where
  /-- It is left out. -/
  | skipped
  /-- It takes the last segment away and leaves an empty one. -/
  | above
  /-- It becomes a segment. -/
  | part (cs : List Char)
  deriving DecidableEq, Repr

/-- The characters of a text that count in a URL. -/
def counted (s : String) : List Char := s.toList.filter fun c => !isDropped c

/-- The slot of a text. Only what is exactly one or two dots is left out. -/
def slot (s : String) : Slot :=
  if s = "." ∨ s = ".." then .skipped
  else if counted s = ['.', '.'] then .above
  else if counted s = ['.'] then .part []
  else .part (counted s)

/-- A text is left out if it is one or two dots. -/
theorem slot_eq_skipped_iff (s : String) : slot s = .skipped ↔ s = "." ∨ s = ".." := by
  unfold slot
  constructor
  · intro h
    by_cases hdots : s = "." ∨ s = ".."
    · exact hdots
    rw [if_neg hdots] at h
    split at h
    · cases h
    · split at h <;> cases h
  · intro h
    rw [if_pos h]

/-- A path that is the root holds no segment to append to. -/
def rootless (path : List (List Char)) : List (List Char) := if path = [[]] then [] else path

/-- A path with a slot appended. -/
def Slot.appendTo (path : List (List Char)) : Slot → List (List Char)
  | .skipped => path
  | .above => (rootless path).dropLast ++ [[]]
  | .part cs => rootless path ++ [encode inSegmentSet cs]

/-- A text is appended as its slot says. -/
theorem appendSegment_eq (path : List (List Char)) (s : String) :
    appendSegment path s = (slot s).appendTo path := by
  unfold appendSegment slot
  by_cases hskipped : s = "." ∨ s = ".."
  · rw [if_pos hskipped, if_pos hskipped, Slot.appendTo]
  rw [if_neg hskipped, if_neg hskipped]
  show addSegment true (rootless path) (encode inSegmentSet (counted s)) = _
  rw [addSegment]
  by_cases habove : counted s = ['.', '.']
  · rw [if_pos (isDoubleDot_encode_iff.mpr habove), if_pos rfl, if_pos habove, Slot.appendTo]
  rw [if_neg ((not_congr isDoubleDot_encode_iff).mpr habove), if_neg habove]
  by_cases hdot : counted s = ['.']
  · rw [if_pos (isDot_encode_iff.mpr hdot), if_pos rfl, if_pos hdot, Slot.appendTo]
    rfl
  · rw [if_neg ((not_congr isDot_encode_iff).mpr hdot), if_neg hdot, Slot.appendTo]

/-- Texts are appended one after the other, each as its slot says. -/
theorem path_extend (u : Url) (segments : List String) :
    (u.extend segments).path = segments.foldl (fun path s => (slot s).appendTo path) u.path := by
  have hstep : appendSegment = fun path s => (slot s).appendTo path :=
    funext fun path => funext (appendSegment_eq path)
  rw [← hstep]
  rfl

/-! ## What stands at the end of a path -/

/-- The end of a path whose last segment is a name, once a slot is appended to it. -/
def Slot.under (name : List Char) : Slot → List (List Char)
  | .skipped => [name]
  | .above => [[]]
  | .part cs => [name, encode inSegmentSet cs]

/-- A path that ends in a name is not the root. -/
theorem rootless_append {path : List (List Char)} {name : List Char} (h : name ≠ []) :
    rootless (path ++ [name]) = path ++ [name] := by
  refine if_neg fun heq => h ?_
  have hlast := congrArg List.getLast? heq
  rw [List.getLast?_concat] at hlast
  exact Option.some.inj hlast

/-- Behind a name a slot changes the end of the path only. -/
theorem Slot.appendTo_concat (path : List (List Char)) {name : List Char} (h : name ≠ []) (slot : Slot) :
    slot.appendTo (path ++ [name]) = path ++ slot.under name := by
  cases slot with
  | skipped => rfl
  | above => rw [appendTo, rootless_append h, List.dropLast_concat, under]
  | part cs => rw [appendTo, rootless_append h, under, List.append_assoc]; rfl

/-- Different slots leave different ends behind a name. -/
theorem Slot.under_injective {name : List Char} (h : name ≠ []) {a b : Slot} (heq : a.under name = b.under name) :
    a = b := by
  cases a with
  | skipped =>
    cases b with
    | skipped => rfl
    | above => exact absurd (List.cons.inj heq).1 h
    | part cs => cases (List.cons.inj heq).2
  | above =>
    cases b with
    | skipped => exact absurd (List.cons.inj heq).1.symm h
    | above => rfl
    | part cs => cases (List.cons.inj heq).2
  | part cs =>
    cases b with
    | skipped => cases (List.cons.inj heq).2
    | above => cases (List.cons.inj heq).2
    | part ds =>
      have hcs := (List.cons.inj (List.cons.inj heq).2).1
      rw [encode_injective (by decide) hcs]

/-! ## Several texts -/

/-- Whether the first text that is not left out takes the last segment away. -/
def climbs : List String → Bool
  | [] => false
  | s :: rest =>
    match slot s with
    | .skipped => climbs rest
    | .above => true
    | .part _ => false

/-- The characters that divide a URL into its parts. -/
def delimiters : List Char := ['/', '\\', '?', '#']

/-- Whether no delimiter stands in a segment. -/
def IsClosed (segment : List Char) : Prop := ∀ c ∈ delimiters, c ∉ segment

/-- An empty segment has no delimiters. -/
theorem isClosed_nil : IsClosed [] := fun _ _ => List.not_mem_nil

/-- An encoded segment has no delimiters. -/
theorem isClosed_encode (cs : List Char) : IsClosed (encode inSegmentSet cs) := by
  intro c hc
  have hcases : c = '/' ∨ c = '\\' ∨ c = '?' ∨ c = '#' := by simpa [delimiters] using hc
  rcases hcases with rfl | rfl | rfl | rfl <;> exact not_mem_encode (by decide) (by decide) (by decide) cs

section Several

variable {path : List (List Char)} {segments : List String}

/-- A path of two parts is not the root. -/
theorem rootless_of_append {front back : List (List Char)} (hfront : front ≠ []) (hback : back ≠ []) :
    rootless (front ++ back) = front ++ back := by
  refine if_neg fun heq => ?_
  have hlength := congrArg List.length heq
  have hfrontLength := List.length_pos_iff.mpr hfront
  have hbackLength := List.length_pos_iff.mpr hback
  rw [List.length_append, List.length_singleton] at hlength
  omega

/-- Behind a segment, one more text leaves at most one more segment. -/
theorem exists_parts_appendTo (hpath : path ≠ []) {parts : List (List Char)} (hparts : parts ≠ [])
    (hclosed : ∀ part ∈ parts, IsClosed part) (slot : Slot) :
    ∃ more, slot.appendTo (path ++ parts) = path ++ more ∧ more ≠ [] ∧ more.length ≤ parts.length + 1 ∧
      ∀ part ∈ more, IsClosed part := by
  cases slot with
  | skipped => exact ⟨parts, rfl, hparts, Nat.le_succ _, hclosed⟩
  | above =>
    refine ⟨parts.dropLast ++ [[]], ?_, by simp, by simp, ?_⟩
    · rw [Slot.appendTo, rootless_of_append hpath hparts, List.dropLast_append_of_ne_nil hparts, List.append_assoc]
    · intro part hpart
      rcases List.mem_append.mp hpart with hpart | hpart
      · exact hclosed part (List.dropLast_subset parts hpart)
      · exact List.mem_singleton.mp hpart ▸ isClosed_nil
  | part cs =>
    refine ⟨parts ++ [encode inSegmentSet cs], ?_, by simp, by simp, ?_⟩
    · rw [Slot.appendTo, rootless_of_append hpath hparts, List.append_assoc]
    · intro part hpart
      rcases List.mem_append.mp hpart with hpart | hpart
      · exact hclosed part hpart
      · exact List.mem_singleton.mp hpart ▸ isClosed_encode cs

/-- Behind a segment, texts leave at most as many segments as they are. -/
theorem exists_parts_foldl (hpath : path ≠ []) {parts : List (List Char)} (hparts : parts ≠ [])
    (hclosed : ∀ part ∈ parts, IsClosed part) (segments : List String) :
    ∃ more, segments.foldl (fun path s => (slot s).appendTo path) (path ++ parts) = path ++ more ∧
      more.length ≤ parts.length + segments.length ∧ ∀ part ∈ more, IsClosed part := by
  induction segments generalizing parts with
  | nil => exact ⟨parts, rfl, Nat.le_refl _, hclosed⟩
  | cons s rest ih =>
    obtain ⟨next, hnext, hne, hlength, hnextClosed⟩ := exists_parts_appendTo hpath hparts hclosed (slot s)
    obtain ⟨more, hmore, hmoreLength, hmoreClosed⟩ := ih hne hnextClosed
    refine ⟨more, ?_, ?_, hmoreClosed⟩
    · rw [List.foldl_cons, hnext, hmore]
    · rw [List.length_cons]
      omega

/-- Texts that do not climb stay below the last segment. -/
theorem foldl_of_not_climbs {name : List Char} (hname : name ≠ []) (h : climbs segments = false) :
    ∃ parts, segments.foldl (fun path s => (slot s).appendTo path) (path ++ [name]) = path ++ [name] ++ parts ∧
      parts.length ≤ segments.length ∧ ∀ part ∈ parts, IsClosed part := by
  induction segments with
  | nil => exact ⟨[], (List.append_nil _).symm, Nat.le_refl _, List.forall_mem_nil _⟩
  | cons s rest ih =>
    rw [climbs] at h
    rw [List.foldl_cons, Slot.appendTo_concat path hname]
    cases hslot : slot s with
    | skipped =>
      rw [hslot] at h
      obtain ⟨parts, hparts, hlength, hclosed⟩ := ih h
      exact ⟨parts, hparts, Nat.le_succ_of_le hlength, hclosed⟩
    | above =>
      rw [hslot] at h
      cases h
    | part cs =>
      have hfront : path ++ Slot.under name (.part cs) = (path ++ [name]) ++ [encode inSegmentSet cs] := by
        rw [List.append_assoc]
        rfl
      obtain ⟨parts, hparts, hlength, hclosed⟩ :=
        exists_parts_foldl (List.append_ne_nil_of_right_ne_nil path (List.cons_ne_nil name []))
          (List.cons_ne_nil (encode inSegmentSet cs) []) (List.forall_mem_singleton.mpr (isClosed_encode cs)) rest
      rw [hfront, hparts]
      refine ⟨parts, rfl, ?_, hclosed⟩
      rw [List.length_singleton] at hlength
      rw [List.length_cons]
      omega

/-- Where the last segment was taken away, an empty one stays. -/
theorem foldl_of_emptied (hpath : path ≠ []) (more : List (List Char)) (segments : List String) :
    ∃ others,
      segments.foldl (fun path s => (slot s).appendTo path) (path ++ [] :: more) = path ++ [] :: others := by
  induction segments generalizing more with
  | nil => exact ⟨more, rfl⟩
  | cons s rest ih =>
    have hstep : ∃ next, (slot s).appendTo (path ++ [] :: more) = path ++ [] :: next := by
      have hrootless := rootless_of_append hpath (List.cons_ne_nil [] more)
      cases slot s with
      | skipped => exact ⟨more, rfl⟩
      | above =>
        rw [Slot.appendTo, hrootless, List.dropLast_append_of_ne_nil (List.cons_ne_nil [] more), List.append_assoc]
        cases more with
        | nil => exact ⟨[], rfl⟩
        | cons m more => exact ⟨(m :: more).dropLast ++ [[]], rfl⟩
      | part cs =>
        rw [Slot.appendTo, hrootless, List.append_assoc]
        exact ⟨more ++ [encode inSegmentSet cs], rfl⟩
    obtain ⟨next, hnext⟩ := hstep
    rw [List.foldl_cons, hnext]
    exact ih next

/-- Texts that climb replace the last segment. -/
theorem foldl_of_climbs (hpath : path ≠ []) {name : List Char} (hname : name ≠ []) (h : climbs segments = true) :
    ∃ others, segments.foldl (fun path s => (slot s).appendTo path) (path ++ [name]) = path ++ [] :: others := by
  induction segments with
  | nil => cases h
  | cons s rest ih =>
    rw [climbs] at h
    rw [List.foldl_cons, Slot.appendTo_concat path hname]
    cases hslot : slot s with
    | skipped =>
      rw [hslot] at h
      exact ih h
    | above => exact foldl_of_emptied hpath [] rest
    | part cs =>
      rw [hslot] at h
      cases h

end Several

/-! ## Written paths -/

/-- Paths are written one after the other. -/
theorem pathChars_append (front back : List (List Char)) :
    pathChars (front ++ back) = pathChars front ++ pathChars back := List.flatMap_append

/-- Segments are written one by one, each behind a slash. -/
theorem pathChars_cons (segment : List Char) (rest : List (List Char)) :
    pathChars (segment :: rest) = '/' :: (segment ++ pathChars rest) := rfl

/-- A segment without slash is read off the path that it starts. -/
theorem takeWhile_pathChars {segment : List Char} (h : '/' ∉ segment) (rest : List (List Char)) :
    (segment ++ pathChars rest).takeWhile (· ≠ '/') = segment := by
  cases rest with
  | nil =>
    rw [List.takeWhile_append_of_pos (Text.all_ne_of_not_mem h)]
    exact List.append_nil segment
  | cons next rest => exact Text.takeWhile_ne h _

/-- Paths whose segments hold no slash are told apart by what is written. -/
theorem pathChars_injective {xs ys : List (List Char)} (hxs : ∀ x ∈ xs, '/' ∉ x) (hys : ∀ y ∈ ys, '/' ∉ y)
    (h : pathChars xs = pathChars ys) : xs = ys := by
  induction xs generalizing ys with
  | nil =>
    cases ys with
    | nil => rfl
    | cons y ys => cases h
  | cons x xs ih =>
    cases ys with
    | nil => cases h
    | cons y ys =>
      obtain ⟨hx, hxrest⟩ := List.forall_mem_cons.mp hxs
      obtain ⟨hy, hyrest⟩ := List.forall_mem_cons.mp hys
      rw [pathChars_cons, pathChars_cons, List.cons.injEq] at h
      have hfirst : x = y := by rw [← takeWhile_pathChars hx xs, h.2, takeWhile_pathChars hy ys]
      subst hfirst
      rw [ih hxrest hyrest (List.append_cancel_left h.2)]

/-- Paths that differ in the middle at most are told apart by what is written there. -/
theorem pathChars_between_iff {xs ys : List (List Char)} (hxs : ∀ x ∈ xs, '/' ∉ x) (hys : ∀ y ∈ ys, '/' ∉ y)
    (front back : List (List Char)) :
    pathChars (front ++ xs ++ back) = pathChars (front ++ ys ++ back) ↔ xs = ys := by
  constructor
  · intro h
    rw [pathChars_append, pathChars_append, pathChars_append, pathChars_append] at h
    exact pathChars_injective hxs hys (List.append_cancel_left (List.append_cancel_right h))
  · rintro rfl
    rfl

/-- No slot leaves a slash within a segment. -/
theorem slash_not_mem_under {name : List Char} (hname : '/' ∉ name) (s : Slot) : ∀ x ∈ s.under name, '/' ∉ x := by
  cases s with
  | skipped => exact List.forall_mem_singleton.mpr hname
  | above => exact List.forall_mem_singleton.mpr List.not_mem_nil
  | part cs =>
    exact List.forall_mem_cons.mpr ⟨hname, List.forall_mem_singleton.mpr (isClosed_encode cs '/' (by decide))⟩

/-- Paths with a slot in them are written alike exactly if the slots are the same. -/
theorem pathChars_under_iff {name : List Char} (hne : name ≠ []) (hname : '/' ∉ name)
    (front back : List (List Char)) (a b : Slot) :
    pathChars (front ++ a.under name ++ back) = pathChars (front ++ b.under name ++ back) ↔ a = b := by
  rw [pathChars_between_iff (slash_not_mem_under hname a) (slash_not_mem_under hname b)]
  exact ⟨Slot.under_injective hne, fun h => h ▸ rfl⟩

end GatewayOperator.Url
