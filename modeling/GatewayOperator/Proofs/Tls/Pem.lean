import GatewayOperator.Proofs.Text.Path
import GatewayOperator.Tls.Pem
import Mathlib.Data.List.Infix

/-!
# The first block of a text

Bytes hold a block if they fall into lines of which one is its header, a later one its end, and those in between
its contents. The reader finds the first block and nothing else. It passes over lines without the mark of a header
one by one, so such lines can be put in front of the block, and it never looks at what follows the end line.
-/

set_option autoImplicit false

namespace GatewayOperator.Tls.Pem

/-! ## Lines -/

/-- The byte that ends a line. -/
abbrev lineFeed : UInt8 := 0x0A

/-- Lines as they stand in a text that goes on, each with its line feed. -/
def ended (ls : List (List UInt8)) : List UInt8 := ls.flatMap fun line => line ++ [lineFeed]

/-- Whether a line is over where these bytes begin. -/
def EndsLine (bytes : List UInt8) : Prop := bytes = [] ∨ ∃ rest, bytes = lineFeed :: rest

/-- Lines stand one after the other, each with its line feed. -/
theorem ended_cons (line : List UInt8) (rest : List (List UInt8)) :
    ended (line :: rest) = line ++ lineFeed :: ended rest := by
  simp [ended]

/-- A line feed at the front ends an empty line. -/
theorem lines_lineFeed (rest : List UInt8) : lines (lineFeed :: rest) = [] :: lines rest := rfl

/-- A byte that is no line feed joins the first line. -/
theorem lines_cons {b : UInt8} (hb : b ≠ lineFeed) {rest line : List UInt8} {others : List (List UInt8)}
    (h : lines rest = line :: others) : lines (b :: rest) = (b :: line) :: others := by
  rw [lines, if_neg hb, h]

/-- A line with its line feed is the first line. -/
theorem lines_append_lineFeed {line : List UInt8} (h : lineFeed ∉ line) (rest : List UInt8) :
    lines (line ++ lineFeed :: rest) = line :: lines rest := by
  induction line with
  | nil => exact lines_lineFeed rest
  | cons b line ih =>
    obtain ⟨hb, hline⟩ := not_or.mp (List.mem_cons.not.mp h)
    exact lines_cons (Ne.symm hb) (ih hline)

/-- A line that is over where the rest begins is the first line. -/
theorem exists_lines_append {line tail : List UInt8} (h : lineFeed ∉ line) (hne : line ≠ [])
    (htail : EndsLine tail) : ∃ after, lines (line ++ tail) = line :: after := by
  rcases htail with rfl | ⟨rest, rfl⟩
  · refine ⟨[], ?_⟩
    rw [List.append_nil]
    induction line with
    | nil => exact absurd rfl hne
    | cons b line ih =>
      obtain ⟨hb, hline⟩ := not_or.mp (List.mem_cons.not.mp h)
      cases line with
      | nil => rw [lines, if_neg (Ne.symm hb), lines]
      | cons c line => exact lines_cons (Ne.symm hb) (ih hline (List.cons_ne_nil c line))
  · exact ⟨lines rest, lines_append_lineFeed h rest⟩

/-- Lines that have ended are read as they are, whatever follows. -/
theorem lines_ended {ls : List (List UInt8)} (h : ∀ line ∈ ls, lineFeed ∉ line) (rest : List UInt8) :
    lines (ended ls ++ rest) = ls ++ lines rest := by
  induction ls with
  | nil => rfl
  | cons line ls ih =>
    obtain ⟨hline, hls⟩ := List.forall_mem_cons.mp h
    rw [ended_cons, List.append_assoc, List.cons_append, lines_append_lineFeed hline, ih hls, List.cons_append]

/-- The first line of a text is over where the rest begins, and the other lines are those behind its line
feed. -/
theorem eq_append_of_lines {bytes line : List UInt8} {others : List (List UInt8)}
    (h : lines bytes = line :: others) :
    lineFeed ∉ line ∧ ∃ tail, bytes = line ++ tail ∧ EndsLine tail ∧
      (others ≠ [] → ∃ rest, tail = lineFeed :: rest ∧ lines rest = others) := by
  induction bytes generalizing line with
  | nil => cases h
  | cons b rest ih =>
    by_cases hb : b = lineFeed
    · subst hb
      rw [lines_lineFeed] at h
      obtain ⟨rfl, hothers⟩ := List.cons.inj h
      exact ⟨List.not_mem_nil, lineFeed :: rest, rfl, .inr ⟨rest, rfl⟩, fun _ => ⟨rest, rfl, hothers⟩⟩
    rw [lines, if_neg hb] at h
    cases hrest : lines rest with
    | nil =>
      -- the byte is the last one
      rw [hrest] at h
      obtain ⟨rfl, rfl⟩ := List.cons.inj h
      have hempty : rest = [] := by
        cases rest with
        | nil => rfl
        | cons c more =>
          rw [lines] at hrest
          split at hrest
          · cases hrest
          · split at hrest <;> cases hrest
      subst hempty
      refine ⟨?_, [], rfl, .inl rfl, fun hne => absurd rfl hne⟩
      rw [List.mem_singleton]
      exact fun heq => hb heq.symm
    | cons first more =>
      rw [hrest] at h
      obtain ⟨rfl, rfl⟩ := List.cons.inj h
      obtain ⟨hfirst, tail, rfl, hends, hmore⟩ := ih hrest
      refine ⟨?_, tail, rfl, hends, hmore⟩
      exact List.mem_cons.not.mpr (not_or.mpr ⟨fun heq => hb heq.symm, hfirst⟩)

/-- Lines before a line stand in the text each with its line feed. -/
theorem exists_ended_of_lines {ls others : List (List UInt8)} {bytes line : List UInt8}
    (h : lines bytes = ls ++ line :: others) :
    (∀ x ∈ ls, lineFeed ∉ x) ∧ ∃ rest, bytes = ended ls ++ rest ∧ lines rest = line :: others := by
  induction ls generalizing bytes with
  | nil => exact ⟨List.forall_mem_nil _, bytes, rfl, h⟩
  | cons first ls ih =>
    obtain ⟨hfirst, tail, rfl, -, hmore⟩ := eq_append_of_lines h
    obtain ⟨rest, rfl, hrest⟩ := hmore (by simp)
    obtain ⟨hls, last, rfl, hlast⟩ := ih hrest
    refine ⟨List.forall_mem_cons.mpr ⟨hfirst, hls⟩, last, ?_, hlast⟩
    rw [ended_cons, List.append_assoc, List.cons_append]

/-! ## Blocks -/

/-- Whether a line is one text. -/
structure Reads (line : List UInt8) (text : String) : Prop where
  whole : lineFeed ∉ line
  decoded : Text.Utf8.read? line = some text

/-- Whether a line is a text that starts with a mark. -/
def IsMarked (mark : List Char) (line : List UInt8) : Prop := ∃ text, Reads line text ∧ mark <+: text.toList

/-- Whether a line is a text that does not start with a mark. -/
def IsUnmarked (mark : List Char) (line : List UInt8) : Prop :=
  ∃ text, Reads line text ∧ ¬ mark <+: text.toList

/-- Whether a text is the header of a block with a label: the mark, the label, which ends at the first dash, and
later five dashes in a row. -/
def Titles (text label : String) : Prop :=
  ∃ rest, text.toList = headerMark ++ (label.toList ++ '-' :: rest) ∧ '-' ∉ label.toList ∧
    dashes <:+: label.toList ++ '-' :: rest

/-- The text of a block: its lines, each but for the blanks at its end. -/
def gathered (texts : List String) : String := String.join (texts.map Text.trimEnd)

/-- Whether the first block of a text has a label and contents: there are lines without the mark of a header, a
header with the label, lines without the mark of an end that together are the contents in Base64, and a line with
the mark of an end. The lines of the block are given with their texts. -/
inductive FirstBlock (bytes : List UInt8) (block : Pem) : Prop
  | intro (before : List (List UInt8)) (held : List (List UInt8 × String)) (header last tail : List UInt8)
      (title : String) (layout : bytes = ended (before ++ header :: held.map Prod.fst) ++ (last ++ tail))
      (skipped : ∀ line ∈ before, IsUnmarked headerMark line)
      (headed : Reads header title) (titled : Titles title block.label)
      (inside : ∀ line ∈ held, Reads line.1 line.2 ∧ ¬ endMark <+: line.2.toList)
      (closed : IsMarked endMark last) (complete : EndsLine tail)
      (decoded : Text.Base64.decode? (Text.utf8 (gathered (held.map Prod.snd))) = some block.contents)

/-- Whether a text holds a line with the mark of a header and a later one with the mark of an end, so that the
first block is complete. -/
inductive Complete (bytes : List UInt8) : Prop
  | intro (before between : List (List UInt8)) (header last tail : List UInt8)
      (layout : bytes = ended (before ++ header :: between) ++ (last ++ tail))
      (whole : ∀ line ∈ before ++ between, lineFeed ∉ line)
      (headed : IsMarked headerMark header) (closed : IsMarked endMark last) (complete : EndsLine tail)

/-- A text holds a word if the word stands somewhere in it. -/
theorem holds_iff (word text : List Char) : holds word text = true ↔ word <:+: text := by
  induction text with
  | nil => simp [holds]
  | cons c rest ih =>
    rw [holds, Bool.or_eq_true, List.isPrefixOf_iff_prefix, ih, List.infix_cons_iff]

/-- The label of a header. -/
theorem label?_eq_some_iff {text label : String} (h : headerMark <+: text.toList) :
    label? text.toList = some label ↔ Titles text label := by
  obtain ⟨rest, hrest⟩ := h
  unfold label?
  rw [← hrest, List.drop_left]
  dsimp only
  constructor
  · intro hlabel
    split at hlabel
    · next hholds =>
      rw [Option.some.injEq] at hlabel
      have hdashes : dashes <:+: rest := (holds_iff _ _).mp hholds
      obtain ⟨front, tail, rfl, hfront⟩ := List.eq_append_cons_of_mem (hdashes.subset (by decide : '-' ∈ dashes))
      rw [Text.takeWhile_ne hfront] at hlabel
      subst hlabel
      rw [← String.toList_ofList (l := front)] at hrest hfront hdashes
      exact ⟨tail, hrest.symm, hfront, hdashes⟩
    · cases hlabel
  · rintro ⟨tail, htext, hlabel, hdashes⟩
    obtain rfl : rest = label.toList ++ '-' :: tail := List.append_cancel_left (hrest.trans htext)
    rw [if_pos ((holds_iff _ _).mpr hdashes), Text.takeWhile_ne hlabel, String.ofList_toList]

/-- A header has the mark of one. -/
theorem Titles.isMarked {text label : String} (h : Titles text label) : headerMark <+: text.toList := by
  obtain ⟨rest, htext, -⟩ := h
  rw [htext]
  exact List.prefix_append _ _

/-! ## Reading line by line -/

section Reading

variable {line : List UInt8} {text : String} {rest after after' : List (List UInt8)}

/-- Lines are gathered one by one, without the blanks at their ends. -/
theorem gathered_cons {texts : List String} :
    gathered (text :: texts) = Text.trimEnd text ++ gathered texts := by
  rw [gathered, List.map_cons, String.join_cons, gathered]

/-- A line with the mark of an end closes the block. -/
theorem body?_of_end (hread : Text.Utf8.read? line = some text) (hend : endMark <+: text.toList) :
    body? (line :: rest) = some "" := by
  rw [body?, hread]
  exact if_pos (List.isPrefixOf_iff_prefix.mpr hend)

/-- Any other line belongs to the block. -/
theorem body?_of_not_end (hread : Text.Utf8.read? line = some text) (hend : ¬ endMark <+: text.toList) :
    body? (line :: rest) = (body? rest).map fun more => Text.trimEnd text ++ more := by
  rw [body?, hread]
  exact if_neg (List.isPrefixOf_iff_prefix.not.mpr hend)

/-- A line with the mark of a header starts the block. -/
theorem ofLines?_of_header (hread : Text.Utf8.read? line = some text) (hheader : headerMark <+: text.toList) :
    ofLines? (line :: rest) =
      (label? text.toList).bind fun label =>
        ((body? rest).bind fun body => Text.Base64.decode? (Text.utf8 body)).map fun contents =>
          ⟨label, contents⟩ := by
  rw [ofLines?, hread]
  dsimp only
  rw [if_pos (List.isPrefixOf_iff_prefix.mpr hheader)]
  cases label? text.toList with
  | none => rfl
  | some label => cases (body? rest).bind fun body => Text.Base64.decode? (Text.utf8 body) <;> rfl

/-- Any other line is passed over. -/
theorem ofLines?_of_not_header (hread : Text.Utf8.read? line = some text)
    (hheader : ¬ headerMark <+: text.toList) : ofLines? (line :: rest) = ofLines? rest := by
  rw [ofLines?, hread]
  exact if_neg (List.isPrefixOf_iff_prefix.not.mpr hheader)

/-- A line that is no text ends the search without a block. -/
theorem ofLines?_of_unread (hread : Text.Utf8.read? line = none) : ofLines? (line :: rest) = none := by
  rw [ofLines?, hread]

/-- The text of a block is found exactly if there is an end line, and then it is made of the lines up to it. -/
theorem body?_eq_some_iff {ls : List (List UInt8)} {body : String} :
    body? ls = some body ↔
      ∃ (held : List (List UInt8 × String)) (last : List UInt8) (after : List (List UInt8)),
        ls = held.map Prod.fst ++ last :: after ∧
          (∀ line ∈ held, Text.Utf8.read? line.1 = some line.2 ∧ ¬ endMark <+: line.2.toList) ∧
          (∃ text, Text.Utf8.read? last = some text ∧ endMark <+: text.toList) ∧
          body = gathered (held.map Prod.snd) := by
  constructor
  · intro h
    induction ls generalizing body with
    | nil => cases h
    | cons line rest ih =>
      cases hread : Text.Utf8.read? line with
      | none =>
        rw [body?, hread] at h
        cases h
      | some text =>
        by_cases hend : endMark <+: text.toList
        · rw [body?_of_end hread hend, Option.some.injEq] at h
          exact ⟨[], line, rest, rfl, List.forall_mem_nil _, ⟨text, hread, hend⟩, h.symm⟩
        · rw [body?_of_not_end hread hend, Option.map_eq_some_iff] at h
          obtain ⟨more, hmore, rfl⟩ := h
          obtain ⟨held, last, after, rfl, hheld, hlast, rfl⟩ := ih hmore
          exact ⟨(line, text) :: held, last, after, rfl, List.forall_mem_cons.mpr ⟨⟨hread, hend⟩, hheld⟩, hlast,
            gathered_cons.symm⟩
  · rintro ⟨held, last, after, rfl, hheld, ⟨text, hread, hend⟩, rfl⟩
    induction held with
    | nil => exact body?_of_end hread hend
    | cons line held ih =>
      obtain ⟨hline, hheld⟩ := List.forall_mem_cons.mp hheld
      rw [List.map_cons, List.cons_append, body?_of_not_end hline.1 hline.2, ih hheld, List.map_cons,
        gathered_cons]
      rfl

/-- Nothing behind an end line matters. -/
theorem body?_append (hlast : IsMarked endMark line) (between : List (List UInt8)) :
    body? (between ++ line :: after) = body? (between ++ line :: after') := by
  obtain ⟨text, hreads, hend⟩ := hlast
  induction between with
  | nil =>
    rw [List.nil_append, List.nil_append, body?_of_end hreads.decoded hend, body?_of_end hreads.decoded hend]
  | cons first between ih => simp only [List.cons_append, body?, ih]

/-- Nothing behind a complete block matters. -/
theorem ofLines?_append {header last : List UInt8} (hheader : IsMarked headerMark header)
    (hlast : IsMarked endMark last) (before between : List (List UInt8)) :
    ofLines? (before ++ header :: (between ++ last :: after)) =
      ofLines? (before ++ header :: (between ++ last :: after')) := by
  obtain ⟨title, htitle, hmark⟩ := hheader
  induction before with
  | nil =>
    rw [List.nil_append, List.nil_append, ofLines?_of_header htitle.decoded hmark,
      ofLines?_of_header htitle.decoded hmark, body?_append hlast]
  | cons first before ih =>
    -- an earlier header would be the one that counts, and its block ends no later
    have hbody : body? (before ++ header :: between ++ last :: after) =
        body? (before ++ header :: between ++ last :: after') := body?_append hlast _
    simp only [List.append_assoc, List.cons_append] at hbody
    simp only [List.cons_append, ofLines?, ih, hbody]

/-- Lines without the mark of a header are passed over. -/
theorem ofLines?_unmarked {extra : List (List UInt8)} (h : ∀ line ∈ extra, IsUnmarked headerMark line) :
    ofLines? (extra ++ rest) = ofLines? rest := by
  induction extra with
  | nil => rfl
  | cons line extra ih =>
    obtain ⟨⟨text, hreads, hmark⟩, hextra⟩ := List.forall_mem_cons.mp h
    rw [List.cons_append, ofLines?_of_not_header hreads.decoded hmark, ih hextra]

/-- The lines before the first header of a block that is read, and what is read from there on. -/
theorem exists_header_of_ofLines? {ls : List (List UInt8)} {block : Pem} (h : ofLines? ls = some block) :
    ∃ before header rest title body, ls = before ++ header :: rest ∧
      (∀ line ∈ before, ∃ text, Text.Utf8.read? line = some text ∧ ¬ headerMark <+: text.toList) ∧
      Text.Utf8.read? header = some title ∧ Titles title block.label ∧ body? rest = some body ∧
      Text.Base64.decode? (Text.utf8 body) = some block.contents := by
  induction ls with
  | nil => cases h
  | cons line rest ih =>
    cases hread : Text.Utf8.read? line with
    | none =>
      rw [ofLines?_of_unread hread] at h
      cases h
    | some text =>
      by_cases hmark : headerMark <+: text.toList
      · rw [ofLines?_of_header hread hmark, Option.bind_eq_some_iff] at h
        obtain ⟨label, hlabel, h⟩ := h
        obtain ⟨contents, hcontents, rfl⟩ := Option.map_eq_some_iff.mp h
        obtain ⟨body, hbody, hdecoded⟩ := Option.bind_eq_some_iff.mp hcontents
        exact ⟨[], line, rest, text, body, rfl, List.forall_mem_nil _, hread, (label?_eq_some_iff hmark).mp hlabel,
          hbody, hdecoded⟩
      · rw [ofLines?_of_not_header hread hmark] at h
        obtain ⟨before, header, rest, title, body, rfl, hbefore, hmore⟩ := ih h
        exact ⟨line :: before, header, rest, title, body, rfl,
          List.forall_mem_cons.mpr ⟨⟨text, hread, hmark⟩, hbefore⟩, hmore⟩

end Reading

/-! ## Reading bytes -/

/-- A line with a mark is not empty. -/
theorem IsMarked.ne_nil {mark : List Char} (hmark : mark ≠ []) {line : List UInt8} (h : IsMarked mark line) :
    line ≠ [] := by
  rintro rfl
  obtain ⟨text, hreads, hprefix⟩ := h
  obtain rfl : "" = text := Option.some.inj hreads.decoded
  exact hmark (List.prefix_nil.mp hprefix)

/-- A line with a mark is one line. -/
theorem IsMarked.whole {mark : List Char} {line : List UInt8} (h : IsMarked mark line) : lineFeed ∉ line := by
  obtain ⟨text, hreads, -⟩ := h
  exact hreads.whole

/-- What is read is the first block. -/
theorem read?_eq_some_iff (bytes : List UInt8) (block : Pem) :
    read? bytes = some block ↔ FirstBlock bytes block := by
  constructor
  · intro h
    obtain ⟨before, header, rest, title, body, hlines, hbefore, htitle, htitled, hbody, hdecoded⟩ :=
      exists_header_of_ofLines? h
    obtain ⟨held, last, after, rfl, hheld, ⟨text, hlast, hend⟩, rfl⟩ := body?_eq_some_iff.mp hbody
    have hsplit : lines bytes = (before ++ header :: held.map Prod.fst) ++ last :: after := by
      rw [hlines, List.append_assoc, List.cons_append]
    obtain ⟨hwhole, remains, hbytes, hremains⟩ := exists_ended_of_lines hsplit
    obtain ⟨hlastWhole, tail, rfl, hover, -⟩ := eq_append_of_lines hremains
    refine .intro before held header last tail title hbytes ?_ ⟨hwhole header (by simp), htitle⟩ htitled ?_
      ⟨text, ⟨hlastWhole, hlast⟩, hend⟩ hover hdecoded
    · intro line hline
      obtain ⟨text, hread, hmark⟩ := hbefore line hline
      exact ⟨text, ⟨hwhole line (by simp [hline]), hread⟩, hmark⟩
    · intro line hline
      have hmem : line.1 ∈ held.map Prod.fst := List.mem_map_of_mem hline
      exact ⟨⟨hwhole line.1 (by simp [hmem]), (hheld line hline).1⟩, (hheld line hline).2⟩
  · rintro ⟨before, held, header, last, tail, title, rfl, hskipped, hheaded, htitled, hheld, hclosed, hover,
      hdecoded⟩
    have hwhole : ∀ line ∈ before ++ header :: held.map Prod.fst, lineFeed ∉ line := by
      intro line hline
      rcases List.mem_append.mp hline with hline | hline
      · obtain ⟨text, hreads, -⟩ := hskipped line hline
        exact hreads.whole
      rcases List.mem_cons.mp hline with rfl | hline
      · exact hheaded.whole
      · obtain ⟨pair, hpair, rfl⟩ := List.mem_map.mp hline
        exact (hheld pair hpair).1.whole
    obtain ⟨after, hafter⟩ := exists_lines_append hclosed.whole (hclosed.ne_nil (by decide)) hover
    have hbody : body? (held.map Prod.fst ++ last :: after) = some (gathered (held.map Prod.snd)) := by
      obtain ⟨text, hreads, hend⟩ := hclosed
      exact body?_eq_some_iff.mpr ⟨held, last, after, rfl,
        fun line hline => ⟨(hheld line hline).1.decoded, (hheld line hline).2⟩, ⟨text, hreads.decoded, hend⟩, rfl⟩
    have hmark := htitled.isMarked
    show ofLines? (lines _) = _
    rw [lines_ended hwhole, hafter, List.append_assoc, List.cons_append, ofLines?_unmarked hskipped,
      ofLines?_of_header hheaded.decoded hmark, (label?_eq_some_iff hmark).mpr htitled, hbody, Option.bind_some,
      Option.bind_some, hdecoded]
    rfl

/-- What is read does not change when a line feed and any bytes are put behind a complete block. -/
theorem read?_append {bytes : List UInt8} (h : Complete bytes) (more : List UInt8) :
    read? (bytes ++ lineFeed :: more) = read? bytes := by
  obtain ⟨before, between, header, last, tail, rfl, hwhole, hheaded, hclosed, hover⟩ := h
  have hall : ∀ line ∈ before ++ header :: between, lineFeed ∉ line := by
    intro line hline
    rcases List.mem_append.mp hline with hline | hline
    · exact hwhole line (List.mem_append_left _ hline)
    rcases List.mem_cons.mp hline with rfl | hline
    · exact hheaded.whole
    · exact hwhole line (List.mem_append_right _ hline)
  have hne := hclosed.ne_nil (by decide)
  have hoverMore : EndsLine (tail ++ lineFeed :: more) := by
    rcases hover with rfl | ⟨rest, rfl⟩
    · exact .inr ⟨more, rfl⟩
    · exact .inr ⟨rest ++ lineFeed :: more, rfl⟩
  obtain ⟨after, hafter⟩ := exists_lines_append hclosed.whole hne hover
  obtain ⟨after', hafter'⟩ := exists_lines_append hclosed.whole hne hoverMore
  unfold read?
  rw [List.append_assoc, List.append_assoc, lines_ended hall, lines_ended hall, hafter, hafter']
  simp only [List.append_assoc, List.cons_append]
  exact ofLines?_append hheaded hclosed before between

end GatewayOperator.Tls.Pem
