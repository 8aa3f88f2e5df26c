import GatewayOperator.Proofs.Url.Host
import GatewayOperator.Url.Parser
import Mathlib.Data.List.TakeDrop
import Mathlib.Data.List.TakeWhile

/-!
# Slashes at the end of a URL

A URL that is read with slashes at its end and without them has the same scheme, user information, host and port
both times. Its query and its fragment are only the same if it has neither, since otherwise the slashes belong to
them.
-/

set_option autoImplicit false

namespace GatewayOperator.Url

/-! ## What is appended -/

/-- Whether a character is a blank or a control. -/
def isBlankOrControl (c : Char) : Bool := c.toNat ≤ 0x20

/-- Slashes, perhaps behind blanks that only count because the slashes follow them. -/
structure Appendix where
  blanks : List Char
  more : Nat
  blank : ∀ c ∈ blanks, c.toNat ≤ 0x20

/-- What is appended. -/
def Appendix.chars (x : Appendix) : List Char := x.blanks ++ '/' :: List.replicate x.more '/'

/-- A row of slashes has slashes only. -/
theorem eq_slash_of_mem {c : Char} {n : Nat} (h : c ∈ '/' :: List.replicate n '/') : c = '/' := by
  rcases List.mem_cons.mp h with rfl | h
  · rfl
  · exact List.eq_of_mem_replicate h

/-- Nothing but slashes, blanks and controls is appended. -/
theorem Appendix.ne_of_mem {x : Appendix} {c d : Char} (hc : c ∈ x.chars) (hd : 0x20 < d.toNat)
    (hslash : d ≠ '/') : c ≠ d := by
  rintro rfl
  rcases List.mem_append.mp hc with hc | hc
  · exact absurd (x.blank c hc) (by omega)
  · exact hslash (eq_slash_of_mem hc)

/-- What is appended is not lost where slashes are written as they are. -/
theorem encode_append_ne {escaped : Char → Bool} (h : escaped '/' = false) (x : Appendix) (cs : List Char) :
    encode escaped (cs ++ x.chars) ≠ encode escaped cs := by
  have hslash : '/' ∈ encode escaped x.chars :=
    List.mem_flatMap.mpr ⟨'/', List.mem_append_right _ (List.mem_cons_self ..), by simp [h]⟩
  have hsplit : encode escaped (cs ++ x.chars) = encode escaped cs ++ encode escaped x.chars := List.flatMap_append
  intro heq
  exact List.ne_nil_of_mem hslash (List.append_right_eq_self.mp (hsplit.symm.trans heq))

/-- What follows a text is not dropped if something of the text is left. -/
theorem dropWhile_append_of_ne_nil {p : Char → Bool} {cs : List Char} (h : cs.dropWhile p ≠ []) (ds : List Char) :
    (cs ++ ds).dropWhile p = cs.dropWhile p ++ ds := by
  rw [List.dropWhile_append, if_neg (by simpa using h)]

/-- What follows a text is not taken if something of the text is left. -/
theorem takeWhile_append_of_ne_nil {p : Char → Bool} {cs : List Char} (h : cs.dropWhile p ≠ []) (ds : List Char) :
    (cs ++ ds).takeWhile p = cs.takeWhile p := by
  rw [List.takeWhile_append, if_neg]
  intro hlength
  have hsplit := congrArg List.length (List.takeWhile_append_dropWhile (p := p) (l := cs))
  rw [List.length_append, hlength] at hsplit
  exact h (List.length_eq_zero_iff.mp (by omega))

/-- The characters that count are those between blanks and controls, without the dropped ones. -/
theorem significant_eq (cs : List Char) :
    significant cs = (((cs.dropWhile isBlankOrControl).reverse.dropWhile isBlankOrControl).reverse).filter
      fun c => !isDropped c := rfl

/-- Slashes at the end of a text count, and so do the blanks before them. -/
theorem exists_significant_append {cs : List Char} (h : significant cs ≠ []) (n : Nat) :
    ∃ x : Appendix, significant (cs ++ '/' :: List.replicate n '/') = significant cs ++ x.chars := by
  have hleft : cs.dropWhile isBlankOrControl ≠ [] := by
    intro heq
    rw [significant_eq, heq] at h
    exact h rfl
  have hslashes : ('/' :: List.replicate n '/').filter (fun c => !isDropped c) = '/' :: List.replicate n '/' := by
    refine List.filter_eq_self.mpr fun c hc => ?_
    rw [eq_slash_of_mem hc]
    decide
  generalize hkept : cs.dropWhile isBlankOrControl = kept at hleft
  have hsplit : kept = (kept.reverse.dropWhile isBlankOrControl).reverse ++
      (kept.reverse.takeWhile isBlankOrControl).reverse := by
    rw [← List.reverse_append, List.takeWhile_append_dropWhile, List.reverse_reverse]
  refine ⟨⟨((kept.reverse.takeWhile isBlankOrControl).reverse).filter fun c => !isDropped c, n, ?_⟩, ?_⟩
  · intro c hc
    have hmem := List.mem_reverse.mp (List.mem_filter.mp hc).1
    exact of_decide_eq_true (List.all_eq_true.mp List.all_takeWhile c hmem)
  · have hlast : ((kept ++ '/' :: List.replicate n '/').reverse.dropWhile isBlankOrControl).reverse =
        kept ++ '/' :: List.replicate n '/' := by
      have hreplicate : '/' :: List.replicate n '/' = List.replicate n '/' ++ ['/'] := by
        rw [← List.replicate_succ, List.replicate_succ']
      rw [hreplicate, ← List.append_assoc, List.reverse_append, List.reverse_singleton, List.singleton_append,
        List.dropWhile_cons_of_neg (by decide), List.reverse_cons, List.reverse_reverse]
    rw [significant_eq, significant_eq, dropWhile_append_of_ne_nil (hkept ▸ hleft), hkept, hlast,
      List.filter_append, hslashes, Appendix.chars, ← List.append_assoc, ← List.filter_append, ← hsplit]

/-- The scheme of a text does not depend on what follows. -/
theorem splitScheme?_append {cs rest : List Char} {scheme : String} (h : splitScheme? cs = some (scheme, rest))
    (ds : List Char) : splitScheme? (cs ++ ds) = some (scheme, rest ++ ds) := by
  cases cs with
  | nil => cases h
  | cons c more =>
    rw [List.cons_append]
    rw [splitScheme?] at h ⊢
    split at h
    · next halpha =>
      split at h
      · next found hcolon =>
        cases h
        have hne : (c :: more).dropWhile isSchemeChar ≠ [] := by
          rw [hcolon]
          exact List.cons_ne_nil _ _
        rw [if_pos halpha, ← List.cons_append, dropWhile_append_of_ne_nil hne, hcolon,
          takeWhile_append_of_ne_nil hne]
        rfl
      · cases h
    · cases h

/-! ## Parts of the text of a web URL -/

/-- The text from the authority on. -/
def body (cs : List Char) : List Char := cs.dropWhile fun c => c = '/' || c = '\\'

/-- The text of the authority. -/
def authority (cs : List Char) : List Char := (body cs).takeWhile fun c => !endsAuthority true c

/-- The text behind the authority. -/
def remainder (cs : List Char) : List Char := (body cs).dropWhile fun c => !endsAuthority true c

/-- The texts of the host and of the port. -/
def hostAndPort (cs : List Char) : List Char × List Char := splitHost false (splitUserinfo (authority cs)).2

/-- The text of the query and the fragment. -/
def tail (cs : List Char) : List Char := (remainder cs).dropWhile fun c => c ≠ '?' && c ≠ '#'

/-- Whether a URL is made of the parts of a text, but for its path. -/
structure MadeOf (scheme : Scheme) (cs : List Char) (u : Url) : Prop where
  named : (hostAndPort cs).1 ≠ []
  scheme_eq : u.scheme = scheme
  userinfo_eq : u.userinfo = (splitUserinfo (authority cs)).1.bind readUserinfo
  host_eq : Host.read (hostAndPort cs).1 = .ok u.host
  port_eq : ∃ port, readPortAfter (hostAndPort cs).2 = .ok port ∧
    u.port = if port = some scheme.defaultPort then none else port
  tail_eq : (u.query, u.fragment) = readTail (tail cs)

/-- A web URL that was read is made of the parts of its text. -/
theorem madeOf_of_readWeb {scheme : Scheme} {cs : List Char} {u : Url} (h : readWeb scheme cs = .ok u) :
    MadeOf scheme cs u := by
  unfold readWeb at h
  simp only [splitAuthority, List.span_eq_takeWhile_dropWhile, bind, Except.bind] at h
  split at h
  · cases h
  · next hnamed =>
    split at h
    · cases h
    · next host hhost =>
      split at h
      · cases h
      · next port hport =>
        cases h
        refine ⟨hnamed, rfl, rfl, ?_, ⟨port, hport, rfl⟩, rfl⟩
        generalize hread : Host.read _ = read at hhost
        cases read with
        | error fault => cases hhost
        | ok other =>
          cases hhost
          exact hread

/-! ## Blanks in an authority -/

section Blanks

variable {blanks : List Char}

/-- Blanks and controls are below every other character. -/
theorem not_mem_blanks (h : ∀ c ∈ blanks, c.toNat ≤ 0x20) {c : Char} (hc : 0x20 < c.toNat) : c ∉ blanks :=
  fun hmem => absurd (h c hmem) (by omega)

/-- A blank does not end an authority. -/
theorem endsAuthority_of_blank {c : Char} (h : c.toNat ≤ 0x20) : endsAuthority true c = false := by
  have hne {d : Char} (hd : 0x20 < d.toNat) : c ≠ d := by
    rintro rfl
    omega
  have hslash : c ≠ '/' := hne (by decide)
  have hquestion : c ≠ '?' := hne (by decide)
  have hhash : c ≠ '#' := hne (by decide)
  have hback : c ≠ '\\' := hne (by decide)
  simp [endsAuthority, hslash, hquestion, hhash, hback]

/-- Blanks at the end of an authority do not belong to the user information. -/
theorem splitUserinfo_append (h : ∀ c ∈ blanks, c.toNat ≤ 0x20) (text : List Char) :
    splitUserinfo (text ++ blanks) = ((splitUserinfo text).1, (splitUserinfo text).2 ++ blanks) := by
  have hpass : ∀ c ∈ blanks.reverse, decide (c ≠ '@') = true :=
    Text.all_ne_of_not_mem fun hmem => not_mem_blanks h (by decide) (List.mem_reverse.mp hmem)
  unfold splitUserinfo
  dsimp only
  rw [List.reverse_append, List.dropWhile_append_of_pos hpass, List.takeWhile_append_of_pos hpass]
  split
  · rfl
  · rw [List.reverse_append, List.reverse_reverse]

/-- Without a colon there is a host and no port. -/
theorem splitHost_of_no_colon {text : List Char} (h : ':' ∉ text) (inBrackets : Bool) :
    splitHost inBrackets text = (text, []) := by
  induction text generalizing inBrackets with
  | nil => rfl
  | cons c rest ih =>
    have hc : c ≠ ':' := (List.ne_of_not_mem_cons h).symm
    rw [splitHost, if_neg (fun hboth => hc hboth.1), ih (List.not_mem_of_not_mem_cons h)]

/-- Blanks at the end of an authority belong to the port if there is one, and to the host otherwise. -/
theorem splitHost_append (h : ∀ c ∈ blanks, c.toNat ≤ 0x20) (inBrackets : Bool) (text : List Char) :
    ((splitHost inBrackets text).2 = [] ∧
        splitHost inBrackets (text ++ blanks) = ((splitHost inBrackets text).1 ++ blanks, [])) ∨
      ((splitHost inBrackets text).2 ≠ [] ∧
        splitHost inBrackets (text ++ blanks) =
          ((splitHost inBrackets text).1, (splitHost inBrackets text).2 ++ blanks)) := by
  induction text generalizing inBrackets with
  | nil => exact .inl ⟨rfl, splitHost_of_no_colon (not_mem_blanks h (by decide)) inBrackets⟩
  | cons c rest ih =>
    rw [List.cons_append, splitHost, splitHost]
    split
    · exact .inr ⟨List.cons_ne_nil _ _, rfl⟩
    · rcases ih (if c = '[' then true else if c = ']' then false else inBrackets) with
        ⟨hnone, hhost⟩ | ⟨hsome, hport⟩
      · exact .inl ⟨hnone, by rw [hhost]; rfl⟩
      · exact .inr ⟨hsome, by rw [hport]⟩

/-- Neither a host nor a port ends in a blank. -/
theorem blanks_eq_nil (h : ∀ c ∈ blanks, c.toNat ≤ 0x20) {text : List Char} {host : Host} {port : Option Nat}
    (hhost : Host.read (splitHost false (text ++ blanks)).1 = .ok host)
    (hport : readPortAfter (splitHost false (text ++ blanks)).2 = .ok port) : blanks = [] := by
  by_contra hne
  obtain ⟨front, last, rfl⟩ : ∃ front last, blanks = front ++ [last] :=
    ⟨blanks.dropLast, blanks.getLast hne, (List.dropLast_concat_getLast hne).symm⟩
  have hlast : last.toNat ≤ 0x20 := h last (by simp)
  rcases splitHost_append h false text with ⟨-, hsplit⟩ | ⟨hsome, hsplit⟩
  · rw [hsplit, ← List.append_assoc] at hhost
    exact host_read_concat hlast _ host hhost
  · rw [hsplit] at hport
    obtain ⟨colon, digits, hdigits⟩ := List.exists_cons_of_ne_nil hsome
    rw [hdigits, List.cons_append, ← List.append_assoc] at hport
    have hletter : Text.isDigit last = false := by
      unfold Text.isDigit
      rw [Bool.and_eq_false_iff]
      exact .inl (decide_eq_false (by omega))
    have hall : ¬ (((digits ++ front) ++ [last]).all Text.isDigit = true ∧
        Text.decimalValue ((digits ++ front) ++ [last]) < 65536) := by
      rw [List.all_append, List.all_cons, hletter, Bool.false_and, Bool.and_false]
      exact fun hboth => Bool.false_ne_true hboth.1
    rw [readPortAfter, readPort, if_neg (by simp), if_neg hall] at hport
    cases hport

end Blanks

/-! ## Parts of a text with slashes at its end -/

section Parts

variable {cs : List Char} {scheme : Scheme} {u v : Url} {x : Appendix}

/-- A URL has something behind its slashes. -/
theorem MadeOf.body_ne_nil (h : MadeOf scheme cs u) : body cs ≠ [] := by
  intro heq
  refine h.named ?_
  rw [hostAndPort, authority, heq]
  rfl

/-- Without anything behind it the authority is the whole body. -/
theorem authority_eq_body (h : remainder cs = []) : authority cs = body cs := by
  have hsplit := List.takeWhile_append_dropWhile (p := fun c => !endsAuthority true c) (l := body cs)
  rwa [← authority, ← remainder, h, List.append_nil] at hsplit

/-- Slashes behind an authority end it, and the blanks before them belong to it. -/
theorem authority_append_of_whole (hbody : body cs ≠ []) (h : remainder cs = []) (x : Appendix) :
    authority (cs ++ x.chars) = authority cs ++ x.blanks ∧
      remainder (cs ++ x.chars) = '/' :: List.replicate x.more '/' := by
  have hpass : ∀ c ∈ authority cs ++ x.blanks, (!endsAuthority true c) = true := by
    intro c hc
    rcases List.mem_append.mp hc with hc | hc
    · exact List.all_eq_true.mp List.all_takeWhile c hc
    · rw [endsAuthority_of_blank (x.blank c hc), Bool.not_false]
  have happend : body (cs ++ x.chars) = authority cs ++ x.blanks ++ '/' :: List.replicate x.more '/' := by
    rw [body, dropWhile_append_of_ne_nil hbody, ← body, authority_eq_body h, Appendix.chars, List.append_assoc]
  constructor
  · rw [authority, happend, List.takeWhile_append_of_pos hpass, List.takeWhile_cons_of_neg (by decide),
      List.append_nil]
  · rw [remainder, happend, List.dropWhile_append_of_pos hpass, List.dropWhile_cons_of_neg (by decide)]

/-- Slashes at the end do not belong to the authority. -/
theorem MadeOf.authority_append (hu : MadeOf scheme cs u) (hv : MadeOf scheme (cs ++ x.chars) v) :
    authority (cs ++ x.chars) = authority cs ∧ remainder (cs ++ x.chars) = remainder cs ++ x.chars := by
  by_cases hrest : remainder cs = []
  · obtain ⟨hauthority, hremainder⟩ := authority_append_of_whole hu.body_ne_nil hrest x
    -- blanks before the slashes would belong to the host or to the port
    have hnone : x.blanks = [] := by
      obtain ⟨port, hport, -⟩ := hv.port_eq
      have hhost := hv.host_eq
      rw [hostAndPort, hauthority, splitUserinfo_append x.blank] at hhost hport
      exact blanks_eq_nil x.blank hhost hport
    rw [hauthority, hremainder, hrest, Appendix.chars, hnone, List.append_nil]
    exact ⟨rfl, rfl⟩
  · rw [authority, remainder, body, dropWhile_append_of_ne_nil hu.body_ne_nil]
    exact ⟨takeWhile_append_of_ne_nil hrest _, dropWhile_append_of_ne_nil hrest _⟩

/-- What is appended starts no query and no fragment. -/
theorem Appendix.dropWhile_chars (x : Appendix) : (x.chars.dropWhile fun c => c ≠ '?' && c ≠ '#') = [] := by
  rw [List.dropWhile_eq_nil_iff]
  intro c hc
  simp [Appendix.ne_of_mem hc (d := '?') (by decide) (by decide),
    Appendix.ne_of_mem hc (d := '#') (by decide) (by decide)]

/-- The query or the fragment is announced. -/
theorem eq_of_tail {c : Char} {rest : List Char} (h : tail cs = c :: rest) : c = '?' ∨ c = '#' := by
  have hhead := List.head?_dropWhile_not (fun c => c ≠ '?' && c ≠ '#') (remainder cs)
  rw [← tail, h] at hhead
  simpa [Decidable.imp_iff_not_or] using hhead

/-- Slashes at the end belong to the query and the fragment if there are any. -/
theorem MadeOf.tail_append (hu : MadeOf scheme cs u) (hv : MadeOf scheme (cs ++ x.chars) v) :
    tail (cs ++ x.chars) = if tail cs = [] then [] else tail cs ++ x.chars := by
  rw [tail, (hu.authority_append hv).2]
  by_cases htail : tail cs = []
  · rw [if_pos htail, List.dropWhile_append, ← tail, htail]
    exact x.dropWhile_chars
  · rw [if_neg htail]
    exact dropWhile_append_of_ne_nil htail _

/-- Without a number sign all of the rest is the query. -/
theorem readTail_of_no_fragment {rest : List Char} (h : rest.dropWhile (· ≠ '#') = []) :
    readTail ('?' :: rest) = (some (encode inQuerySet rest), none) := by
  have hwhole : rest.takeWhile (· ≠ '#') = rest := List.takeWhile_eq_self_iff.mpr (List.dropWhile_eq_nil_iff.mp h)
  rw [readTail, hwhole, h]

/-- What follows the number sign is the fragment. -/
theorem readTail_of_fragment {rest fragment : List Char} {hash : Char}
    (h : rest.dropWhile (· ≠ '#') = hash :: fragment) :
    (readTail ('?' :: rest)).2 = some (encode inFragmentSet fragment) := by
  rw [readTail, h]

/-- Slashes at the end of the query or of the fragment change it. -/
theorem readTail_append_ne {c : Char} (h : c = '?' ∨ c = '#') (rest : List Char) :
    readTail (c :: (rest ++ x.chars)) ≠ readTail (c :: rest) := by
  intro heq
  rcases h with rfl | rfl
  · cases hfound : rest.dropWhile (· ≠ '#') with
    | nil =>
      have hnone : (rest ++ x.chars).dropWhile (· ≠ '#') = [] := by
        rw [List.dropWhile_append, hfound]
        exact List.dropWhile_eq_nil_iff.mpr fun c hc =>
          decide_eq_true (Appendix.ne_of_mem hc (by decide) (by decide))
      rw [readTail_of_no_fragment hfound, readTail_of_no_fragment hnone] at heq
      exact encode_append_ne (by decide) x rest (Option.some.inj (Prod.mk.inj heq).1)
    | cons hash fragment =>
      have hmore : (rest ++ x.chars).dropWhile (· ≠ '#') = hash :: (fragment ++ x.chars) := by
        rw [dropWhile_append_of_ne_nil (hfound ▸ List.cons_ne_nil _ _), hfound, List.cons_append]
      have hfragment := congrArg Prod.snd heq
      rw [readTail_of_fragment hfound, readTail_of_fragment hmore] at hfragment
      exact encode_append_ne (by decide) x fragment (Option.some.inj hfragment)
  · exact encode_append_ne (by decide) x rest (Option.some.inj (Prod.mk.inj heq).2)

/-- A question mark or a number sign starts a query or a fragment, be it an empty one. -/
theorem readTail_ne_none {c : Char} (h : c = '?' ∨ c = '#') (rest : List Char) :
    readTail (c :: rest) ≠ (none, none) := by
  intro heq
  rcases h with rfl | rfl
  · cases (Prod.mk.inj heq).1
  · cases (Prod.mk.inj heq).2

/-- Slashes at the end leave the URL as it is but for its path exactly if there is nothing behind the path. -/
theorem MadeOf.append_iff (hu : MadeOf scheme cs u) (hv : MadeOf scheme (cs ++ x.chars) v) :
    u = { v with path := u.path } ↔ v.query = none ∧ v.fragment = none := by
  obtain ⟨hauthority, -⟩ := hu.authority_append hv
  have hsplit : hostAndPort (cs ++ x.chars) = hostAndPort cs := by rw [hostAndPort, hauthority, ← hostAndPort]
  have hscheme : u.scheme = v.scheme := hu.scheme_eq.trans hv.scheme_eq.symm
  have huserinfo : u.userinfo = v.userinfo := by rw [hu.userinfo_eq, hv.userinfo_eq, hauthority]
  have hhost : u.host = v.host := Except.ok.inj (hu.host_eq.symm.trans (hsplit ▸ hv.host_eq))
  have hport : u.port = v.port := by
    obtain ⟨port, hread, heq⟩ := hu.port_eq
    obtain ⟨port', hread', heq'⟩ := hv.port_eq
    rw [hsplit, hread] at hread'
    rw [heq, heq', Except.ok.inj hread']
  have htails : u = { v with path := u.path } ↔ readTail (tail (cs ++ x.chars)) = readTail (tail cs) := by
    rw [← hu.tail_eq, ← hv.tail_eq, Prod.mk.injEq, Url.mk.injEq]
    simp [hscheme, huserinfo, hhost, hport, eq_comm]
  have hnothing : (v.query = none ∧ v.fragment = none) ↔ readTail (tail (cs ++ x.chars)) = (none, none) := by
    rw [← hv.tail_eq, Prod.mk.injEq]
  rw [htails, hnothing, hu.tail_append hv]
  cases htail : tail cs with
  | nil => exact ⟨fun _ => rfl, fun _ => rfl⟩
  | cons c rest =>
    have hannounced : c = '?' ∨ c = '#' := eq_of_tail htail
    rw [if_neg (List.cons_ne_nil _ _)]
    exact iff_of_false (readTail_append_ne hannounced rest) (readTail_ne_none hannounced _)

end Parts

/-! ## URLs with slashes at their end -/

/-- What is read is a scheme of the web and the text behind it. -/
theorem exists_web {s : String} {u : Url} (h : read s = .ok u) :
    ∃ (scheme : Scheme) (rest : List Char),
      splitScheme? (significant s.toList) = some (scheme.text, rest) ∧ MadeOf scheme rest u := by
  have hforeign (check : Except Fault Unit) : (check >>= fun _ => throw Fault.foreignScheme) ≠ .ok u := by
    cases check <;> exact nofun
  unfold read at h
  split at h
  · cases h
  · next name rest hsplit =>
    by_cases hhttp : name = "http"
    · rw [if_pos hhttp] at h
      exact ⟨.http, rest, by rw [hsplit, hhttp]; rfl, madeOf_of_readWeb h⟩
    rw [if_neg hhttp] at h
    by_cases hhttps : name = "https"
    · rw [if_pos hhttps] at h
      exact ⟨.https, rest, by rw [hsplit, hhttps]; rfl, madeOf_of_readWeb h⟩
    rw [if_neg hhttps] at h
    split at h
    · exact absurd h (hforeign _)
    · split at h <;> exact absurd h (hforeign _)

/-- Schemes with the same text are the same. -/
theorem Scheme.text_injective {a b : Scheme} (h : a.text = b.text) : a = b := by
  cases a <;> cases b <;> first | rfl | exact absurd h (by decide)

/-- A URL that is read with slashes at its end and without them is the same both times but for its path exactly if
it has neither a query nor a fragment. -/
theorem read_slashes_iff {s t : String} {n : Nat} (h : t.toList = s.toList ++ '/' :: List.replicate n '/')
    {u v : Url} (hu : read s = .ok u) (hv : read t = .ok v) :
    u = { v with path := u.path } ↔ v.query = none ∧ v.fragment = none := by
  obtain ⟨scheme, rest, hscheme, hmade⟩ := exists_web hu
  obtain ⟨scheme', rest', hscheme', hmade'⟩ := exists_web hv
  have hne : significant s.toList ≠ [] := by
    intro heq
    rw [heq] at hscheme
    cases hscheme
  obtain ⟨x, hx⟩ := exists_significant_append hne n
  rw [h, hx, splitScheme?_append hscheme] at hscheme'
  obtain ⟨hname, rfl⟩ := Prod.mk.inj (Option.some.inj hscheme')
  obtain rfl := Scheme.text_injective hname
  exact hmade.append_iff hmade'

end GatewayOperator.Url
