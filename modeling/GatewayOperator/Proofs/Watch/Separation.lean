import GatewayOperator.Proofs.Resource.Meta
import GatewayOperator.Proofs.Text.Path
import GatewayOperator.Proofs.Text.Utf8
import GatewayOperator.Watch.Fingerprint

/-!
# Fingerprints separate

A change passes the watch if it changes the fingerprint, so two objects that a pass would treat differently must not
share theirs. The parts of a fingerprint stand one after the other. Each says where it ends, so each can be split off
the front of what follows, whatever that is. The entries of a secret are not counted in front, but what follows them
is too short to hold another entry.
-/

set_option autoImplicit false

namespace GatewayOperator.Watch

open Resource

/-- Whether so many things can be counted in a word of 64 bits. -/
def IsCount (n : Nat) : Prop := n < 18446744073709551616

instance (n : Nat) : Decidable (IsCount n) := inferInstanceAs (Decidable (_ < _))

/-! ## Words -/

/-- A word has eight bytes. -/
theorem length_word (n : Int) : (word n).length = 8 := by
  rw [word, List.length_map, List.length_range]

/-- A number is settled by its bytes, up to the greatest value of so many bytes. -/
theorem mod_pow_congr {u v : Nat} (k : Nat)
    (h : ∀ i < k, u / Nat.pow 256 i % 256 = v / Nat.pow 256 i % 256) :
    u % Nat.pow 256 k = v % Nat.pow 256 k := by
  induction k with
  | zero => exact (Nat.mod_one u).trans (Nat.mod_one v).symm
  | succ k ih =>
    have hlow := ih fun i hi => h i (by omega)
    have hbyte := h k (by omega)
    have hsplit (n : Nat) :
        n % Nat.pow 256 (k + 1) = n % Nat.pow 256 k + Nat.pow 256 k * (n / Nat.pow 256 k % 256) :=
      Nat.mod_pow_succ
    rw [hsplit, hsplit, hlow, hbyte]

/-- A word says which number it is, up to its width, and where it ends. -/
theorem word_append_inj {m n : Int} {xs ys : List UInt8} (h : word m ++ xs = word n ++ ys) :
    m % 18446744073709551616 = n % 18446744073709551616 ∧ xs = ys := by
  obtain ⟨hword, hrest⟩ := List.append_inj h (by rw [length_word, length_word])
  refine ⟨?_, hrest⟩
  have hbytes : ∀ i < 8, (m % 18446744073709551616).toNat / Nat.pow 256 i % 256 =
      (n % 18446744073709551616).toNat / Nat.pow 256 i % 256 := by
    intro i hi
    unfold word at hword
    have hbyte := congrArg UInt8.toNat (List.map_inj_left.mp hword i (List.mem_range.mpr hi))
    rwa [Text.Utf8.toNat_ofNat (Nat.mod_lt _ (by decide)), Text.Utf8.toNat_ofNat (Nat.mod_lt _ (by decide))] at hbyte
  have hmod := mod_pow_congr 8 hbytes
  have hgreatest : Nat.pow 256 8 = 18446744073709551616 := rfl
  rw [hgreatest] at hmod
  omega

/-! ## Parts that say where they end -/

/-- Whether the bytes of a value say where they end: if the same bytes start with those of two values that fit, the
values are the same, and so is what is left behind them. -/
def SelfDelimiting {α : Type} (fits : α → Prop) (encode : α → List UInt8) : Prop :=
  ∀ ⦃a b : α⦄ ⦃xs ys : List UInt8⦄, fits a → fits b → encode a ++ xs = encode b ++ ys → a = b ∧ xs = ys

/-- Numbers in range are written with an end of their own. -/
theorem selfDelimiting_word : SelfDelimiting IsSigned word := by
  intro m n xs ys hm hn h
  obtain ⟨hmod, hrest⟩ := word_append_inj h
  unfold IsSigned at hm hn
  exact ⟨by omega, hrest⟩

/-- Counts are written with an end of their own. -/
theorem selfDelimiting_count : SelfDelimiting IsCount fun n : Nat => word n := by
  intro m n xs ys hm hn h
  obtain ⟨hmod, hrest⟩ := word_append_inj h
  unfold IsCount at hm hn
  exact ⟨by omega, hrest⟩

/-- Texts are written with an end of their own, a byte that no text has. -/
theorem selfDelimiting_text : SelfDelimiting (fun _ => True) text := by
  intro s t xs ys _ _ h
  rw [text, text, List.append_assoc, List.append_assoc] at h
  obtain ⟨hbytes, hrest⟩ := Text.append_delimiter_inj (Text.not_mem_utf8 s) (Text.not_mem_utf8 t) h
  exact ⟨Text.utf8_injective hbytes, hrest⟩

/-- Bytes are written with an end of their own, by their count. -/
theorem selfDelimiting_bytes : SelfDelimiting (fun b => IsCount b.length) bytes := by
  intro a b xs ys ha hb h
  rw [bytes, bytes, List.append_assoc, List.append_assoc] at h
  obtain ⟨hlength, hrest⟩ := selfDelimiting_count ha hb h
  exact List.append_inj hrest hlength

section Parts

variable {α β : Type} {fits : α → Prop} {fits' : β → Prop} {encode : α → List UInt8} {encode' : β → List UInt8}

/-- Pairs are written with an end of their own if their parts are. -/
theorem SelfDelimiting.pair (h : SelfDelimiting fits encode) (h' : SelfDelimiting fits' encode') :
    SelfDelimiting (fun e : α × β => fits e.1 ∧ fits' e.2) fun e => encode e.1 ++ encode' e.2 := by
  rintro ⟨a, b⟩ ⟨a', b'⟩ xs ys ⟨ha, hb⟩ ⟨ha', hb'⟩ heq
  simp only [List.append_assoc] at heq
  obtain ⟨rfl, hrest⟩ := h ha ha' heq
  obtain ⟨rfl, hend⟩ := h' hb hb' hrest
  exact ⟨rfl, hend⟩

/-- Items are split off one after the other until one of two lists ends. -/
theorem SelfDelimiting.exists_common (h : SelfDelimiting fits encode) {as bs : List α} {xs ys : List UInt8}
    (has : ∀ a ∈ as, fits a) (hbs : ∀ b ∈ bs, fits b)
    (heq : as.flatMap encode ++ xs = bs.flatMap encode ++ ys) :
    ∃ common as' bs', as = common ++ as' ∧ bs = common ++ bs' ∧ (as' = [] ∨ bs' = []) ∧
      as'.flatMap encode ++ xs = bs'.flatMap encode ++ ys := by
  induction as generalizing bs with
  | nil => exact ⟨[], [], bs, rfl, rfl, .inl rfl, heq⟩
  | cons a as ih =>
    cases bs with
    | nil => exact ⟨[], a :: as, [], rfl, rfl, .inr rfl, heq⟩
    | cons b bs =>
      rw [List.flatMap_cons, List.flatMap_cons, List.append_assoc, List.append_assoc] at heq
      obtain ⟨ha, has'⟩ := List.forall_mem_cons.mp has
      obtain ⟨hb, hbs'⟩ := List.forall_mem_cons.mp hbs
      obtain ⟨rfl, hrest⟩ := h ha hb heq
      obtain ⟨common, as', bs', rfl, rfl, hends, hleft⟩ := ih has' hbs' hrest
      exact ⟨a :: common, as', bs', rfl, rfl, hends, hleft⟩

/-- A list with its length in front says where it ends if its items do. -/
theorem SelfDelimiting.counted (h : SelfDelimiting fits encode) :
    SelfDelimiting (fun as : List α => IsCount as.length ∧ ∀ a ∈ as, fits a)
      fun as => word as.length ++ as.flatMap encode := by
  rintro as bs xs ys ⟨hcount, has⟩ ⟨hcount', hbs⟩ heq
  simp only [List.append_assoc] at heq
  obtain ⟨hlength, hrest⟩ := selfDelimiting_count hcount hcount' heq
  obtain ⟨common, as', bs', rfl, rfl, hends, hleft⟩ := h.exists_common has hbs hrest
  rw [List.length_append, List.length_append] at hlength
  have hboth : as'.length = 0 ∧ bs'.length = 0 := by
    rcases hends with rfl | rfl <;> rw [List.length_nil] at hlength ⊢ <;> omega
  obtain rfl := List.length_eq_zero_iff.mp hboth.1
  obtain rfl := List.length_eq_zero_iff.mp hboth.2
  exact ⟨rfl, hleft⟩

/-- A list without its length in front can be split off if what follows is too short for another item. -/
theorem SelfDelimiting.uncounted (h : SelfDelimiting fits encode) {least : Nat}
    (hleast : ∀ a, least ≤ (encode a).length) {as bs : List α} {xs ys : List UInt8}
    (has : ∀ a ∈ as, fits a) (hbs : ∀ b ∈ bs, fits b) (hxs : xs.length < least + ys.length)
    (hys : ys.length < least + xs.length)
    (heq : as.flatMap encode ++ xs = bs.flatMap encode ++ ys) : as = bs ∧ xs = ys := by
  have hnone {cs : List α} {zs ws : List UInt8} (hshort : ws.length < least + zs.length)
      (hcs : cs.flatMap encode ++ zs = ws) : cs = [] := by
    cases cs with
    | nil => rfl
    | cons c cs =>
      have hc := hleast c
      have hlength := congrArg List.length hcs
      rw [List.flatMap_cons, List.length_append, List.length_append] at hlength
      omega
  obtain ⟨common, as', bs', rfl, rfl, hends, hleft⟩ := h.exists_common has hbs heq
  rcases hends with rfl | rfl
  · obtain rfl := hnone hxs hleft.symm
    exact ⟨rfl, hleft⟩
  · obtain rfl := hnone hys hleft
    exact ⟨rfl, hleft⟩

end Parts

/-- Lists of texts are written with an end of their own, by their count. -/
theorem selfDelimiting_texts : SelfDelimiting (fun xs => IsCount xs.length) texts := by
  intro as bs xs ys has hbs h
  exact selfDelimiting_text.counted ⟨has, fun _ _ => trivial⟩ ⟨hbs, fun _ _ => trivial⟩ h

/-- Dictionaries of texts are written with an end of their own, by their count. -/
theorem selfDelimiting_dict : SelfDelimiting (fun d => IsCount d.entries.length) dict := by
  intro d e xs ys hd he h
  obtain ⟨hentries, hrest⟩ := (selfDelimiting_text.pair selfDelimiting_text).counted
    ⟨hd, fun _ _ => ⟨trivial, trivial⟩⟩ ⟨he, fun _ _ => ⟨trivial, trivial⟩⟩ h
  exact ⟨Dict.ext_entries hentries, hrest⟩

/-- Of an optional instant the whole seconds can be split off. -/
theorem seconds_append_inj {t u : Option Instant} {xs ys : List UInt8} (ht : ∀ i ∈ t, IsSigned i.seconds)
    (hu : ∀ i ∈ u, IsSigned i.seconds) (h : seconds t ++ xs = seconds u ++ ys) :
    t.map Instant.seconds = u.map Instant.seconds ∧ xs = ys := by
  cases t with
  | none =>
    cases u with
    | none => exact ⟨rfl, List.append_cancel_left h⟩
    | some u =>
      rw [seconds, seconds, List.append_assoc] at h
      exact absurd (word_append_inj h).1 (by decide)
  | some t =>
    cases u with
    | none =>
      rw [seconds, seconds, List.append_assoc] at h
      exact absurd (word_append_inj h).1 (by decide)
    | some u =>
      rw [seconds, seconds, List.append_assoc, List.append_assoc] at h
      obtain ⟨hseconds, hrest⟩ :=
        selfDelimiting_word (ht t rfl) (hu u rfl) (List.append_cancel_left h)
      exact ⟨by rw [Option.map_some, Option.map_some, hseconds], hrest⟩

/-- An instant that may be missing takes one word or two. -/
theorem length_seconds (t : Option Instant) : 8 ≤ (seconds t).length ∧ (seconds t).length ≤ 16 := by
  cases t <;> simp [seconds, length_word]

/-! ## Fingerprints -/

/-- Whether a machine of 64 bits holds metadata: its numbers are words, and its labels, annotations and finalizers
can be counted. -/
structure IsHeld (m : Meta) : Prop where
  numbers : m.IsNumbered
  labels : IsCount m.labelDict.entries.length
  annotations : IsCount m.annotationDict.entries.length
  finalizers : IsCount m.finalizerList.length

/-- Whether a machine of 64 bits holds a secret: the numbers of its metadata are words, and the bytes of each part of
its material can be counted. -/
structure IsHeldSecret (s : Secret) : Prop where
  numbers : s.metadata.IsNumbered
  material : ∀ e ∈ (s.data.getD Dict.empty).entries, IsCount e.2.length

/-- Metadata that was read is held if the bytes of its text can be counted. -/
theorem isHeld_of_decode {j : Json} {m : Meta} (h : Meta.decode j = .ok m) (hwidth : IsCount j.width) : IsHeld m := by
  obtain ⟨hnumbers, hlabels, hannotations, hfinalizers⟩ := Meta.within_of_decode h
  exact ⟨hnumbers, Nat.lt_of_le_of_lt hlabels hwidth, Nat.lt_of_le_of_lt hannotations hwidth,
    Nat.lt_of_le_of_lt hfinalizers hwidth⟩

/-- A secret that was read is held if the bytes of its text can be counted. -/
theorem isHeldSecret_of_decode {j : Json} {s : Secret} (h : Secret.decode j = .ok s) (hwidth : IsCount j.width) :
    IsHeldSecret s := by
  obtain ⟨hnumbers, hmaterial⟩ := Secret.within_of_decode h
  exact ⟨hnumbers, fun e he => Nat.lt_of_le_of_lt (hmaterial e he) hwidth⟩

/-- The parts of a fingerprint behind the generation can be split off. -/
theorem parts_append_inj {m n : Meta} (hm : IsHeld m) (hn : IsHeld n)
    (h : dict m.labelDict ++ (dict m.annotationDict ++ (texts m.finalizerList ++ seconds m.deletionTimestamp)) =
      dict n.labelDict ++ (dict n.annotationDict ++ (texts n.finalizerList ++ seconds n.deletionTimestamp))) :
    m.labelDict = n.labelDict ∧ m.annotationDict = n.annotationDict ∧ m.finalizerList = n.finalizerList ∧
      m.deletionTimestamp.map Instant.seconds = n.deletionTimestamp.map Instant.seconds := by
  obtain ⟨hlabels, h⟩ := selfDelimiting_dict hm.labels hn.labels h
  obtain ⟨hannotations, h⟩ := selfDelimiting_dict hm.annotations hn.annotations h
  obtain ⟨hfinalizers, h⟩ := selfDelimiting_texts hm.finalizers hn.finalizers h
  have hend : seconds m.deletionTimestamp ++ [] = seconds n.deletionTimestamp ++ [] := by rw [h]
  exact ⟨hlabels, hannotations, hfinalizers, (seconds_append_inj hm.numbers.deletion hn.numbers.deletion hend).1⟩

/-- Fingerprints of objects agree if what counts for a change of an object does. -/
theorem fingerprint_eq_iff {m n : Meta} (hm : IsHeld m) (hn : IsHeld n)
    (hpresent : m.generation.isSome = n.generation.isSome) :
    fingerprint m = fingerprint n ↔
      m.generation = n.generation ∧ m.labelDict = n.labelDict ∧ m.annotationDict = n.annotationDict ∧
        m.finalizerList = n.finalizerList ∧
        m.deletionTimestamp.map Instant.seconds = n.deletionTimestamp.map Instant.seconds := by
  constructor
  · intro h
    simp only [fingerprint, List.append_assoc] at h
    cases hg : m.generation with
    | none =>
      have hg' : n.generation = none := by
        rwa [hg, Option.isSome_none, eq_comm, Option.isSome_eq_false_iff, Option.isNone_iff_eq_none] at hpresent
      rw [hg, hg'] at h
      exact ⟨hg'.symm, parts_append_inj hm hn h⟩
    | some g =>
      obtain ⟨g', hg'⟩ : ∃ g', n.generation = some g' := by
        rwa [hg, Option.isSome_some, eq_comm, Option.isSome_iff_exists] at hpresent
      rw [hg, hg'] at h
      obtain ⟨rfl, hparts⟩ := selfDelimiting_word (hm.numbers.generation g hg) (hn.numbers.generation g' hg') h
      exact ⟨hg'.symm, parts_append_inj hm hn hparts⟩
  · rintro ⟨hgeneration, hlabels, hannotations, hfinalizers, hdeletion⟩
    rw [fingerprint, fingerprint, hgeneration, hlabels, hannotations, hfinalizers, seconds_congr hdeletion]

/-- Fingerprints of secrets agree if their material and their seconds of deletion do. -/
theorem secretFingerprint_eq_iff {s t : Secret} (hs : IsHeldSecret s) (ht : IsHeldSecret t) :
    secretFingerprint s = secretFingerprint t ↔
      s.data.getD Dict.empty = t.data.getD Dict.empty ∧
        s.metadata.deletionTimestamp.map Instant.seconds = t.metadata.deletionTimestamp.map Instant.seconds := by
  constructor
  · intro h
    have hentry (e : String × List UInt8) : 9 ≤ (text e.1 ++ bytes e.2).length := by
      simp only [text, bytes, List.length_append, List.length_singleton, length_word]
      omega
    -- an entry takes nine bytes or more, and the second of deletion eight or sixteen
    obtain ⟨hleast, hgreatest⟩ := length_seconds s.metadata.deletionTimestamp
    obtain ⟨hleast', hgreatest'⟩ := length_seconds t.metadata.deletionTimestamp
    obtain ⟨hentries, hrest⟩ := (selfDelimiting_text.pair selfDelimiting_bytes).uncounted hentry
      (fun e he => ⟨trivial, hs.material e he⟩) (fun e he => ⟨trivial, ht.material e he⟩) (by omega) (by omega) h
    have hend : seconds s.metadata.deletionTimestamp ++ [] = seconds t.metadata.deletionTimestamp ++ [] := by
      rw [hrest]
    exact ⟨Dict.ext_entries hentries, (seconds_append_inj hs.numbers.deletion ht.numbers.deletion hend).1⟩
  · rintro ⟨hdata, hdeletion⟩
    rw [secretFingerprint, secretFingerprint, hdata, seconds_congr hdeletion]

/-- Two objects that both have a generation, or both have none, share their fingerprint exactly if their generation,
labels, annotations, finalizers in their order, and second of deletion are the same; two secrets exactly if their
material and second of deletion are the same. Nothing counts as none of the entries. -/
theorem fingerprints_separate :
    (∀ m n : Meta, IsHeld m → IsHeld n → m.generation.isSome = n.generation.isSome →
      (fingerprint m = fingerprint n ↔
        m.generation = n.generation ∧ m.labels.getD Dict.empty = n.labels.getD Dict.empty ∧
          m.annotations.getD Dict.empty = n.annotations.getD Dict.empty ∧
          m.finalizers.getD [] = n.finalizers.getD [] ∧
          m.deletionTimestamp.map Instant.seconds = n.deletionTimestamp.map Instant.seconds)) ∧
    ∀ s t : Secret, IsHeldSecret s → IsHeldSecret t →
      (secretFingerprint s = secretFingerprint t ↔
        s.data.getD Dict.empty = t.data.getD Dict.empty ∧
          s.metadata.deletionTimestamp.map Instant.seconds = t.metadata.deletionTimestamp.map Instant.seconds) :=
  ⟨fun _ _ hm hn hpresent => fingerprint_eq_iff hm hn hpresent, fun _ _ hs ht => secretFingerprint_eq_iff hs ht⟩

/-- An object with a label that is going away. -/
def labelled : Meta :=
  { Meta.empty with
    generation := some 3
    labels := some (Dict.empty.insert "tier" "web")
    finalizers := some ["orders", "audit"]
    deletionTimestamp := some ⟨1700000000, 5⟩ }

/-- The same object with the label as an annotation. -/
def annotated : Meta := { labelled with labels := none, annotations := labelled.labels }

/-- A secret with a certificate and a key. -/
def issued : Secret :=
  { metadata := Meta.empty
    data := some ((Dict.empty.insert "tls.crt" [0x2D]).insert "tls.key" [0xFF, 0x00])
    stringData := none }

/-- The same secret with the key as part of its certificate. -/
def merged : Secret :=
  { issued with data := some (Dict.empty.insert "tls.crt" (0x2D :: (text "tls.key" ++ bytes [0xFF, 0x00]))) }

/-- A label that became an annotation shows, and so does a key that became part of a certificate. -/
theorem moved_label_shows :
    IsHeld labelled ∧ IsHeld annotated ∧ labelled.generation.isSome = annotated.generation.isSome ∧
      fingerprint labelled ≠ fingerprint annotated ∧
      IsHeldSecret issued ∧ IsHeldSecret merged ∧ secretFingerprint issued ≠ secretFingerprint merged := by
  have hlabelled : IsHeld labelled :=
    ⟨⟨by rintro n ⟨⟩; decide, by rintro t ⟨⟩; decide⟩, by decide, by decide, by decide⟩
  have hannotated : IsHeld annotated :=
    ⟨⟨by rintro n ⟨⟩; decide, by rintro t ⟨⟩; decide⟩, by decide, by decide, by decide⟩
  have hissued : IsHeldSecret issued := ⟨Meta.isNumbered_empty, by decide⟩
  have hmerged : IsHeldSecret merged := ⟨Meta.isNumbered_empty, by decide⟩
  refine ⟨hlabelled, hannotated, rfl, fun h => ?_, hissued, hmerged, fun h => ?_⟩
  · exact absurd ((fingerprints_separate.1 _ _ hlabelled hannotated rfl).mp h).2.1 (by decide)
  · exact absurd ((fingerprints_separate.2 _ _ hissued hmerged).mp h).1 (by decide)

/-- An object without generation, and with a label that reads like the start of another fingerprint. -/
def ungenerated : Meta :=
  { Meta.empty with
    labels := some (Dict.empty.insert
      ("\x00\x00\x00\x00\x00\x00\x00\x00\x00\x00\x00\x00\x00\x00\x00\x00\x03\x00\x00\x00\x00\x00\x00\x00first") "second")
    finalizers := some ["third"] }

/-- An object of the first generation, and with a finalizer that reads like the end of this fingerprint. -/
def generated : Meta :=
  { Meta.empty with
    generation := some 1
    finalizers := some ["first", "second",
      "\x00\x00\x00\x00\x00\x00\x00\x00\x01\x00\x00\x00\x00\x00\x00\x00third"] }

-- the presence of the generation is not part of the fingerprint
example : fingerprint ungenerated = fingerprint generated := by decide +kernel

end GatewayOperator.Watch
