import GatewayOperator.Kube.Store
import GatewayOperator.Proofs.Program.Interleaving
import GatewayOperator.Proofs.Program.Pass
import GatewayOperator.Proofs.Trust.Registry
import GatewayOperator.Trust.Entry

/-!
# Writers that contend for a registry

Any number of writers share one registry, each with an entry of its own, and take turns in any order. The
server keeps every edition of the registry under a version of its own and accepts a replacement only if it
names the version of the latest edition. A writer's copy is always an edition that was given out, because
every retry starts from a fresh read. So an accepted replacement is the latest edition with one entry
changed, and no update of another writer is lost.
-/

set_option autoImplicit false

namespace GatewayOperator.Trust

open GatewayOperator.Resource

namespace Entry

/-- What a writer does once it has read the registry again. -/
def afterRead (ns name key : String) (value : Option String) (left : Nat) :
    Except Kube.Failure ConfigMap → Program Call.Answer (Except PassFailure Unit)
  | .ok fresh => (writeFrom ns name key value left fresh).run
  | .error failure => .done (.error (.kube failure))

/-- What a writer does once the server has answered its replacement. -/
def afterReplace (ns name key : String) (value : Option String) (left : Nat) :
    Except Kube.Failure ConfigMap → Program Call.Answer (Except PassFailure Unit)
  | .ok _ => .done (.ok ())
  | .error failure =>
    if failure.isConflict then .ask (.read ns name) (afterRead ns name key value left)
    else .done (.error (.kube failure))

/-- Without attempts left a writer gives up. -/
theorem writeFrom_zero (ns name key : String) (value : Option String) (current : ConfigMap) :
    (writeFrom ns name key value 0 current).run = .done (.error (.registryConflict name)) := rfl

/-- An attempt looks at the clock and then replaces the registry as it was last read. -/
theorem writeFrom_succ (ns name key : String) (value : Option String) (left : Nat)
    (current : ConfigMap) :
    (writeFrom ns name key value (left + 1) current).run =
      .ask .now fun now =>
        .ask (.replace (Registry.setEntry current key value now))
          (afterReplace ns name key value left) := by
  simp only [writeFrom, Program.Pass.run_bind, Program.Pass.run_ask, Program.bind_ask,
    Program.bind_done, Program.Pass.andThen_ok]
  congr 1
  funext now
  congr 1
  funext answer
  cases answer with
  | ok r => rfl
  | error failure =>
    by_cases h : failure.isConflict = true
    · simp only [h, if_true, afterReplace, Program.Pass.run_bind, Program.Pass.run_ask,
        Program.bind_ask, Program.bind_done, Program.Pass.andThen_ok]
      congr 1
      funext answer
      cases answer <;> rfl
    · simp only [h, afterReplace]
      rfl

end Entry

namespace Contention

/-- A registry on its server: the contents of its editions, counted from zero, and the version under which
each is given out. No version is given out twice. -/
structure Server where
  version : Nat → String
  version_injective : ∀ m n, version m = version n → m = n
  contents : Nat → ConfigMap
  latest : Nat

namespace Server

/-- An edition of the registry as it is read. -/
def edition (s : Server) (n : Nat) : ConfigMap :=
  { s.contents n with
    metadata := { (s.contents n).metadata with resourceVersion := some (s.version n) } }

/-- The registry as it is stored. -/
def current (s : Server) : ConfigMap := s.edition s.latest

/-- The value of an entry as it is stored. -/
def entry (s : Server) (key : String) : Option String := Registry.entry? s.current key

/-- The labels as they are stored. -/
def labels (s : Server) : Option (Dict String) := s.current.metadata.labels

/-- The server after an accepted replacement. -/
def store (s : Server) (r : ConfigMap) : Server where
  version := s.version
  version_injective := s.version_injective
  contents := fun n => if n = s.latest + 1 then r else s.contents n
  latest := s.latest + 1

/-- Whether a registry was read from the server at some time. -/
def Issued (s : Server) (r : ConfigMap) : Prop := ∃ n, n ≤ s.latest ∧ r = s.edition n

/-- The answer to a call of a writer at a time. A replacement is accepted exactly if it names the version of
the latest edition. Any call to the server may instead fail without effect. -/
def serve (time : Instant) (fault : Option Kube.Failure) : (c : Entry.Call) → Server → c.Answer × Server
  | .now, s => (time, s)
  | .read _ _, s =>
    match fault with
    | some failure => (.error failure, s)
    | none => (.ok s.current, s)
  | .replace r, s =>
    match fault with
    | some failure => (.error failure, s)
    | none =>
      if r.metadata.resourceVersion = s.current.metadata.resourceVersion then
        (.ok (s.store r).current, s.store r)
      else (.error Kube.Store.conflict, s)

end Server

/-- A call that writes an entry: the copy of the registry that it was given, and the entry. -/
structure Writer where
  seen : ConfigMap
  key : String
  value : Option String

namespace Writer

/-- The name of the registry. -/
def name (w : Writer) : String := w.seen.metadata.anyName

/-- The namespace of the registry. -/
def ns (w : Writer) : String := w.seen.metadata.anyNamespace

end Writer

/-- The turn of a writer: the time, and the failure of its call if that is to fail. -/
structure Turn (ι : Type) where
  writer : ι
  time : Instant
  fault : Option Kube.Failure

/-- A failure that a writer is told of: of a replacement, or of a read. -/
inductive Setback where
  | refused (failure : Kube.Failure)
  | unread (failure : Kube.Failure)

namespace Setback

/-- The failure of a setback. -/
def failure : Setback → Kube.Failure
  | .refused f => f
  | .unread f => f

/-- Whether a replacement was refused because it named an old version. -/
def isConflict : Setback → Bool
  | .refused f => f.isConflict
  | .unread _ => false

/-- The setback in an answer. -/
def of? : (c : Entry.Call) → c.Answer → Option Setback
  | .read _ _, .error f => some (.unread f)
  | .replace _, .error f => some (.refused f)
  | _, _ => none

end Setback

/-- What becomes of a writer that has heard of some setbacks: the first one that is no conflict is its
failure, and so are as many conflicts as it has attempts. -/
def verdict (name : String) (heard : List Setback) : Except PassFailure Unit :=
  match heard.find? fun b => !b.isConflict with
  | some b => .error (.kube b.failure)
  | none => if heard.length < Entry.attempts then .ok () else .error (.registryConflict name)

/-- Writers at work: the server, what each has still to do, and the setbacks that each has heard of. -/
structure Crew (ι : Type) where
  server : Server
  work : ι → Program Entry.Call.Answer (Except PassFailure Unit)
  heard : ι → List Setback

/-- The setback that a program hears of by its next call, if it has one and the call fails. -/
def told (time : Instant) (fault : Option Kube.Failure) (s : Server) :
    Program Entry.Call.Answer (Except PassFailure Unit) → Option Setback
  | .done _ => none
  | .ask c _ => Setback.of? c (s.serve time fault c).1

namespace Crew

variable {ι : Type} [DecidableEq ι]

/-- The writers before their first call. -/
def start (server : Server) (writers : ι → Writer) : Crew ι where
  server := server
  work := fun i => (Entry.write (writers i).seen (writers i).key (writers i).value).run
  heard := fun _ => []

/-- The writers after a turn. -/
def take (crew : Crew ι) (turn : Turn ι) : Crew ι where
  server := ((crew.work turn.writer).advance (Server.serve turn.time turn.fault) crew.server).2
  work := fun i =>
    if i = turn.writer then
      ((crew.work i).advance (Server.serve turn.time turn.fault) crew.server).1
    else crew.work i
  heard := fun i =>
    if i = turn.writer then
      crew.heard i ++ (told turn.time turn.fault crew.server (crew.work i)).toList
    else crew.heard i

/-- The writers after some turns. -/
def after (crew : Crew ι) (turns : List (Turn ι)) : Crew ι := turns.foldl take crew

/-- The result of a writer that is done. -/
def result? (crew : Crew ι) (i : ι) : Option (Except PassFailure Unit) := (crew.work i).result?

end Crew

/-! ## What a replacement does to the server -/

/-- An edition is read with the version under which it was given out. -/
theorem edition_version (s : Server) (n : Nat) :
    (s.edition n).metadata.resourceVersion = some (s.version n) := rfl

/-- A copy with the latest version is the registry as it is stored. -/
theorem eq_current_of_version {s : Server} {r : ConfigMap} (h : s.Issued r)
    (hv : r.metadata.resourceVersion = s.current.metadata.resourceVersion) : r = s.current := by
  obtain ⟨n, -, rfl⟩ := h
  rw [edition_version, Server.current, edition_version, Option.some.injEq] at hv
  rw [s.version_injective n s.latest hv, Server.current]

/-- A replacement leaves the earlier editions as they were. -/
theorem store_edition (s : Server) (r : ConfigMap) {n : Nat} (h : n ≤ s.latest) :
    (s.store r).edition n = s.edition n := by
  have hne : n ≠ s.latest + 1 := by omega
  simp only [Server.edition, Server.store, hne, if_false]

/-- What was read before a replacement was still read after it. -/
theorem issued_store {s : Server} {r seen : ConfigMap} (h : s.Issued seen) :
    (s.store r).Issued seen := by
  obtain ⟨n, hn, rfl⟩ := h
  exact ⟨n, Nat.le_succ_of_le hn, (store_edition s r hn).symm⟩

/-- After a replacement the entries are those of the replacement. -/
theorem entry_store (s : Server) (r : ConfigMap) (key : String) :
    (s.store r).entry key = Registry.entry? r key := by
  simp only [Server.entry, Registry.entry?, Server.current, Server.edition, Server.store, if_true]

/-- After a replacement the labels are those of the replacement. -/
theorem labels_store (s : Server) (r : ConfigMap) : (s.store r).labels = r.metadata.labels := by
  simp only [Server.labels, Server.current, Server.edition, Server.store, if_true]

/-! ## What a writer still has to do -/

/-- What a writer has heard of so far are conflicts, and so many attempts are left to it. -/
def Patient (heard : List Setback) (left : Nat) : Prop :=
  (∀ b ∈ heard, b.isConflict = true) ∧ heard.length + left = Entry.attempts

/-- A writer between two of its calls. Its copy of the registry was read from the server, so that a
replacement of the latest edition keeps everybody else's entries. -/
inductive Sound (s : Server) (w : Writer) (heard : List Setback) :
    Program Entry.Call.Answer (Except PassFailure Unit) → Prop
  | attempting (left : Nat) (current : ConfigMap) (issued : s.Issued current)
      (patient : Patient heard left) :
      Sound s w heard (Entry.writeFrom w.ns w.name w.key w.value left current).run
  | replacing (left : Nat) (current : ConfigMap) (now : Instant) (issued : s.Issued current)
      (patient : Patient heard (left + 1)) :
      Sound s w heard (.ask (.replace (Registry.setEntry current w.key w.value now))
        (Entry.afterReplace w.ns w.name w.key w.value left))
  | rereading (left : Nat) (patient : Patient heard left) :
      Sound s w heard (.ask (.read w.ns w.name) (Entry.afterRead w.ns w.name w.key w.value left))
  | written (left : Nat) (patient : Patient heard (left + 1)) (entry : s.entry w.key = w.value) :
      Sound s w heard (.done (.ok ()))
  | failed (refusals : List Setback) (last : Setback) (told : heard = refusals ++ [last])
      (conflicts : ∀ b ∈ refusals, b.isConflict = true) (other : last.isConflict = false) :
      Sound s w heard (.done (.error (.kube last.failure)))

/-- A conflict costs an attempt. -/
theorem Patient.refused {heard : List Setback} {left : Nat} {failure : Kube.Failure}
    (h : Patient heard (left + 1)) (hf : failure.isConflict = true) :
    Patient (heard ++ [.refused failure]) left := by
  obtain ⟨hall, hlen⟩ := h
  constructor
  · intro b hb
    rcases List.mem_append.mp hb with hb | hb
    · exact hall b hb
    · rw [List.mem_singleton.mp hb]
      exact hf
  · rw [List.length_append, List.length_singleton]
    omega

/-- A writer that is told of a failed replacement tries again after a conflict, and else fails. -/
theorem sound_afterReplace {s : Server} {w : Writer} {heard : List Setback} {left : Nat}
    (h : Patient heard (left + 1)) (failure : Kube.Failure) :
    Sound s w (heard ++ [.refused failure])
      (Entry.afterReplace w.ns w.name w.key w.value left (.error failure)) := by
  by_cases hf : failure.isConflict = true
  · simp only [Entry.afterReplace, hf, if_true]
    exact .rereading left (h.refused hf)
  · simp only [Entry.afterReplace, hf]
    exact .failed heard (.refused failure) rfl h.1 (by simpa [Setback.isConflict] using hf)

/-- The turn of a writer leaves it between two calls again, and it changes the server only by setting the
writer's entry in the registry as it is stored, after which the writer is done. -/
theorem Sound.advance {s : Server} {w : Writer} {heard : List Setback}
    {p : Program Entry.Call.Answer (Except PassFailure Unit)} (h : Sound s w heard p) (time : Instant)
    (fault : Option Kube.Failure) :
    Sound (p.advance (Server.serve time fault) s).2 w (heard ++ (told time fault s p).toList)
        (p.advance (Server.serve time fault) s).1 ∧
      ((p.advance (Server.serve time fault) s).2 = s ∨
        ((p.advance (Server.serve time fault) s).1 = .done (.ok ()) ∧
          ∃ now, (p.advance (Server.serve time fault) s).2 =
            s.store (Registry.setEntry s.current w.key w.value now))) := by
  cases h with
  | attempting left current issued patient =>
    cases left with
    | zero =>
      rw [Entry.writeFrom_zero]
      refine ⟨?_, Or.inl rfl⟩
      simp only [Program.advance_done, told, Option.toList_none, List.append_nil]
      exact .attempting 0 current issued patient
    | succ left =>
      rw [Entry.writeFrom_succ]
      refine ⟨?_, Or.inl rfl⟩
      simp only [Program.advance_ask, told, Server.serve, Setback.of?, Option.toList_none,
        List.append_nil]
      exact .replacing left current time issued patient
  | replacing left current now issued patient =>
    cases fault with
    | some failure => exact ⟨sound_afterReplace patient failure, Or.inl rfl⟩
    | none =>
      simp only [Program.advance_ask, told, Server.serve, Registry.resourceVersion_setEntry]
      -- a copy that names the version of the current edition is that edition
      by_cases hv : current.metadata.resourceVersion = s.current.metadata.resourceVersion
      · have hcurrent : current = s.current := eq_current_of_version issued hv
        subst hcurrent
        simp only [if_true, Setback.of?, Option.toList_none, List.append_nil]
        refine ⟨.written left patient ?_, Or.inr ⟨rfl, now, rfl⟩⟩
        rw [entry_store, Registry.entry?_setEntry, if_pos rfl]
      · simp only [hv, if_false]
        exact ⟨sound_afterReplace patient Kube.Store.conflict, Or.inl trivial⟩
  | rereading left patient =>
    cases fault with
    | some failure =>
      exact ⟨.failed heard (.unread failure) rfl patient.1 rfl, Or.inl rfl⟩
    | none =>
      refine ⟨?_, Or.inl rfl⟩
      -- the next attempt starts from a fresh copy
      simp only [Program.advance_ask, told, Server.serve, Setback.of?, Option.toList_none,
        List.append_nil]
      exact .attempting left s.current ⟨s.latest, Nat.le_refl _, rfl⟩ patient
  | written left patient entry =>
    refine ⟨?_, Or.inl rfl⟩
    simp only [Program.advance_done, told, Option.toList_none, List.append_nil]
    exact .written left patient entry
  | failed refusals last told' conflicts other =>
    refine ⟨?_, Or.inl rfl⟩
    simp only [Program.advance_done, told, Option.toList_none, List.append_nil]
    exact .failed refusals last told' conflicts other

/-- A writer is not disturbed by a replacement that sets another entry of the latest edition. -/
theorem Sound.store {s : Server} {w : Writer} {heard : List Setback}
    {p : Program Entry.Call.Answer (Except PassFailure Unit)} (h : Sound s w heard p) {key : String}
    (hkey : key ≠ w.key) (value : Option String) (now : Instant) :
    Sound (s.store (Registry.setEntry s.current key value now)) w heard p := by
  cases h with
  | attempting left current issued patient =>
    exact .attempting left current (issued_store issued) patient
  | replacing left current now' issued patient =>
    exact .replacing left current now' (issued_store issued) patient
  | rereading left patient => exact .rereading left patient
  | written left patient entry =>
    refine .written left patient ?_
    rw [entry_store, Registry.entry?_setEntry, if_neg hkey]
    exact entry
  | failed refusals last told conflicts other => exact .failed refusals last told conflicts other

/-- Of conflicts only their number counts. -/
theorem verdict_of_conflicts {name : String} {heard : List Setback}
    (h : ∀ b ∈ heard, b.isConflict = true) :
    verdict name heard =
      if heard.length < Entry.attempts then .ok () else .error (.registryConflict name) := by
  have hnone : heard.find? (fun b => !b.isConflict) = none := by
    rw [List.find?_eq_none]
    intro b hb
    simp [h b hb]
  rw [verdict, hnone]

/-- The first setback that is no conflict decides. -/
theorem verdict_of_failure {name : String} {refusals : List Setback} {last : Setback}
    (h : ∀ b ∈ refusals, b.isConflict = true) (hlast : last.isConflict = false) :
    verdict name (refusals ++ [last]) = .error (.kube last.failure) := by
  have hnone : refusals.find? (fun b => !b.isConflict) = none := by
    rw [List.find?_eq_none]
    intro b hb
    simp [h b hb]
  simp [verdict, List.find?_append, hnone, hlast]

/-- A writer that is done has the result that its setbacks call for, and if it succeeded its entry is
set. -/
theorem Sound.result_eq {s : Server} {w : Writer} {heard : List Setback}
    {p : Program Entry.Call.Answer (Except PassFailure Unit)} {result : Except PassFailure Unit}
    (h : Sound s w heard p) (hp : p = .done result) :
    result = verdict w.name heard ∧ (result = .ok () → s.entry w.key = w.value) := by
  cases h with
  | attempting left current issued patient =>
    cases left with
    | zero =>
      rw [Entry.writeFrom_zero] at hp
      cases hp
      obtain ⟨hall, hlen⟩ := patient
      rw [verdict_of_conflicts hall, if_neg (by omega)]
      exact ⟨rfl, fun h => by cases h⟩
    | succ left =>
      rw [Entry.writeFrom_succ] at hp
      cases hp
  | replacing left current now issued patient => cases hp
  | rereading left patient => cases hp
  | written left patient entry =>
    cases hp
    obtain ⟨hall, hlen⟩ := patient
    rw [verdict_of_conflicts hall, if_pos (by omega)]
    exact ⟨rfl, fun _ => entry⟩
  | failed refusals last told conflicts other =>
    cases hp
    rw [told, verdict_of_failure conflicts other]
    exact ⟨rfl, fun h => by cases h⟩

/-- A writer that has heard of a setback that is no conflict is done. -/
theorem Sound.result?_of_failure {s : Server} {w : Writer} {heard : List Setback}
    {p : Program Entry.Call.Answer (Except PassFailure Unit)} (h : Sound s w heard p) {b : Setback}
    (hb : b ∈ heard) (hf : b.isConflict = false) :
    p.result? = some (.error (.kube b.failure)) := by
  have patient_absurd : ∀ left, ¬ Patient heard left := by
    intro left patient
    have := patient.1 b hb
    rw [hf] at this
    cases this
  cases h with
  | attempting left current issued patient => exact absurd patient (patient_absurd left)
  | replacing left current now issued patient => exact absurd patient (patient_absurd _)
  | rereading left patient => exact absurd patient (patient_absurd left)
  | written left patient entry => exact absurd patient (patient_absurd _)
  | failed refusals last told conflicts other =>
    rw [told] at hb
    rcases List.mem_append.mp hb with hb | hb
    · have := conflicts b hb
      rw [hf] at this
      cases this
    · rw [List.mem_singleton.mp hb]
      rfl

/-! ## Runs of the writers -/

section Runs

variable {ι : Type} [DecidableEq ι] (writers : ι → Writer)

/-- The writers between two turns: each is between two of its calls, and whatever nobody writes is as it
was at the start. -/
structure Orderly (start : Server) (crew : Crew ι) : Prop where
  sound : ∀ i, Sound crew.server (writers i) (crew.heard i) (crew.work i)
  others : ∀ key, (∀ i, (writers i).key ≠ key) → crew.server.entry key = start.entry key
  labels : crew.server.labels = start.labels

variable {writers}

omit [DecidableEq ι] in
/-- Writers that were given copies of the registry can start. -/
theorem orderly_start {server : Server} (hseen : ∀ i, server.Issued (writers i).seen) :
    Orderly writers server (Crew.start server writers) where
  sound := fun i =>
    .attempting Entry.attempts (writers i).seen (hseen i) ⟨List.forall_mem_nil _, rfl⟩
  others := fun _ _ => rfl
  labels := rfl

/-- A turn either leaves the server as it was, or it sets the entry of the writer whose turn it was in the
registry as it is stored, and that writer is done. -/
theorem Orderly.server_take {start : Server} {crew : Crew ι} (h : Orderly writers start crew)
    (turn : Turn ι) :
    (crew.take turn).server = crew.server ∨
      (crew.take turn).work turn.writer = .done (.ok ()) ∧
        ∃ now, (crew.take turn).server =
          crew.server.store (Registry.setEntry crew.server.current (writers turn.writer).key
            (writers turn.writer).value now) := by
  have hstep := ((h.sound turn.writer).advance turn.time turn.fault).2
  simpa only [Crew.take, if_true] using hstep

/-- A turn keeps the writers orderly. -/
theorem Orderly.take {start : Server} {crew : Crew ι} (h : Orderly writers start crew)
    (hkeys : ∀ i j, i ≠ j → (writers i).key ≠ (writers j).key) (turn : Turn ι) :
    Orderly writers start (crew.take turn) := by
  have hself := ((h.sound turn.writer).advance turn.time turn.fault).1
  rcases h.server_take turn with hserver | ⟨-, now, hserver⟩
  · refine ⟨fun i => ?_, ?_, ?_⟩
    · by_cases hi : i = turn.writer
      · subst hi
        simpa only [Crew.take, if_true] using hself
      · rw [hserver]
        simpa only [Crew.take, hi, if_false] using h.sound i
    · rw [hserver]
      exact h.others
    · rw [hserver]
      exact h.labels
  · refine ⟨fun i => ?_, fun key hkey => ?_, ?_⟩
    · by_cases hi : i = turn.writer
      · subst hi
        simpa only [Crew.take, if_true] using hself
      · rw [hserver]
        have hdistinct := hkeys turn.writer i (Ne.symm hi)
        simpa only [Crew.take, hi, if_false] using
          (h.sound i).store hdistinct (writers turn.writer).value now
    · rw [hserver, entry_store, Registry.entry?_setEntry, if_neg (hkey turn.writer)]
      exact h.others key hkey
    · rw [hserver, labels_store, Registry.labels_setEntry]
      exact h.labels

/-- Writers stay orderly over any number of turns. -/
theorem Orderly.after {start : Server} {crew : Crew ι} (h : Orderly writers start crew)
    (hkeys : ∀ i j, i ≠ j → (writers i).key ≠ (writers j).key) (turns : List (Turn ι)) :
    Orderly writers start (crew.after turns) := by
  induction turns generalizing crew with
  | nil => exact h
  | cons turn rest ih => exact ih (h.take hkeys turn)

/-- A writer that is done stays as it is. -/
theorem work_after_of_done {crew : Crew ι} {i : ι} {result : Except PassFailure Unit}
    (h : crew.work i = .done result) (turns : List (Turn ι)) :
    (crew.after turns).work i = .done result := by
  induction turns generalizing crew with
  | nil => exact h
  | cons turn rest ih =>
    apply ih
    by_cases hi : i = turn.writer
    · simp only [Crew.take, hi, if_true]
      rw [← hi, h, Program.advance_done]
    · simp only [Crew.take, hi, if_false]
      exact h

/-- Turns are taken one after the other. -/
theorem after_append (crew : Crew ι) (turns more : List (Turn ι)) :
    crew.after (turns ++ more) = (crew.after turns).after more := by
  simp only [Crew.after, List.foldl_append]

/-- A writer that ends with a failure has not changed the server in any of its turns. -/
theorem server_take_of_failed {start : Server} {crew : Crew ι} (h : Orderly writers start crew)
    (turn : Turn ι) (rest : List (Turn ι)) (failure : PassFailure)
    (hfailed : ((crew.take turn).after rest).result? turn.writer = some (.error failure)) :
    (crew.take turn).server = crew.server := by
  rcases h.server_take turn with hserver | ⟨hdone, -⟩
  · exact hserver
  · rw [Crew.result?, work_after_of_done hdone rest] at hfailed
    cases hfailed

/-- No update of a registry is lost, whatever the order in which its writers take turns. Once a writer has
succeeded its entry has its value and keeps it; entries that nobody writes and the labels stay as they
were; a writer that fails has not changed the registry, and its failure is the first one that it heard of
other than a conflict, at once, or else that it had as many conflicts as attempts. -/
theorem entries_kept_under_contention (writers : ι → Writer) (server : Server)
    (hkeys : ∀ i j, i ≠ j → (writers i).key ≠ (writers j).key)
    (hseen : ∀ i, server.Issued (writers i).seen) (turns : List (Turn ι)) :
    let start := Crew.start server writers
    let crew := start.after turns
    (∀ i, crew.result? i = some (.ok ()) →
      ∀ later, (crew.after later).server.entry (writers i).key = (writers i).value) ∧
    (∀ key, (∀ i, (writers i).key ≠ key) → crew.server.entry key = server.entry key) ∧
    crew.server.labels = server.labels ∧
    (∀ i failure, crew.result? i = some (.error failure) →
      ∀ before turn rest, turns = before ++ turn :: rest → turn.writer = i →
        (start.after (before ++ [turn])).server = (start.after before).server) ∧
    (∀ i result, crew.result? i = some result →
      result = verdict (writers i).name (crew.heard i)) ∧
    (∀ i b, b ∈ crew.heard i → b.isConflict = false →
      crew.result? i = some (.error (.kube b.failure))) := by
  intro start crew
  have horderly : ∀ ts, Orderly writers server (start.after ts) := fun ts =>
    (orderly_start hseen).after hkeys ts
  refine ⟨?_, (horderly turns).others, (horderly turns).labels, ?_, ?_, ?_⟩
  · intro i hi later
    have hdone := work_after_of_done (Program.eq_done_of_result? hi) later
    have hsound := ((horderly turns).after hkeys later).sound i
    exact (hsound.result_eq hdone).2 rfl
  · intro i failure hi before turn rest hturns hturn
    subst hturn
    rw [after_append]
    apply server_take_of_failed (horderly before) turn rest failure
    rw [← hi]
    simp only [crew, hturns, after_append]
    rfl
  · intro i result hi
    exact (((horderly turns).sound i).result_eq (Program.eq_done_of_result? hi)).1
  · intro i b hb hf
    exact ((horderly turns).sound i).result?_of_failure hb hf

end Runs

/-- A registry of which one edition was given out. -/
def freshServer : Server where
  version := fun n => String.ofList (List.replicate n 'i')
  version_injective := by
    intro m n h
    simpa using congrArg (fun t => t.toList.length) h
  contents := fun _ => ⟨Meta.empty, none, some (Dict.ofList [("a", "[]")]), none⟩
  latest := 0

/-- Two writers with the same copy of a registry: one sets the entry `b`, the other removes the entry `a`. -/
def rivals (i : Bool) : Writer :=
  if i then ⟨freshServer.current, "b", some "[]"⟩ else ⟨freshServer.current, "a", none⟩

/-- The turns in which the first rival sets its entry before the second one has tried, which is refused,
reads the registry again and removes its own. -/
def rivalry : List (Turn Bool) :=
  [true, true, false, false, false, false, false].map fun i => ⟨i, ⟨0, 0⟩, none⟩

/-- Both rivals succeed and both entries are as they were to be. -/
theorem entries_kept_by_rivals :
    (∀ i j, i ≠ j → (rivals i).key ≠ (rivals j).key) ∧
    (∀ i, freshServer.Issued (rivals i).seen) ∧
    (∀ i, ((Crew.start freshServer rivals).after rivalry).result? i = some (.ok ())) ∧
    ∀ i later, (((Crew.start freshServer rivals).after rivalry).after later).server.entry
      (rivals i).key = (rivals i).value := by
  have hkeys : ∀ i j, i ≠ j → (rivals i).key ≠ (rivals j).key := by decide
  have hseen : ∀ i, freshServer.Issued (rivals i).seen := by
    intro i
    refine ⟨0, Nat.le_refl 0, ?_⟩
    cases i <;> rfl
  have hdone : ∀ i, ((Crew.start freshServer rivals).after rivalry).result? i = some (.ok ()) := by
    intro i
    cases i <;> rfl
  exact ⟨hkeys, hseen, hdone, fun i later =>
    (entries_kept_under_contention rivals freshServer hkeys hseen rivalry).1 i (hdone i) later⟩

end Contention

end GatewayOperator.Trust
