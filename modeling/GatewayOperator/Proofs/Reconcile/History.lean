import GatewayOperator.Proofs.Reconcile.Lifecycle
import GatewayOperator.Proofs.Reconcile.Synchronization
import GatewayOperator.Proofs.Run
import Mathlib.Logic.Relation

/-!
# What a status tells about history

A status is written by many passes, each of which knows the definition only as it was read. A pass takes over
what earlier passes recorded, so it would bring back old news if it wrote after another one. It does not,
because every write names the version that the pass knows: a write that takes effect comes from a pass that knows
the status as it stands. So the status is what the chronicle of all writes says: the id is the one of the latest
success, the generation is the one of the latest result, and it is completed only right after a success.

Passes may overlap, may be cut short anywhere, and may be told that a write failed although it took effect.
-/

set_option autoImplicit false

namespace GatewayOperator.Reconcile.History

open GatewayOperator.Resource GatewayOperator.Management
open Program (Exchange)

/-! ## The chronicle -/

/-- A status write that took effect: the definition as the pass had read it, and all that the pass had asked and
been answered before. -/
structure Entry where
  api : ApiDefinition
  log : List (Exchange Call.Answer)

namespace Entry

variable {settings : Settings} {e : Entry} {result other : Except PassFailure SyncOutcome}

/-- Whether a status write is the record of a result: all that went before it is the announcement, if there was
news, and the synchronization with that result. -/
def Concludes (settings : Settings) (e : Entry) (result : Except PassFailure SyncOutcome) : Prop :=
  ∃ ns version first middle, Api.Opening ns e.api first version ∧
    (Api.synchronized settings e.api).run.Yields middle result ∧
    e.log = Api.counted :: (first ++ middle)

/-- Whether an entry records the result of a synchronization. -/
def IsResult (settings : Settings) (e : Entry) : Prop := ∃ result, e.Concludes settings result

/-- Whether an entry records the result of a synchronization that succeeded. -/
def Succeeds (settings : Settings) (e : Entry) : Prop := ∃ outcome, e.Concludes settings (.ok outcome)

/-- Whether a status write is the record of a creation or an update of the record of an id. -/
def Publishes (settings : Settings) (e : Entry) (id : String) : Prop :=
  ∃ record : Record, record.id = id ∧
    (e.Concludes settings (.ok (.created record)) ∨ e.Concludes settings (.ok (.updated record)))

/-- The record of a success is the record of a result. -/
theorem Succeeds.isResult (h : e.Succeeds settings) : e.IsResult settings := by
  obtain ⟨outcome, h⟩ := h
  exact ⟨.ok outcome, h⟩

/-- A status write is the record of one result. -/
theorem Concludes.unique (h : e.Concludes settings result) (h' : e.Concludes settings other) :
    result = other := by
  obtain ⟨_, _, first, middle, hopen, hmiddle, hlog⟩ := h
  obtain ⟨_, _, first', middle', hopen', hmiddle', hlog'⟩ := h'
  rw [hlog] at hlog'
  have hafter : first ++ middle = first' ++ middle' := (List.cons.inj hlog').2
  have hmiddles : middle = middle' := by
    cases hopen with
    | silent quiet =>
      cases hopen' with
      | silent _ => exact hafter
      | announced news _ =>
        rw [quiet] at news
        cases news
    | announced news version =>
      cases hopen' with
      | silent quiet =>
        rw [quiet] at news
        cases news
      | announced _ _ => exact (List.cons.inj hafter).2
  subst hmiddles
  exact (hmiddle.unique hmiddle' (congrArg (· ++ []) rfl)).2

/-- What is written before anything is asked, with news to announce, is not a result. -/
theorem not_isResult_of_news (hnews : announces e.api.status e.api.metadata.generation = true)
    (hlog : e.log = [Api.counted]) : ¬ e.IsResult settings := by
  rintro ⟨result, _, _, first, middle, hopen, -, hlog'⟩
  rw [hlog] at hlog'
  cases hopen with
  | silent quiet =>
    rw [hnews] at quiet
    cases quiet
  | announced _ _ => simp at hlog'

end Entry

/-! ## Truthful statuses -/

/-- Whether one generation is at most another one. -/
def AtMost (a b : Option Int) : Prop := ∀ g, a = some g → ∃ g', b = some g' ∧ g ≤ g'

/-- A generation is at most itself. -/
theorem AtMost.refl (a : Option Int) : AtMost a a := fun g h => ⟨g, h, Int.le_refl g⟩

/-- What is at most a generation is at most any later one. -/
theorem AtMost.trans {a b c : Option Int} (h : AtMost a b) (h' : AtMost b c) : AtMost a c := by
  intro g hg
  obtain ⟨g', hg', hle⟩ := h g hg
  obtain ⟨g'', hg'', hle'⟩ := h' g' hg'
  exact ⟨g'', hg'', Int.le_trans hle hle'⟩

/-- Whatever the result, the generation that the pass has read is recorded. -/
theorem observedGeneration_decision (api : ApiDefinition) (result : Except PassFailure SyncOutcome) :
    (Api.decision api result).status.observedGeneration = api.metadata.generation := by
  match result with
  | .ok .localOnly => rfl
  | .ok (.created record) => rfl
  | .ok (.updated record) => rfl
  | .error failure => rfl

/-- Whether a status tells the truth about the writes so far, given the generation of the definition. -/
structure Truthful (settings : Settings) (status : Option ApiStatus) (generation : Option Int)
    (chronicle : List Entry) : Prop where
  /-- The id is the one of the latest success, if that published something. -/
  id : ∀ id, status.bind (·.id) = some id ↔
    ∃ e, Run.Latest (Entry.Succeeds settings) chronicle e ∧ e.Publishes settings id
  /-- The generation is the one of the latest result. -/
  observed : ∀ g, status.bind (·.observedGeneration) = some g ↔
    ∃ e, Run.Latest (Entry.IsResult settings) chronicle e ∧ e.api.metadata.generation = some g
  notAhead : AtMost (status.bind (·.observedGeneration)) generation
  /-- The status is completed only if the latest write was the record of a success. -/
  completed : ∀ s, status = some s → s.processingStatus = .completed →
    ∃ before e, chronicle = before ++ [e] ∧ e.Succeeds settings

namespace Truthful

variable {settings : Settings} {status : Option ApiStatus} {generation : Option Int}
  {chronicle : List Entry} {e : Entry}

/-- A definition without a status tells nothing untrue. -/
theorem fresh (settings : Settings) (generation : Option Int) : Truthful settings none generation [] where
  id := by
    intro id
    constructor
    · intro h
      cases h
    · rintro ⟨e, hlatest, -⟩
      exact absurd hlatest (Run.not_latest_nil e)
  observed := by
    intro g
    constructor
    · intro h
      cases h
    · rintro ⟨e, hlatest, -⟩
      exact absurd hlatest (Run.not_latest_nil e)
  notAhead := by
    intro g h
    cases h
  completed := by
    intro s h
    cases h

/-- An announcement takes over what was recorded, and completes nothing. -/
theorem announced (h : Truthful settings status generation chronicle) (he : ¬ e.IsResult settings)
    {s : ApiStatus} (hid : s.id = status.bind (·.id))
    (hobserved : s.observedGeneration = status.bind (·.observedGeneration))
    (hprocessing : s.processingStatus ≠ .completed) :
    Truthful settings (some s) generation (chronicle ++ [e]) where
  id := by
    intro id
    have hfails : ¬ e.Succeeds settings := fun hsucceeds => he hsucceeds.isResult
    simp only [Option.bind_some, hid, h.id id, Run.latest_snoc_of_not_sort hfails]
  observed := by
    intro g
    simp only [Option.bind_some, hobserved, h.observed g, Run.latest_snoc_of_not_sort he]
  notAhead := by
    rw [Option.bind_some, hobserved]
    exact h.notAhead
  completed := by
    intro t ht hcompleted
    obtain rfl := Option.some.inj ht
    exact absurd hcompleted hprocessing

/-- The record of a result says what came of it, if the pass knows the id that was recorded before. -/
theorem concluded (h : Truthful settings status generation chronicle)
    {result : Except PassFailure SyncOutcome} (he : e.Concludes settings result)
    (hid : e.api.status.bind (·.id) = status.bind (·.id))
    (hgeneration : e.api.metadata.generation = generation) :
    Truthful settings (some (Api.decision e.api result).status) generation (chronicle ++ [e]) where
  id := by
    intro id
    have hpublishes : e.Publishes settings id ↔ ∃ record : Record, record.id = id ∧
        (result = .ok (.created record) ∨ result = .ok (.updated record)) := by
      constructor
      · rintro ⟨record, hrecord, hc | hc⟩
        · exact ⟨record, hrecord, .inl (he.unique hc)⟩
        · exact ⟨record, hrecord, .inr (he.unique hc)⟩
      · rintro ⟨record, hrecord, rfl | rfl⟩
        · exact ⟨record, hrecord, .inl he⟩
        · exact ⟨record, hrecord, .inr he⟩
    match result with
    | .error failure =>
      -- a failure keeps the id
      have hfails : ¬ e.Succeeds settings := by
        rintro ⟨outcome, hc⟩
        cases he.unique hc
      rw [Option.bind_some]
      show e.api.status.bind (·.id) = some id ↔ _
      simp only [hid, h.id id, Run.latest_snoc_of_not_sort hfails]
    | .ok outcome =>
      have hsucceeds : e.Succeeds settings := ⟨outcome, he⟩
      have hlatest : (∃ x, Run.Latest (Entry.Succeeds settings) (chronicle ++ [e]) x ∧
          x.Publishes settings id) ↔ e.Publishes settings id := by
        simp only [Run.latest_snoc_of_sort hsucceeds, exists_eq_left]
      rw [hlatest, hpublishes, Option.bind_some]
      cases outcome with
      | localOnly => simp [Api.decision, resolveSync, Reconcile.completed]
      | created record => simp [Api.decision, resolveSync, Reconcile.completed]
      | updated record => simp [Api.decision, resolveSync, Reconcile.completed]
  observed := by
    intro g
    have hresult : e.IsResult settings := ⟨result, he⟩
    simp only [Option.bind_some, observedGeneration_decision, Run.latest_snoc_of_sort hresult,
      exists_eq_left]
  notAhead := by
    rw [Option.bind_some, observedGeneration_decision, hgeneration]
    exact AtMost.refl generation
  completed := by
    intro s hs hcompleted
    obtain rfl := Option.some.inj hs
    refine ⟨chronicle, e, rfl, ?_⟩
    cases result with
    | ok outcome => exact ⟨outcome, he⟩
    | error failure =>
      simp only [Api.decision, resolveSync, resolveFailure] at hcompleted
      split at hcompleted <;> cases hcompleted

end Truthful

/-! ## Passes at work -/

/-- A pass at work: the definition as it was read, what was asked and answered so far, and what is left to do. -/
structure Flight where
  api : ApiDefinition
  log : List (Exchange Call.Answer)
  rest : Work Ending

/-- A pass that has been told one more answer. -/
def Flight.told (f : Flight) (c : Call) (answer : c.Answer) (rest : Work Ending) : Flight :=
  { f with log := f.log ++ [⟨c, answer⟩], rest }

/-! ## Worlds -/

/-- A definition with all versions that it has had, the passes at work on it, and the chronicle of all status
writes that took effect. -/
structure World (ι : Type) where
  api : ApiDefinition
  versions : List String
  flights : ι → Option Flight
  chronicle : List Entry

namespace World

variable {ι : Type}

/-- The world with the definition at a new version. -/
def replace (w : World ι) (api : ApiDefinition) (version : String) : World ι :=
  { w with
    api := { api with metadata := { api.metadata with resourceVersion := some version } }
    versions := version :: w.versions }

/-- The world in which a status write took effect. -/
def write (w : World ι) (f : Flight) (status : ApiStatus) (version : String) : World ι :=
  { w.replace { w.api with status := some status } version with
    chronicle := w.chronicle ++ [⟨f.api, f.log⟩] }

variable [DecidableEq ι]

/-- The world with a pass replaced. -/
def setFlight (w : World ι) (i : ι) (f : Option Flight) : World ι :=
  { w with flights := fun j => if j = i then f else w.flights j }

end World

section Runs

variable {ι : Type} {settings : Settings} {w w' : World ι}

/-- The next thing that happens: a pass is started, a pass is answered or ends, be it that it is done or that it
is cut short, or somebody changes the definition. A status write is refused, or it takes effect, which it can only
if the version that it names is the one of the definition; and then the pass is told the new version, or that the
write failed. Only a pass writes the status, and nobody lowers the generation. -/
inductive Step [DecidableEq ι] (settings : Settings) (w : World ι) : World ι → Prop
  | start (i : ι) (idle : w.flights i = none) :
      Step settings w (w.setFlight i (some ⟨w.api, [], Api.attend settings w.api⟩))
  | answered (i : ι) (f : Flight) (c : Call) (next : c.Answer → Work Ending) (answer : c.Answer)
      (flying : w.flights i = some f) (asks : f.rest = .ask c next) (other : ¬ IsStatusWrite c) :
      Step settings w (w.setFlight i (some (f.told c answer (next answer))))
  | refused (i : ι) (f : Flight) (ns name : String) (version : Option String) (status : ApiStatus)
      (next : Except Kube.Failure (Option String) → Work Ending) (refusal : Kube.Failure)
      (flying : w.flights i = some f)
      (asks : f.rest = .ask (.cluster (.writeStatus ns name version status)) next) :
      Step settings w (w.setFlight i
        (some (f.told (.cluster (.writeStatus ns name version status)) (.error refusal)
          (next (.error refusal)))))
  | written (i : ι) (f : Flight) (ns name : String) (version : Option String) (status : ApiStatus)
      (next : Except Kube.Failure (Option String) → Work Ending) (new : String)
      (answer : Except Kube.Failure (Option String))
      (flying : w.flights i = some f)
      (asks : f.rest = .ask (.cluster (.writeStatus ns name version status)) next)
      (current : version = none ∨ version = w.api.metadata.resourceVersion) (fresh : new ∉ w.versions)
      (told : answer = .ok (some new) ∨ ∃ failure, answer = .error failure) :
      Step settings w ((w.write f status new).setFlight i
        (some (f.told (.cluster (.writeStatus ns name version status)) answer (next answer))))
  | edited (api : ApiDefinition) (new : String) (fresh : new ∉ w.versions)
      (status : api.status = w.api.status)
      (generation : AtMost w.api.metadata.generation api.metadata.generation) :
      Step settings w (w.replace api new)
  | left (i : ι) : Step settings w (w.setFlight i none)

/-- Any number of steps. -/
abbrev Run [DecidableEq ι] (settings : Settings) : World ι → World ι → Prop :=
  Relation.ReflTransGen (Step settings)

/-- Whether a definition has just been made: it has a version, but no status, and no pass has looked at it. -/
structure Fresh (w : World ι) : Prop where
  status : w.api.status = none
  version : ∃ v, w.api.metadata.resourceVersion = some v ∧ v ∈ w.versions
  idle : ∀ i, w.flights i = none
  chronicle : w.chronicle = []

/-! ## What passes know -/

/-- Whether what a pass knows is so if the definition still has the version that the pass knows. -/
def Flight.Knows (f : Flight) (w : World ι) : Prop :=
  ∃ v, (Api.known f.api f.log).1 = some v ∧ v ∈ w.versions ∧
    (w.api.metadata.resourceVersion = some v →
      w.api.status = (Api.known f.api f.log).2 ∧ w.api.metadata.generation = f.api.metadata.generation)

/-- Whether what is left of a pass ends a conversation that the pass can have. -/
def Flight.Talks (settings : Settings) (f : Flight) : Prop :=
  ∀ more ending, f.rest.Yields more ending → (Api.attend settings f.api).Yields (f.log ++ more) ending

/-- The passes at work are what they should be, and the status tells the truth. -/
structure Sound (settings : Settings) (w : World ι) : Prop where
  version : ∃ v, w.api.metadata.resourceVersion = some v ∧ v ∈ w.versions
  talks : ∀ i f, w.flights i = some f → f.Talks settings
  knows : ∀ i f, w.flights i = some f → f.Knows w
  truthful : Truthful settings w.api.status w.api.metadata.generation w.chronicle

/-- A definition that has just been made is sound. -/
theorem Fresh.sound (h : Fresh w) : Sound settings w where
  version := h.version
  talks := by
    intro i f hf
    rw [h.idle i] at hf
    cases hf
  knows := by
    intro i f hf
    rw [h.idle i] at hf
    cases hf
  truthful := by
    rw [h.status, h.chronicle]
    exact Truthful.fresh settings w.api.metadata.generation

/-- A pass goes on with its conversation after any answer. -/
theorem Flight.Talks.told {f : Flight} (h : f.Talks settings) {c : Call} {next : c.Answer → Work Ending}
    (hasks : f.rest = .ask c next) (answer : c.Answer) :
    (f.told c answer (next answer)).Talks settings := by
  intro more ending hmore
  have hrest : f.rest.Yields (⟨c, answer⟩ :: more) ending := by
    rw [hasks]
    exact ⟨answer, more, rfl, hmore⟩
  simpa [Flight.told] using h _ ending hrest

/-- What a pass knows is out of date once the definition has a new version. -/
theorem Flight.Knows.replace {f : Flight} (h : f.Knows w) {new : String} (hfresh : new ∉ w.versions)
    (hversion : w'.api.metadata.resourceVersion = some new) (hversions : w'.versions = new :: w.versions) :
    f.Knows w' := by
  obtain ⟨v, hv, hmem, -⟩ := h
  refine ⟨v, hv, ?_, ?_⟩
  · rw [hversions]
    exact List.mem_cons_of_mem new hmem
  · intro hcurrent
    rw [hversion, Option.some.injEq] at hcurrent
    rw [hcurrent] at hfresh
    exact absurd hmem hfresh

/-- What a pass knows stays so after an answer that adds nothing to it. -/
theorem Flight.Knows.told {f : Flight} (h : f.Knows w) {c : Call} {answer : c.Answer}
    (hnote : Api.note (Api.known f.api f.log) ⟨c, answer⟩ = Api.known f.api f.log) (rest : Work Ending) :
    (f.told c answer rest).Knows w := by
  have hknown : Api.known (f.told c answer rest).api (f.told c answer rest).log = Api.known f.api f.log := by
    rw [Flight.told, Api.known_snoc, hnote]
  unfold Flight.Knows
  rw [hknown]
  exact h

/-- A pass that may write the status knows the version that it names, and writes an announcement or the record
of its result. -/
theorem Flight.Talks.write_cases {f : Flight} (h : f.Talks settings) {ns name : String}
    {version : Option String} {status : ApiStatus}
    {next : Except Kube.Failure (Option String) → Work Ending}
    (hasks : f.rest = .ask (.cluster (.writeStatus ns name version status)) next) :
    version = (Api.known f.api f.log).1 ∧
      ((announces f.api.status f.api.metadata.generation = true ∧ f.log = [Api.counted] ∧
          status = announcement f.api.status (Api.crossId f.api)) ∨
        ∃ result, (⟨f.api, f.log⟩ : Entry).Concludes settings result ∧
          status = (Api.decision f.api result).status ∧
          (Api.known f.api f.log).2.bind (·.id) = f.api.status.bind (·.id)) := by
  have hanswer : ∀ c : Call, Nonempty c.Answer := by
    intro c
    match c with
    | .cluster c => exact ⟨.error (.unreachable "")⟩
    | .http .isStopping => exact ⟨true⟩
    | .http (.send request) => exact ⟨Http.Outcome.timedOut⟩
    | .now => exact ⟨⟨0, 0⟩⟩
    | .countPass _ => exact ⟨()⟩
    | .countFailure _ _ _ => exact ⟨()⟩
    | .countRequest _ _ => exact ⟨()⟩
    | .followUp _ _ => exact ⟨Action.awaitChange⟩
    | .settle _ => exact ⟨()⟩
  obtain ⟨more, ending, hmore⟩ := Program.exists_yields hanswer f.rest
  have hall := h more ending hmore
  rw [hasks] at hmore
  obtain ⟨answer, after, rfl, -⟩ := hmore
  rcases Api.statusWrite_cases hall with
    ⟨hnews, hlog, hversion, hstatus⟩ | ⟨ns', first, middle, result, hopen, hmiddle, hlog, hstatus⟩
  · refine ⟨?_, .inl ⟨hnews, hlog, hstatus⟩⟩
    rw [hversion, hlog, Api.known_counted]
  · obtain ⟨hversion, hid⟩ := Api.known_of_opening hopen hmiddle
    rw [← hlog] at hversion hid
    exact ⟨hversion.symm, .inr ⟨result, ⟨ns', version, first, middle, hopen, hmiddle, hlog⟩, hstatus, hid⟩⟩

/-- A status write that takes effect leaves a status that tells the truth. -/
theorem Sound.written (h : Sound settings w) {i : ι} {f : Flight} (hflying : w.flights i = some f)
    {ns name : String} {version : Option String} {status : ApiStatus}
    {next : Except Kube.Failure (Option String) → Work Ending}
    (hasks : f.rest = .ask (.cluster (.writeStatus ns name version status)) next)
    (hcurrent : version = none ∨ version = w.api.metadata.resourceVersion) :
    w.api.metadata.generation = f.api.metadata.generation ∧
      Truthful settings (some status) w.api.metadata.generation (w.chronicle ++ [⟨f.api, f.log⟩]) := by
  obtain ⟨hversion, hwrite⟩ := (h.talks i f hflying).write_cases hasks
  obtain ⟨v, hv, -, hknows⟩ := h.knows i f hflying
  have hsame : w.api.metadata.resourceVersion = some v := by
    rw [hversion, hv] at hcurrent
    rcases hcurrent with hnone | hsome
    · cases hnone
    · exact hsome.symm
  obtain ⟨hstatus, hgeneration⟩ := hknows hsame
  refine ⟨hgeneration, ?_⟩
  rcases hwrite with ⟨hnews, hlog, rfl⟩ | ⟨result, hconcludes, rfl, hid⟩
  · -- nothing was asked since the definition was read, so the status is the one that was read
    rw [hlog, Api.known_counted] at hstatus
    have hread : w.api.status = f.api.status := hstatus
    refine h.truthful.announced (Entry.not_isResult_of_news hnews hlog) ?_ ?_ ?_
    · rw [hread]
      rfl
    · rw [hread]
      rfl
    · intro hcompleted
      cases hcompleted
  · refine h.truthful.concluded hconcludes ?_ hgeneration.symm
    rw [hstatus]
    exact hid.symm

variable [DecidableEq ι]

/-- A pass may be replaced by one that talks as it can and knows what is so. -/
theorem Sound.setFlight (h : Sound settings w) (i : ι) {f : Option Flight}
    (htalks : ∀ g, f = some g → g.Talks settings) (hknows : ∀ g, f = some g → g.Knows w) :
    Sound settings (w.setFlight i f) where
  version := h.version
  truthful := h.truthful
  talks := by
    intro j g hg
    by_cases hj : j = i
    · simp only [World.setFlight, hj, if_true] at hg
      exact htalks g hg
    · simp only [World.setFlight, hj, if_false] at hg
      exact h.talks j g hg
  knows := by
    intro j g hg
    by_cases hj : j = i
    · simp only [World.setFlight, hj, if_true] at hg
      exact hknows g hg
    · simp only [World.setFlight, hj, if_false] at hg
      exact h.knows j g hg

/-- The world stays sound whatever happens next. -/
theorem Sound.step (h : Sound settings w) (hstep : Step settings w w') : Sound settings w' := by
  cases hstep with
  | start i idle =>
    refine h.setFlight i ?_ ?_
    · rintro g ⟨⟩
      intro more ending hmore
      exact hmore
    · rintro g ⟨⟩
      obtain ⟨v, hv, hmem⟩ := h.version
      exact ⟨v, hv, hmem, fun _ => ⟨rfl, rfl⟩⟩
  | answered i f c next answer flying asks other =>
    refine h.setFlight i ?_ ?_
    · rintro g ⟨⟩
      exact (h.talks i f flying).told asks answer
    · rintro g ⟨⟩
      exact (h.knows i f flying).told (Api.note_of_not_statusWrite _ other) _
  | refused i f ns name version status next refusal flying asks =>
    refine h.setFlight i ?_ ?_
    · rintro g ⟨⟩
      exact (h.talks i f flying).told asks (.error refusal)
    · rintro g ⟨⟩
      exact (h.knows i f flying).told rfl _
  | written i f ns name version status next new answer flying asks current fresh told =>
    obtain ⟨hgeneration, htruthful⟩ := h.written flying asks current
    have hwritten : Sound settings (w.write f status new) :=
      { version := ⟨new, rfl, List.mem_cons_self⟩
        talks := h.talks
        knows := fun j g hg => (h.knows j g hg).replace fresh rfl rfl
        truthful := htruthful }
    refine hwritten.setFlight i ?_ ?_
    · rintro g ⟨⟩
      exact (h.talks i f flying).told asks answer
    · rintro g ⟨⟩
      rcases told with rfl | ⟨failure, rfl⟩
      · -- the pass knows what it has written
        refine ⟨new, ?_, List.mem_cons_self, fun _ => ⟨?_, hgeneration⟩⟩
        · rw [Flight.told, Api.known_snoc]
          rfl
        · rw [Flight.told, Api.known_snoc]
          rfl
      · exact ((h.knows i f flying).replace fresh rfl rfl).told rfl _
  | edited api new fresh status generation =>
    exact
      { version := ⟨new, rfl, List.mem_cons_self⟩
        talks := h.talks
        knows := fun j g hg => (h.knows j g hg).replace fresh rfl rfl
        truthful := by
          have hstatus : (w.replace api new).api.status = w.api.status := status
          rw [hstatus]
          exact { h.truthful with notAhead := h.truthful.notAhead.trans generation } }
  | left i =>
    refine h.setFlight i ?_ ?_
    · intro g hg
      cases hg
    · intro g hg
      cases hg

/-- However passes overlap, are cut short or are refused, and whatever becomes of the definition meanwhile, its
status tells the truth about the writes so far at every time. -/
theorem status_truthful (hfresh : Fresh w) (hrun : Run settings w w') :
    Truthful settings w'.api.status w'.api.metadata.generation w'.chronicle := by
  have hsound : Sound settings w' := by
    induction hrun with
    | refl => exact hfresh.sound
    | tail _ hstep ih => exact ih.step hstep
  exact hsound.truthful

/-! ## What can happen -/

/-- Every conversation without status writes can happen, and it leaves the definition as it is. -/
theorem exists_run_talk (settings : Settings) {i : ι} {f : Flight} (hflying : w.flights i = some f)
    {more rest : List (Exchange Call.Answer)} {ending : Ending}
    (hyields : f.rest.Yields (more ++ rest) ending) (hmore : ∀ e ∈ more, ¬ IsStatusWrite e.1) :
    ∃ w' g, Run settings w w' ∧ w'.api = w.api ∧ w'.versions = w.versions ∧ w'.flights i = some g ∧
      g.rest.Yields rest ending := by
  induction more generalizing w f with
  | nil => exact ⟨w, f, .refl, rfl, rfl, hflying, hyields⟩
  | cons e more ih =>
    obtain ⟨he, hlater⟩ := List.forall_mem_cons.mp hmore
    cases hasks : f.rest with
    | done r =>
      rw [hasks] at hyields
      cases hyields.1
    | ask c next =>
      rw [hasks] at hyields
      obtain ⟨answer, tail, heq, htail⟩ := hyields
      obtain ⟨rfl, rfl⟩ := List.cons.inj heq
      have hstep : Step settings w (w.setFlight i (some (f.told c answer (next answer)))) :=
        .answered i f c next answer hflying hasks he
      have hflying' : (w.setFlight i (some (f.told c answer (next answer)))).flights i =
          some (f.told c answer (next answer)) := by simp [World.setFlight]
      obtain ⟨w', g, hrun, hapi, hversions, hg, hrest⟩ := ih hflying' htail hlater
      exact ⟨w', g, hrun.head hstep, hapi, hversions, hg, hrest⟩

/-- A status write that names the version of the definition can take effect. -/
theorem exists_run_write (settings : Settings) {i : ι} {f : Flight} (hflying : w.flights i = some f)
    {ns name new : String} {version : Option String} {status : ApiStatus}
    {rest : List (Exchange Call.Answer)} {ending : Ending}
    (hyields : f.rest.Yields
      (⟨.cluster (.writeStatus ns name version status), .ok (some new)⟩ :: rest) ending)
    (hversion : version = w.api.metadata.resourceVersion) (hfresh : new ∉ w.versions) :
    ∃ w' g, Run settings w w' ∧ w'.api.status = some status ∧
      w'.api.metadata = { w.api.metadata with resourceVersion := some new } ∧
      w'.versions = new :: w.versions ∧ w'.flights i = some g ∧ g.rest.Yields rest ending := by
  cases hasks : f.rest with
  | done r =>
    rw [hasks] at hyields
    cases hyields.1
  | ask c next =>
    rw [hasks] at hyields
    obtain ⟨answer, tail, heq, htail⟩ := hyields
    obtain ⟨hcall, rfl⟩ := List.cons.inj heq
    cases hcall
    have hstep : Step settings w ((w.write f status new).setFlight i
        (some (f.told (.cluster (.writeStatus ns name version status)) (.ok (some new))
          (next (.ok (some new)))))) :=
      .written i f ns name version status next new (.ok (some new)) hflying hasks (.inr hversion) hfresh
        (.inl rfl)
    exact ⟨_, _, .single hstep, rfl, rfl, rfl, if_pos rfl, htail⟩

end Runs

/-! ## A publication -/

section Publication

/-- A live definition at its first version. -/
def orders : ApiDefinition :=
  { Lifecycle.live with metadata :=
      { Lifecycle.live.metadata with resourceVersion := some "1", generation := some 1 } }

/-- The definition as it was made, at its first version. -/
def start : World Unit := ⟨orders, ["1"], fun _ => none, []⟩

/-- A cluster in which the first version is followed by a second and that by a third, and a backend that knows no
record and creates one. -/
def publishing : Surroundings Unit where
  cluster := fun c s =>
    match c with
    | .context _ _ => (.ok (some Retention.context), s)
    | .writeStatus _ _ (some "1") _ => (.ok (some "2"), s)
    | .writeStatus _ _ _ _ => (.ok (some "3"), s)
    | .publish _ => (.ok (), s)
    | _ => (.error (.unreachable "connection refused"), s)
  http := fun c s =>
    match c with
    | .isStopping => (false, s)
    | .send request =>
      (if request.method = .get then Lifecycle.reply 404 ""
        else Lifecycle.reply 201 "\x7b\"id\":\"api-1\"\x7d", s)
  now := fun s => (⟨0, 0⟩, s)

/-- Whether a status with an id is written at the second version, which makes the third one. -/
def recordsId (id : String) : Exchange Call.Answer → Bool
  | ⟨.cluster (.writeStatus _ _ version status), .ok next⟩ =>
    version = some "2" ∧ next = some "3" ∧ status.id = some id
  | _ => false

/-- What is found is a record of the id at the second version. -/
theorem recordsId_eq_true {id : String} {e : Exchange Call.Answer} (h : recordsId id e = true) :
    ∃ ns name status, status.id = some id ∧
      e = ⟨.cluster (.writeStatus ns name (some "2") status), .ok (some "3")⟩ := by
  obtain ⟨c, answer⟩ := e
  cases c with
  | cluster c =>
    cases c with
    | writeStatus ns name version status =>
      cases answer with
      | error refusal => cases h
      | ok next =>
        obtain ⟨rfl, rfl, hid⟩ := of_decide_eq_true h
        exact ⟨ns, name, status, hid, rfl⟩
    | _ => cases h
  | _ => cases h

/-- A definition is published and then edited. Its status keeps the id of the record and the generation that was
published. -/
theorem publication_truthful :
    Fresh start ∧ ∃ w, Run Retention.settings start w ∧ w.api.status.bind (·.id) = some "api-1" ∧
      w.api.metadata.generation = some 2 ∧
      Truthful Retention.settings w.api.status w.api.metadata.generation w.chronicle := by
  have hfresh : Fresh start := ⟨rfl, ⟨"1", rfl, by decide⟩, fun _ => rfl, rfl⟩
  have hrecorded : ∃ e ∈ publishing.log (Api.attend Retention.settings orders) () Retention.books,
      recordsId "api-1" e = true := by decide +kernel
  have hyields := publishing.yields_log (Api.attend Retention.settings orders) () Retention.books
  obtain ⟨e, he, hid⟩ := hrecorded
  obtain ⟨ns, name, status, hstatus, rfl⟩ := recordsId_eq_true hid
  obtain ⟨before, after, hsplit⟩ := List.append_of_mem he
  rw [hsplit] at hyields
  rcases Api.statusWrite_cases hyields with
    ⟨-, -, hversion, -⟩ | ⟨ns', first, middle, result, hopen, hmiddle, rfl, -⟩
  · exact absurd hversion (by decide)
  obtain rfl := hopen.eq_of_news rfl
  have hattend : (Api.attend Retention.settings orders).Yields ([Api.counted] ++
      (⟨.cluster (Api.announcing ns' orders), .ok (some "2")⟩ ::
        (middle ++ ⟨.cluster (.writeStatus ns name (some "2") status), .ok (some "3")⟩ :: after)))
      (publishing.outcome (Api.attend Retention.settings orders) () Retention.books) := by
    simpa using hyields
  have hcounted : ∀ e ∈ [Api.counted], ¬ IsStatusWrite e.1 := List.forall_mem_singleton.mpr id
  have hstarted : ∃ w, Run Retention.settings start w ∧ w.api = orders ∧ w.versions = ["1"] ∧
      w.flights () = some ⟨orders, [], Api.attend Retention.settings orders⟩ :=
    ⟨_, .single (.start () rfl), rfl, rfl, rfl⟩
  obtain ⟨w₀, hrun₀, hapi₀, hversions₀, hflying₀⟩ := hstarted
  -- the pass is counted and announced, talks to the backend, and records its result
  obtain ⟨w₁, _, hrun₁, hapi₁, hversions₁, hflying₁, hrest₁⟩ :=
    exists_run_talk Retention.settings hflying₀ hattend hcounted
  obtain ⟨w₂, _, hrun₂, -, hmeta₂, hversions₂, hflying₂, hrest₂⟩ :=
    exists_run_write Retention.settings hflying₁ hrest₁ (by rw [hapi₁, hapi₀])
      (by rw [hversions₁, hversions₀]; decide)
  obtain ⟨w₃, _, hrun₃, hapi₃, hversions₃, hflying₃, hrest₃⟩ :=
    exists_run_talk Retention.settings hflying₂ hrest₂
      (Api.not_of_synchronized hmiddle (fun _ _ => id) (fun _ _ => id) (fun _ => id) fun _ => id)
  obtain ⟨w₄, _, hrun₄, hstatus₄, hmeta₄, hversions₄, -, -⟩ :=
    exists_run_write Retention.settings hflying₃ hrest₃ (by rw [hapi₃, hmeta₂])
      (by rw [hversions₃, hversions₂, hversions₁, hversions₀]; decide)
  have hedited : Step Retention.settings w₄
      (w₄.replace { w₄.api with metadata := { w₄.api.metadata with generation := some 2 } } "4") := by
    refine .edited _ "4" ?_ rfl ?_
    · rw [hversions₄, hversions₃, hversions₂, hversions₁, hversions₀]
      decide
    · rw [hmeta₄, hapi₃, hmeta₂, hapi₁, hapi₀]
      exact fun g hg => ⟨2, rfl, by cases hg; decide⟩
  have hrun := ((((hrun₀.trans hrun₁).trans hrun₂).trans hrun₃).trans hrun₄).tail hedited
  refine ⟨hfresh, _, hrun, ?_, rfl, status_truthful hfresh hrun⟩
  show w₄.api.status.bind (·.id) = some "api-1"
  rw [hstatus₄]
  exact hstatus

end Publication

end GatewayOperator.Reconcile.History
