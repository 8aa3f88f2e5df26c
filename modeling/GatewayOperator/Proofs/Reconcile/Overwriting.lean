import GatewayOperator.Proofs.Reconcile.FollowUp
import GatewayOperator.Proofs.Reconcile.History
import Mathlib.Data.List.Induction

/-!
# Status writes and the changes of others

Between the calls of a pass anybody may change the definition. A status write names the version that the pass knows:
the one that it has read, or the one that its own last write made. Once somebody else has changed the definition, the
pass knows a version that will never be the stored one again. So a later status write is refused, the change stays,
and the pass is over but for its report. The refusal is a lost race, so the definition is looked at again at once,
and the failures in a row that it has had are left alone.
-/

set_option autoImplicit false

namespace GatewayOperator.Reconcile

open GatewayOperator.Resource
open Program (Exchange)
open Retention (ChangesFinalizers)

/-! ## Passes that stop at a refused write -/

/-- What lies after a call of a sort takes in everything after which there is no call of the sort. -/
theorem exists_eq_append_right {sort : Call → Prop} {first rest before after : List (Exchange Call.Answer)}
    {e : Exchange Call.Answer} (h : first ++ rest = before ++ e :: after) (hrest : ∀ x ∈ rest, ¬ sort x.1)
    (he : sort e.1) : ∃ between, first = before ++ e :: between ∧ after = between ++ rest := by
  rcases List.append_eq_append_iff.mp h with ⟨between, -, hrest'⟩ | ⟨between, hfirst, hafter⟩
  · -- the call would be one of the last part
    have hmem : e ∈ rest := by
      rw [hrest']
      simp
    exact absurd he (hrest e hmem)
  · cases between with
    | nil =>
      have hmem : e ∈ rest := by
        rw [show rest = e :: after from hafter.symm]
        exact List.mem_cons_self
      exact absurd he (hrest e hmem)
    | cons x between =>
      obtain ⟨rfl, rfl⟩ := List.cons.inj hafter
      exact ⟨between, hfirst, rfl⟩

/-- Whether a refused status write is the last call of a pass, which fails with the refusal. -/
def StopsAtRefusal {α : Type} (p : Pass α) : Prop :=
  ∀ before after ns name version status refusal r,
    p.run.Yields (before ++ ⟨.cluster (.writeStatus ns name version status), .error refusal⟩ :: after) r →
      after = [] ∧ r = .error (.kube refusal)

section Stops

variable {α β : Type}

/-- A pass that writes no status is never refused one. -/
theorem stopsAtRefusal_of_asks {p : Pass α} (h : p.run.Asks fun c => ¬ IsStatusWrite c) : StopsAtRefusal p := by
  intro before after ns name version status refusal r hp
  exact absurd trivial (h.of_mem hp ⟨.cluster (.writeStatus ns name version status), .error refusal⟩ (by simp))

/-- A pass stops at a refusal if its first part does, and what follows that does. -/
theorem StopsAtRefusal.bind {p : Pass α} {f : α → Pass β} (hp : StopsAtRefusal p)
    (hf : ∀ a, StopsAtRefusal (f a)) : StopsAtRefusal (p >>= f) := by
  intro before after ns name version status refusal r h
  rcases Program.Pass.yields_bind.mp h with ⟨e, rfl, hfirst⟩ | ⟨first, second, a, hsplit, hfirst, hsecond⟩
  · obtain ⟨rfl, heq⟩ := hp before after ns name version status refusal _ hfirst
    cases heq
    exact ⟨rfl, rfl⟩
  · rcases List.append_eq_append_iff.mp hsplit with ⟨between, rfl, hrest⟩ | ⟨between, rfl, hrest⟩
    · cases between with
      | nil =>
        rw [List.nil_append] at hrest
        rw [← hrest] at hsecond
        exact hf a [] after ns name version status refusal r hsecond
      | cons x between =>
        -- the first pass has met with the refusal, so it did not succeed
        obtain ⟨rfl, -⟩ := List.cons.inj hrest
        obtain ⟨-, heq⟩ := hp before between ns name version status refusal _ hfirst
        cases heq
    · rw [hrest] at hsecond
      exact hf a between after ns name version status refusal r hsecond

end Stops

namespace Api

variable {settings : Settings} {api : ApiDefinition} {ns : String}

/-- A status write is over once it is refused. -/
theorem stopsAtRefusal_writeStatus (version : Option String) (status : ApiStatus) :
    StopsAtRefusal (writeStatus ns api version status) := by
  intro before after ns' name version' status' refusal r h
  obtain ⟨answer, hlog, rfl⟩ := yields_cluster.mp h
  cases before with
  | nil =>
    obtain ⟨hcall, rfl⟩ := List.cons.inj hlog
    cases hcall
    exact ⟨rfl, rfl⟩
  | cons x before => simp at hlog

/-- A refused announcement is the last call of a pass. -/
theorem stopsAtRefusal_announced : StopsAtRefusal (announced ns api) := by
  unfold announced
  by_cases hnews : announces api.status api.metadata.generation = true
  · simp only [hnews, if_true]
    exact stopsAtRefusal_writeStatus _ _
  · simp only [hnews]
    exact stopsAtRefusal_of_asks trivial

/-- Without the record of a result nothing is told and nothing is followed up on. -/
theorem stopsAtRefusal_concluded (version : Option String)
    (result : Except PassFailure Management.SyncOutcome) :
    StopsAtRefusal (concluded settings ns api version result) := by
  refine (stopsAtRefusal_writeStatus _ _).bind fun _ => ?_
  refine (stopsAtRefusal_of_asks (asks_tell fun _ => id)).bind fun _ => ?_
  cases (decision api result).retry with
  | some failure =>
    exact stopsAtRefusal_of_asks (Program.Pass.asks_bind (asks_ask id) fun _ => asks_ask id)
  | none => exact stopsAtRefusal_of_asks (Program.Pass.asks_bind (asks_ask id) fun _ => trivial)

/-- A pass over a live definition stops at the first status write that is refused. -/
theorem stopsAtRefusal_applied : StopsAtRefusal (applied settings ns api) := by
  rw [applied_eq]
  refine stopsAtRefusal_announced.bind fun version => ?_
  have hsynchronized : (synchronized settings api).run.Asks fun c => ¬ IsStatusWrite c :=
    asks_synchronized (fun _ _ => id) (fun _ _ => id) (fun _ => Program.asks_of_forall (fun _ => id) _) fun _ => id
  refine (stopsAtRefusal_of_asks (Program.Pass.asks_attempt hsynchronized)).bind fun result => ?_
  exact stopsAtRefusal_concluded version result

/-- The failure of a pass over a live definition whose status write was refused. -/
def refusedWrite (refusal : Kube.Failure) : FinalizerFailure PassFailure := .applyFailed (.kube refusal)

/-- After a refused status write there are only the report of the failure, if that can be published, and the choice
of the follow-up. -/
theorem refused_write_cases {before after : List (Exchange Call.Answer)} {ns name : String}
    {version : Option String} {status : ApiStatus} {refusal : Kube.Failure} {ending : Ending}
    (h : (attend settings api).Yields
      (before ++ ⟨.cluster (.writeStatus ns name version status), .error refusal⟩ :: after) ending)
    (hworks : ∀ event failed, ⟨.cluster (.publish event), .error failed⟩ ∉ after) :
    ∃ action, ending = .failed (.finalizer (refusedWrite refusal)) action ∧
      after = [⟨.cluster (.publish ⟨failureNotice (refusedWrite refusal), "Reconcile",
          Controller.apiDefinition.subject api.metadata⟩), .ok ()⟩,
        ⟨.countFailure Controller.apiDefinition.kindName api.metadata.anyName "FinalizerError", ()⟩,
        ⟨.followUp api.metadata.key (.finalizer (refusedWrite refusal)), action⟩] := by
  let e : Exchange Call.Answer := ⟨.cluster (.writeStatus ns name version status), .error refusal⟩
  have hwrite : IsStatusWrite e.1 := trivial
  have hstage := stage_of_statusWrite h (e := e) (by simp [e]) hwrite
  have hcounted : ∀ x ∈ [counted], ¬ IsStatusWrite x.1 := List.forall_mem_singleton.mpr id
  -- under the finalizer the refused write is the last call, and the failure is that of the write
  have hstops {own : String} {first between : List (Exchange Call.Answer)}
      {r : Except (FinalizerFailure PassFailure) Action}
      (hpass : (guarded .apiDefinition own api.metadata (applied settings own api)
        (cleanedUp settings api)).run.Yields (first ++ e :: between) r) :
      between = [] ∧ r = .error (refusedWrite refusal) := by
    obtain ⟨result, happlied, rfl⟩ := apply_cases hstage hpass
    obtain ⟨rfl, rfl⟩ := stopsAtRefusal_applied first between ns name version status refusal result happlied
    exact ⟨rfl, rfl⟩
  have hlater {rest : List (Exchange Call.Answer)} (hlog : before ++ e :: after = counted :: rest) :
      ∃ between, rest = between ++ e :: after := by
    have hsplit : [counted] ++ rest = before ++ e :: after := hlog.symm
    obtain ⟨between, -, hrest⟩ := exists_eq_append hsplit hcounted hwrite
    exact ⟨between, hrest⟩
  rcases attended_cases h with
    ⟨-, hlog, -⟩ | ⟨own, rest, -, ⟨action, hok, -, hlog⟩ | ⟨failure, action, hfailed, rfl, hlog⟩⟩
  · obtain ⟨between, hrest⟩ := hlater hlog
    simp at hrest
  · obtain ⟨between, rfl⟩ := hlater hlog
    rcases reported_cases hok with ⟨_, hpass, -⟩ | ⟨_, _, -, ⟨_, heq, -⟩ | ⟨heq, -⟩⟩
    · obtain ⟨-, heq⟩ := hstops hpass
      cases heq
    · cases heq
    · cases heq
  · obtain ⟨between, hrest⟩ := hlater hlog
    rcases reported_cases hfailed with
      ⟨_, -, heq⟩ | ⟨inner, own, hpass, ⟨failed, heq, rfl⟩ | ⟨heq, rfl⟩⟩
    · cases heq
    · rw [List.append_assoc] at hrest
      obtain ⟨more, rfl, rfl⟩ := exists_eq_append_right hrest (by simp [IsStatusWrite]) hwrite
      exact absurd (by simp) (hworks ⟨failureNotice inner, "Reconcile",
        Controller.apiDefinition.subject api.metadata⟩ failed)
    · cases heq
      rw [List.append_assoc] at hrest
      obtain ⟨more, rfl, rfl⟩ := exists_eq_append_right hrest (by simp [IsStatusWrite]) hwrite
      obtain ⟨rfl, heq⟩ := hstops hpass
      cases heq
      exact ⟨action, rfl, rfl⟩

/-- A status write names the version that the pass knows. -/
theorem version_eq_known {before after : List (Exchange Call.Answer)} {ns name : String}
    {version : Option String} {status : ApiStatus} {answer : Except Kube.Failure (Option String)}
    {ending : Ending}
    (h : (attend settings api).Yields
      (before ++ ⟨.cluster (.writeStatus ns name version status), answer⟩ :: after) ending) :
    version = (known api before).1 := by
  rcases statusWrite_cases h with ⟨-, rfl, rfl, -⟩ | ⟨_, first, middle, result, hopen, hmiddle, rfl, -⟩
  · rfl
  · exact (known_of_opening hopen hmiddle).1.symm

/-- A pass that writes the status leaves the finalizers alone. -/
theorem not_changesFinalizers_of_statusWrite {log : List (Exchange Call.Answer)} {ending : Ending}
    (h : (attend settings api).Yields log ending) {e : Exchange Call.Answer} (he : e ∈ log)
    (hwrite : IsStatusWrite e.1) : ∀ x ∈ log, ¬ ChangesFinalizers x.1 := by
  have hstage := stage_of_statusWrite h he hwrite
  have hsynchronized : (synchronized settings api).run.Asks fun c => ¬ ChangesFinalizers c :=
    asks_synchronized (fun _ _ => id) (fun _ _ => id) (fun _ => Program.asks_of_forall (fun _ => id) _) fun _ => id
  have hreport {after : List (Exchange Call.Answer)} (hafter : ∀ x ∈ after, IsReport x.1) :
      ∀ x ∈ after, ¬ ChangesFinalizers x.1 := by
    intro x hx hchanges
    have hreports := hafter x hx
    obtain ⟨c, answer⟩ := x
    cases c with
    | cluster c => cases c <;> first | exact hreports | exact hchanges
    | _ => exact hchanges
  rcases attend_cases hstage h with
    ⟨-, rfl⟩ | ⟨-, own, refusal, after, rfl, hafter, -⟩ |
      ⟨own, first, version, middle, result, answer, after, -, hopen, hmiddle, rfl, hafter, -⟩
  · exact List.forall_mem_singleton.mpr id
  · exact List.forall_mem_cons.mpr ⟨id, List.forall_mem_cons.mpr ⟨id, hreport hafter⟩⟩
  · have hfirst : ∀ x ∈ first, ¬ ChangesFinalizers x.1 := by
      cases hopen with
      | silent quiet => exact List.forall_mem_nil _
      | announced news version => exact List.forall_mem_singleton.mpr id
    exact List.forall_mem_cons.mpr ⟨id, List.forall_mem_append.mpr ⟨hfirst,
      List.forall_mem_append.mpr ⟨hsynchronized.of_mem hmiddle,
        List.forall_mem_cons.mpr ⟨id, hreport hafter⟩⟩⟩⟩

/-- Whether a call remembers a failure or forgets failures. -/
def IsBooking : Call → Prop
  | .followUp _ _ => True
  | .settle _ => True
  | _ => False

/-- Until a pass has written its last status, no failure is remembered or forgotten. -/
theorem not_isBooking_before_statusWrite {before after : List (Exchange Call.Answer)} {ns name : String}
    {version : Option String} {status : ApiStatus} {answer : Except Kube.Failure (Option String)}
    {ending : Ending}
    (h : (attend settings api).Yields
      (before ++ ⟨.cluster (.writeStatus ns name version status), answer⟩ :: after) ending) :
    ∀ x ∈ before, ¬ IsBooking x.1 := by
  have hsynchronized : (synchronized settings api).run.Asks fun c => ¬ IsBooking c :=
    asks_synchronized (fun _ _ => id) (fun _ _ => id) (fun _ => Program.asks_of_forall (fun _ => id) _) fun _ => id
  rcases statusWrite_cases h with ⟨-, rfl, -, -⟩ | ⟨own, first, middle, result, hopen, hmiddle, rfl, -⟩
  · exact List.forall_mem_singleton.mpr id
  · have hfirst : ∀ x ∈ first, ¬ IsBooking x.1 := by
      cases hopen with
      | silent quiet => exact List.forall_mem_nil _
      | announced news version => exact List.forall_mem_singleton.mpr id
    exact List.forall_mem_cons.mpr ⟨id, List.forall_mem_append.mpr ⟨hfirst, hsynchronized.of_mem hmiddle⟩⟩

end Api

namespace Overwriting

/-! ## Timelines -/

/-- What happens while a pass is at work on a definition. -/
inductive Event where
  /-- A call of the pass is answered. -/
  | answered (e : Exchange Call.Answer)
  /-- Somebody else stores the definition with another content. -/
  | changed (api : ApiDefinition)

/-- Whether an event is a change by somebody else. -/
def Event.IsChange : Event → Prop
  | .answered _ => False
  | .changed _ => True

/-- The exchange of the pass, if an event is one. -/
def Event.talk? : Event → Option (Exchange Call.Answer)
  | .answered e => some e
  | .changed _ => none

/-- The conversation of the pass. -/
def talk (es : List Event) : List (Exchange Call.Answer) := es.filterMap Event.talk?

/-- The definition as it is stored, the versions that it has had so far, and the books of the controller. -/
structure Shared where
  api : ApiDefinition
  versions : List String
  books : Backoff

/-- The definition is stored with another content at another version. -/
def Shared.replace (s : Shared) (api : ApiDefinition) (version : String) : Shared :=
  { s with
    api := { api with metadata := { api.metadata with resourceVersion := some version } }
    versions := version :: s.versions }

/-- Whether a call that the pass makes need not change the definition or the books, whatever its answer. -/
def IsPlain : Call → Prop
  | .cluster (.writeStatus _ _ _ _) => False
  | .cluster (.publish _) => False
  | .followUp _ _ => False
  | .settle _ => False
  | _ => True

/-- How the definition and the books change. A status write whose version is stale is refused with a conflict. Any
other one may be refused as well, or it takes effect, and then the pass is told the new version, or that the write
failed. Every change makes a version that was not there before. Events are always published. -/
inductive Step : Shared → Event → Shared → Prop
  | changed (s : Shared) (api : ApiDefinition) (new : String) (fresh : new ∉ s.versions)
      (version : api.metadata.resourceVersion = some new) :
      Step s (.changed api) (s.replace api new)
  | refused (s : Shared) (ns name : String) (version : Option String) (status : ApiStatus)
      (refusal : Kube.Failure)
      (stale : version ≠ none → version ≠ s.api.metadata.resourceVersion → refusal.isConflict = true) :
      Step s (.answered ⟨.cluster (.writeStatus ns name version status), .error refusal⟩) s
  | written (s : Shared) (ns name : String) (version : Option String) (status : ApiStatus) (new : String)
      (answer : Except Kube.Failure (Option String)) (fresh : new ∉ s.versions)
      (current : version = none ∨ version = s.api.metadata.resourceVersion)
      (told : answer = .ok (some new) ∨ ∃ failure, answer = .error failure) :
      Step s (.answered ⟨.cluster (.writeStatus ns name version status), answer⟩)
        (s.replace { s.api with status := some status } new)
  | marked (s : Shared) (controller : Controller) (ns name : String) (change : Cluster.FinalizerChange)
      (finalizers : Option (List String)) (new : String) (answer : Except Kube.Failure Unit)
      (fresh : new ∉ s.versions) :
      Step s (.answered ⟨.cluster (.changeFinalizers controller ns name change), answer⟩)
        (s.replace { s.api with metadata := { s.api.metadata with finalizers } } new)
  | published (s : Shared) (event : Kube.Event) :
      Step s (.answered ⟨.cluster (.publish event), .ok ()⟩) s
  | followedUp (s : Shared) (key : String) (failure : PassFailure) :
      Step s (.answered ⟨.followUp key failure, (s.books.actionFor key failure).1⟩)
        { s with books := (s.books.actionFor key failure).2 }
  | settled (s : Shared) (key : String) :
      Step s (.answered ⟨.settle key, ()⟩) { s with books := s.books.reset key }
  | plain (s : Shared) (e : Exchange Call.Answer) (plain : IsPlain e.1) : Step s (.answered e) s

/-- Whether events can happen one after the other, from one state to another. -/
def Course : Shared → List Event → Shared → Prop
  | s, [], t => t = s
  | s, e :: rest, t => ∃ u, Step s e u ∧ Course u rest t

section Timelines

variable {s t u : Shared} {es : List Event} {e : Event}

/-- The conversation has what was answered. -/
theorem mem_talk {x : Exchange Call.Answer} : x ∈ talk es ↔ .answered x ∈ es := by
  unfold talk
  rw [List.mem_filterMap]
  constructor
  · rintro ⟨e, he, heq⟩
    cases e with
    | answered y =>
      cases heq
      exact he
    | changed api => cases heq
  · intro he
    exact ⟨.answered x, he, rfl⟩

/-- The conversation goes on with the events. -/
theorem talk_append (first second : List Event) : talk (first ++ second) = talk first ++ talk second :=
  List.filterMap_append

/-- An answer is the next exchange of the conversation. -/
theorem talk_snoc_answered (es : List Event) (x : Exchange Call.Answer) :
    talk (es ++ [.answered x]) = talk es ++ [x] := talk_append es [.answered x]

/-- The changes of others do not show in the conversation. -/
theorem talk_snoc_changed (es : List Event) (api : ApiDefinition) : talk (es ++ [.changed api]) = talk es := by
  rw [talk_append]
  exact List.append_nil (talk es)

/-- Events happen in two goes, with a state between them. -/
theorem course_append {first second : List Event} :
    Course s (first ++ second) t ↔ ∃ u, Course s first u ∧ Course u second t := by
  induction first generalizing s with
  | nil =>
    constructor
    · intro h
      exact ⟨s, rfl, h⟩
    · rintro ⟨_, rfl, h⟩
      exact h
  | cons e first ih =>
    simp only [List.cons_append, Course, ih]
    constructor
    · rintro ⟨v, hstep, u, hfirst, hsecond⟩
      exact ⟨u, ⟨v, hstep, hfirst⟩, hsecond⟩
    · rintro ⟨u, ⟨v, hstep, hfirst⟩, hsecond⟩
      exact ⟨v, hstep, u, hfirst, hsecond⟩

/-- The last event happens in the state that the others lead to. -/
theorem course_snoc : Course s (es ++ [e]) t ↔ ∃ u, Course s es u ∧ Step u e t := by
  rw [course_append]
  constructor
  · rintro ⟨u, hes, v, hstep, rfl⟩
    exact ⟨u, hes, hstep⟩
  · rintro ⟨u, hes, hstep⟩
    exact ⟨u, hes, t, hstep, rfl⟩

/-- Everything that has happened was possible at its time. -/
theorem Course.exists_step (h : Course s es t) (he : e ∈ es) : ∃ u v, Step u e v := by
  obtain ⟨before, after, rfl⟩ := List.append_of_mem he
  obtain ⟨u, -, v, hstep, -⟩ := course_append.mp h
  exact ⟨u, v, hstep⟩

/-- No event is refused. -/
theorem Course.published (h : Course s es t) (event : Kube.Event) (refusal : Kube.Failure) :
    .answered ⟨.cluster (.publish event), .error refusal⟩ ∉ es := by
  intro hmem
  obtain ⟨u, v, hstep⟩ := h.exists_step hmem
  cases hstep with
  | plain _ hplain => exact hplain

/-- What is done about a failure is taken from the books as they are then. -/
theorem Course.followedUp (h : Course s es t) {key : String} {failure : PassFailure} {action : Action}
    (hmem : .answered ⟨.followUp key failure, action⟩ ∈ es) :
    ∃ books : Backoff, action = (books.actionFor key failure).1 := by
  obtain ⟨u, v, hstep⟩ := h.exists_step hmem
  cases hstep with
  | followedUp => exact ⟨u.books, rfl⟩
  | plain _ hplain => cases hplain

/-! ## Books -/

/-- Lost races leave the books alone, and so does everything but a booking. -/
theorem Step.books_eq (h : Step s e t)
    (hlost : ∀ x, e = .answered x → Api.IsBooking x.1 →
      ∃ key failure, x.1 = .followUp key failure ∧ failure.requeue = .immediately) :
    t.books = s.books := by
  cases h with
  | followedUp key failure =>
    obtain ⟨_, _, heq, hrequeue⟩ := hlost _ rfl trivial
    cases heq
    show (s.books.actionFor key failure).2 = s.books
    rw [s.books.actionFor_of_immediately key hrequeue]
  | settled key =>
    obtain ⟨_, _, heq, -⟩ := hlost _ rfl trivial
    cases heq
  | _ => rfl

/-- If nothing but lost races is followed up, the books are in the end what they were. -/
theorem Course.books_eq (h : Course s es t)
    (hlost : ∀ x ∈ talk es, Api.IsBooking x.1 →
      ∃ key failure, x.1 = .followUp key failure ∧ failure.requeue = .immediately) :
    t.books = s.books := by
  induction es generalizing s with
  | nil => rw [show t = s from h]
  | cons e rest ih =>
    obtain ⟨u, hstep, hrest⟩ := h
    have hhead : talk (e :: rest) = talk [e] ++ talk rest := talk_append [e] rest
    rw [ih hrest fun x hx => hlost x (hhead ▸ List.mem_append_right _ hx)]
    refine hstep.books_eq fun x hx => hlost x (hhead ▸ List.mem_append_left _ ?_)
    subst hx
    exact List.mem_singleton_self x

/-! ## Stale versions -/

/-- Whether somebody else has changed the definition. -/
def Overtaken (es : List Event) : Prop := ∃ e ∈ es, e.IsChange

/-- A pass is overtaken by a change, before the last event or by it. -/
theorem overtaken_snoc : Overtaken (es ++ [e]) ↔ Overtaken es ∨ e.IsChange := by
  simp [Overtaken, or_and_right, exists_or]

/-- What holds all through a pass over a definition: the version that the pass knows has been there. Once somebody
else has changed the definition, that version is stale, and the latest such change is what is stored. -/
structure Kept (api : ApiDefinition) (es : List Event) (t : Shared) : Prop where
  known : ∃ v, (Api.known api (talk es)).1 = some v ∧ v ∈ t.versions ∧
    (Overtaken es → t.api.metadata.resourceVersion ≠ some v)
  stored : Overtaken es → Run.Latest Event.IsChange es (.changed t.api)

variable {api : ApiDefinition}

/-- What neither is a change nor writes the status leaves all as it is. -/
theorem Kept.quiet (h : Kept api es t) {x : Exchange Call.Answer} (hx : ¬ IsStatusWrite x.1)
    (hapi : u.api = t.api) (hversions : u.versions = t.versions) : Kept api (es ++ [.answered x]) u := by
  have htalk : Api.known api (talk (es ++ [.answered x])) = Api.known api (talk es) := by
    rw [talk_snoc_answered, Api.known_snoc, Api.note_of_not_statusWrite _ hx]
  have hsame : Overtaken (es ++ [.answered x]) → Overtaken es := fun hovertaken =>
    (overtaken_snoc.mp hovertaken).resolve_right id
  constructor
  · rw [htalk, hapi, hversions]
    obtain ⟨v, hv, hmem, hstale⟩ := h.known
    exact ⟨v, hv, hmem, hstale ∘ hsame⟩
  · intro hovertaken
    rw [hapi, Run.latest_snoc_of_not_sort (fun hchange : Event.IsChange (.answered x) => hchange)]
    exact h.stored (hsame hovertaken)

/-- One more event keeps this. The pass names the version that it knows, so a write takes effect only while nobody
else has changed the definition. -/
theorem Kept.step (h : Kept api es t) (hstep : Step t e u)
    (hnames : ∀ ns name version status answer,
      e = .answered ⟨.cluster (.writeStatus ns name version status), answer⟩ →
        version = (Api.known api (talk es)).1)
    (hmarks : ∀ x, e = .answered x → ¬ ChangesFinalizers x.1) : Kept api (es ++ [e]) u := by
  obtain ⟨v, hv, hmem, hstale⟩ := h.known
  cases hstep with
  | changed other new fresh version =>
    have hstored : (t.replace other new).api = other := by
      simp only [Shared.replace, ← version]
    constructor
    · refine ⟨v, ?_, List.mem_cons_of_mem new hmem, fun _ heq => ?_⟩
      · rw [talk_snoc_changed]
        exact hv
      · have hnew : some new = some v := heq
        cases hnew
        exact fresh hmem
    · intro _
      rw [hstored]
      exact (Run.latest_snoc_of_sort (show Event.IsChange (.changed other) from trivial)).mpr rfl
  | refused ns name version status refusal stale =>
    have htalk : Api.known api (talk (es ++ [.answered ⟨.cluster (.writeStatus ns name version status),
        .error refusal⟩])) = Api.known api (talk es) := by
      rw [talk_snoc_answered, Api.known_snoc]
      rfl
    have hsame {x : Exchange Call.Answer} (hovertaken : Overtaken (es ++ [.answered x])) : Overtaken es :=
      (overtaken_snoc.mp hovertaken).resolve_right id
    constructor
    · rw [htalk]
      exact ⟨v, hv, hmem, fun hovertaken => hstale (hsame hovertaken)⟩
    · intro hovertaken
      rw [Run.latest_snoc_of_not_sort (fun hchange : Event.IsChange (.answered _) => hchange)]
      exact h.stored (hsame hovertaken)
  | written ns name version status new answer fresh current told =>
    have hcurrent : t.api.metadata.resourceVersion = some v := by
      rw [hnames ns name version status answer rfl, hv] at current
      rcases current with hnone | hsome
      · cases hnone
      · exact hsome.symm
    have hfirst (hovertaken : Overtaken (es ++ [.answered ⟨.cluster (.writeStatus ns name version status),
        answer⟩])) : False :=
      hstale ((overtaken_snoc.mp hovertaken).resolve_right id) hcurrent
    refine ⟨?_, fun hovertaken => (hfirst hovertaken).elim⟩
    rw [talk_snoc_answered, Api.known_snoc]
    rcases told with rfl | ⟨failure, rfl⟩
    · exact ⟨new, rfl, List.mem_cons_self, fun hovertaken => (hfirst hovertaken).elim⟩
    · exact ⟨v, hv, List.mem_cons_of_mem new hmem, fun hovertaken => (hfirst hovertaken).elim⟩
  | marked controller ns name change finalizers new answer fresh => exact absurd trivial (hmarks _ rfl)
  | published event => exact h.quiet id rfl rfl
  | followedUp key failure => exact h.quiet id rfl rfl
  | settled key => exact h.quiet id rfl rfl
  | plain x hplain =>
    refine h.quiet (fun hwrite => ?_) rfl rfl
    obtain ⟨c, answer⟩ := x
    cases c with
    | cluster c => cases c <;> first | exact hplain | exact hwrite
    | _ => exact hwrite

/-- Once somebody else has changed the definition, a write that names the version that the pass knows is refused. -/
theorem Kept.refused (h : Kept api es t) (hovertaken : Overtaken es) {ns name : String} {version : Option String}
    {status : ApiStatus} {answer : Except Kube.Failure (Option String)}
    (hnames : version = (Api.known api (talk es)).1)
    (hstep : Step t (.answered ⟨.cluster (.writeStatus ns name version status), answer⟩) u) :
    ∃ refusal, answer = .error refusal ∧ refusal.isConflict = true := by
  obtain ⟨v, hv, -, hstale⟩ := h.known
  have hother : version ≠ t.api.metadata.resourceVersion := by
    rw [hnames, hv]
    exact (hstale hovertaken).symm
  cases hstep with
  | refused _ _ _ _ refusal stale => exact ⟨refusal, rfl, stale (by simp [hnames, hv]) hother⟩
  | written _ _ _ _ _ _ _ current _ =>
    rcases current with hnone | hsome
    · rw [hnames, hv] at hnone
      cases hnone
    · exact absurd hsome hother
  | plain _ hplain => exact hplain.elim

/-- When a pass starts from what is stored, nobody else has changed the definition since. -/
theorem Kept.start {v : String} (hread : s.api.metadata.resourceVersion = some v) (hmem : v ∈ s.versions) :
    Kept s.api [] s where
  known := ⟨v, hread, hmem, fun ⟨_, he, _⟩ => absurd he List.not_mem_nil⟩
  stored := fun ⟨_, he, _⟩ => absurd he List.not_mem_nil

/-- All through the events of a pass that writes the status, what it knows is kept. -/
theorem kept_of_course {settings : Settings} {ending : Ending} {v : String}
    (hread : s.api.metadata.resourceVersion = some v) (hmem : v ∈ s.versions)
    (htalk : (Api.attend settings s.api).Yields (talk es) ending)
    (hmarks : ∀ x ∈ talk es, ¬ ChangesFinalizers x.1) {seen rest : List Event} (hes : es = seen ++ rest)
    (hcourse : Course s seen t) : Kept s.api seen t := by
  -- the latest event last, as the run lemmas have it
  induction seen using List.reverseRecOn generalizing rest t with
  | nil =>
    rw [show t = s from hcourse]
    exact Kept.start hread hmem
  | append_singleton seen e ih =>
    obtain ⟨u, hseen, hstep⟩ := course_snoc.mp hcourse
    have hsplit : es = seen ++ ([e] ++ rest) := by rw [hes, List.append_assoc]
    have htalkSplit : talk es = talk seen ++ (talk [e] ++ talk rest) := by
      rw [hsplit, talk_append, talk_append]
    refine (ih hsplit hseen).step hstep ?_ ?_
    · rintro ns name version status answer rfl
      have hwrite : (Api.attend settings s.api).Yields
          (talk seen ++ ⟨.cluster (.writeStatus ns name version status), answer⟩ :: talk rest) ending :=
        htalkSplit ▸ htalk
      exact Api.version_eq_known hwrite
    · rintro x rfl
      exact hmarks x (mem_talk.mpr (by simp [hes]))

end Timelines

/-! ## Writes after a change -/

/-- If somebody else changed the definition after it was read and before a status write of the pass, the cluster
refuses that write with a conflict. The pass writes the status no more, and at all times from then on what is stored
is the latest of the changes. The definition is looked at again without delay, and the books are left alone. -/
theorem write_refused_after_change (settings : Settings) (start finish : Shared) (v : String)
    (hread : start.api.metadata.resourceVersion = some v) (hversion : v ∈ start.versions)
    (before after : List Event) (ns name : String) (version : Option String) (status : ApiStatus)
    (answer : Except Kube.Failure (Option String)) (ending : Ending)
    (hcourse : Course start
      (before ++ .answered ⟨.cluster (.writeStatus ns name version status), answer⟩ :: after) finish)
    (hpass : (Api.attend settings start.api).Yields
      (talk (before ++ .answered ⟨.cluster (.writeStatus ns name version status), answer⟩ :: after)) ending)
    (hchanged : ∃ api, .changed api ∈ before) :
    (∃ refusal, answer = .error refusal ∧ refusal.isConflict = true) ∧
      (∀ e, .answered e ∈ after → ¬ IsStatusWrite e.1) ∧
      (∀ seen now, seen <+: after →
        Course start (before ++ .answered ⟨.cluster (.writeStatus ns name version status), answer⟩ :: seen) now →
          Run.Latest Event.IsChange
            (before ++ .answered ⟨.cluster (.writeStatus ns name version status), answer⟩ :: seen)
            (.changed now.api)) ∧
      (∃ failure, ending = .failed failure (.requeue Span.zero)) ∧ finish.books = start.books := by
  let write : Exchange Call.Answer := ⟨.cluster (.writeStatus ns name version status), answer⟩
  have hovertaken (seen : List Event) : Overtaken (before ++ seen) := by
    obtain ⟨api, hmem⟩ := hchanged
    exact ⟨.changed api, List.mem_append_left seen hmem, trivial⟩
  have htalk : talk (before ++ .answered write :: after) = talk before ++ write :: talk after :=
    talk_append before _
  have hmarks : ∀ x ∈ talk (before ++ .answered write :: after), ¬ ChangesFinalizers x.1 :=
    Api.not_changesFinalizers_of_statusWrite (e := write) hpass (by simp [htalk]) trivial
  have hkept {seen rest : List Event} {now : Shared}
      (hes : before ++ .answered write :: after = seen ++ rest) (hseen : Course start seen now) :
      Kept start.api seen now := kept_of_course hread hversion hpass hmarks hes hseen
  -- at the time of the write the version that it names is stale
  have hrefused : ∃ refusal, answer = .error refusal ∧ refusal.isConflict = true := by
    obtain ⟨u, hbefore, w, hstep, -⟩ := course_append.mp hcourse
    rw [htalk] at hpass
    exact (hkept rfl hbefore).refused (by simpa using hovertaken []) (Api.version_eq_known hpass) hstep
  obtain ⟨refusal, rfl, hconflict⟩ := hrefused
  rw [htalk] at hpass
  have hworks (event : Kube.Event) (failed : Kube.Failure) :
      ⟨.cluster (.publish event), .error failed⟩ ∉ talk after := by
    intro hmem
    exact hcourse.published event failed (by simp [mem_talk.mp hmem])
  obtain ⟨action, rfl, hafter⟩ := Api.refused_write_cases hpass hworks
  have himmediately : (PassFailure.finalizer (Api.refusedWrite refusal)).requeue = .immediately := by
    simp only [Api.refusedWrite, PassFailure.requeue, FinalizerFailure.requeue, hconflict, if_true]
  refine ⟨⟨refusal, rfl, hconflict⟩, fun e he => ?_, fun seen now hseen hnow => ?_, ?_, ?_⟩
  · have hreports : ∀ x ∈ talk after, ¬ IsStatusWrite x.1 := by simp [hafter, IsStatusWrite]
    exact hreports e (mem_talk.mpr he)
  · obtain ⟨rest, rfl⟩ := hseen
    exact (hkept (List.append_assoc before (.answered write :: seen) rest).symm hnow).stored (hovertaken _)
  · have hmem : Event.answered ⟨.followUp start.api.metadata.key (.finalizer (Api.refusedWrite refusal)), action⟩ ∈
        after := mem_talk.mp (by simp [hafter])
    obtain ⟨books, rfl⟩ := hcourse.followedUp (List.mem_append_right before (List.mem_cons_of_mem _ hmem))
    rw [books.actionFor_of_immediately _ himmediately]
    exact ⟨_, rfl⟩
  · refine hcourse.books_eq fun x hx hbooking => ?_
    rw [htalk] at hx
    rcases List.mem_append.mp hx with hx | hx
    · exact absurd hbooking (Api.not_isBooking_before_statusWrite hpass x hx)
    rcases List.mem_cons.mp hx with rfl | hx
    · cases hbooking
    rw [hafter] at hx
    simp only [List.mem_cons, List.not_mem_nil, or_false] at hx
    rcases hx with rfl | rfl | rfl
    · cases hbooking
    · cases hbooking
    · exact ⟨_, _, rfl, himmediately⟩

/-! ## A change between two writes -/

section Race

/-- A live definition without a context, at its first version, and what somebody else makes of it. -/
def linkless : ApiDefinition :=
  { History.orders with spec := { History.orders.spec with contextRef := none } }

/-- The definition as somebody else has renamed it meanwhile. -/
def renamed : ApiDefinition :=
  { linkless with
    metadata := { linkless.metadata with resourceVersion := some "3" }
    spec := { linkless.spec with name := "Purchases" } }

/-- How the cluster refuses a stale write. -/
def conflict : Kube.Failure := .refused "the object has been modified" "Conflict" 409

/-- A cluster in which the announcement makes the second version, which then is changed by somebody else. -/
def racing : Surroundings Unit where
  cluster := fun c s =>
    match c with
    | .writeStatus _ _ (some "1") _ => (.ok (some "2"), s)
    | .publish _ => (.ok (), s)
    | _ => (.error conflict, s)
  http := fun c s =>
    match c with
    | .isStopping => (false, s)
    | .send _ => (.unreachable, s)
  now := fun s => (⟨0, 0⟩, s)

/-- The pass is announced, the definition is changed, and the result cannot be recorded. -/
def opening : List Event :=
  [.answered Api.counted, .answered ⟨.cluster (Api.announcing "shop" linkless), .ok (some "2")⟩, .changed renamed]

/-- The report of the refused write, and the new look at the definition at once. -/
def closing : List Event :=
  [.answered ⟨.cluster (.publish ⟨failureNotice (Api.refusedWrite conflict), "Reconcile",
      Controller.apiDefinition.subject linkless.metadata⟩), .ok ()⟩,
    .answered ⟨.countFailure "ApiDefinition" "orders" "FinalizerError", ()⟩,
    .answered ⟨.followUp "shop/orders" (.finalizer (Api.refusedWrite conflict)), .requeue Span.zero⟩]

/-- The other writer's content stays, and the definition is looked at again at once. -/
theorem renaming_survives_record :
    let record := Api.recording "shop" linkless (some "2") (.ok .localOnly)
    let start : Shared := ⟨linkless, ["1"], Retention.books⟩
    let finish : Shared := ⟨renamed, ["3", "2", "1"], Retention.books⟩
    let ending := racing.outcome (Api.attend Retention.settings linkless) () Retention.books
    Course start (opening ++ .answered ⟨.cluster record, .error conflict⟩ :: closing) finish ∧
      Run.Latest Event.IsChange (opening ++ .answered ⟨.cluster record, .error conflict⟩ :: closing)
        (.changed renamed) ∧
      ∃ failure, ending = .failed failure (.requeue Span.zero) := by
  intro record start finish ending
  have hcourse : Course start (opening ++ .answered ⟨.cluster record, .error conflict⟩ :: closing) finish := by
    let announced := start.replace { linkless with status := some (announcement none (Api.crossId linkless)) } "2"
    exact ⟨start, .plain start _ trivial,
      announced, .written start _ _ _ _ "2" _ (by decide) (.inr rfl) (.inl rfl),
      finish, .changed announced renamed "3" (by decide) rfl,
      finish, .refused finish _ _ _ _ conflict fun _ _ => rfl,
      finish, .published finish _,
      finish, .plain finish _ trivial,
      finish, .followedUp finish _ _, rfl⟩
  have hpass : (Api.attend Retention.settings linkless).Yields
      (talk (opening ++ .answered ⟨.cluster record, .error conflict⟩ :: closing)) ending :=
    racing.yields_log (Api.attend Retention.settings linkless) () Retention.books
  obtain ⟨-, -, hstored, hending, -⟩ := write_refused_after_change Retention.settings start finish "1" rfl (by decide)
    opening closing _ _ _ _ _ ending hcourse hpass ⟨renamed, by simp [opening]⟩
  exact ⟨hcourse, hstored closing finish (List.prefix_refl closing) hcourse, hending⟩

end Race

end Overwriting

end GatewayOperator.Reconcile
