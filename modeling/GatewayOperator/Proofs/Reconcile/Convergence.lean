import GatewayOperator.Proofs.Reconcile.Site
import Mathlib.Logic.Relation

/-!
# Reconciling converges

The first successful pass over a definition finds its record by the cross ID and replaces it, or finds none and
creates one. From then on there is exactly one record with the cross ID. Every further pass finds it, so it
replaces it and creates none, and it writes the same payload again. Therefore the records and the status are the
same after every pass from the second one on, whatever status the passes were given.
-/

set_option autoImplicit false

namespace GatewayOperator.Reconcile

open GatewayOperator.Resource GatewayOperator.Management
open Program (Exchange)

namespace Site

variable {σ : Type}

/-- Whether a definition asks for what another one asked for. Its status and whatever else the cluster keeps about
it may differ. -/
structure Unchanged (a b : ApiDefinition) : Prop where
  spec : b.spec = a.spec
  scope : b.metadata.namespace = a.metadata.namespace
  name : b.metadata.anyName = a.metadata.anyName
  generation : b.metadata.generation = a.metadata.generation

namespace Unchanged

variable {a b : ApiDefinition} (h : Unchanged a b)

include h

/-- The unchanged definition has the same cross ID. -/
theorem crossId_eq : Api.crossId b = Api.crossId a := by
  simp only [Api.crossId, Meta.anyNamespace, h.spec, h.scope, h.name]

/-- The unchanged definition has the same payload. -/
theorem payload_eq : Api.payload b = Api.payload a := by
  simp only [Api.payload, h.spec, h.crossId_eq]

/-- The unchanged definition points at the same context. -/
theorem contextKey_eq : contextKey b = contextKey a := by
  simp only [contextKey, Meta.anyNamespace, h.spec, h.scope]

/-- A definition that twice stays unchanged is unchanged. -/
theorem trans {c : ApiDefinition} (hc : Unchanged b c) : Unchanged a c where
  spec := hc.spec.trans h.spec
  scope := hc.scope.trans h.scope
  name := hc.name.trans h.name
  generation := hc.generation.trans h.generation

end Unchanged

/-- Whether a pass over the unchanged definition, which is still live, finds the records as another pass left
them. -/
def Next (site : Site σ) (v w : Visit σ) : Prop :=
  Unchanged v.api w.api ∧ InUse .apiDefinition w.api.metadata ∧
    site.store w.state = site.store (site.left v)

/-- Whether the records of a store are those of another one, except that one and only one record carries the cross
ID of a payload, and holds that payload, its id aside. -/
structure Published (p : Payload) (id : String) (s t : Store) : Prop where
  only : ∀ other, t.Carries p.crossId other ↔ other = id
  stored : ∃ q, t.stored id = some q ∧ q.withId id = p.withId id
  others : ∀ other q, q.crossId ≠ p.crossId → (t.stored other = some q ↔ s.stored other = some q)

/-- A payload that is put where there was no record, or the only one with its cross ID, is published. -/
theorem published_put {s : Store} {p q : Payload} {id : String} (hq : q.withId id = p.withId id)
    (hother : ∀ other, s.Carries p.crossId other → other = id)
    (hbefore : s.stored id = none ∨ s.Carries p.crossId id) :
    Published p id s (s.put id (some q)) := by
  have hcrossId : q.crossId = p.crossId := by
    have h : (q.withId id).crossId = (p.withId id).crossId := by rw [hq]
    exact h
  refine ⟨?_, ⟨q, Store.stored_put_self s id (some q), hq⟩, ?_⟩
  · intro other
    constructor
    · intro hcarries
      by_cases hid : other = id
      · exact hid
      · exact hother other ((Store.carries_put_of_ne (some q) hid).mp hcarries)
    · rintro rfl
      exact ⟨q, Store.stored_put_self s other (some q), hcrossId⟩
  · intro other r hr
    by_cases hid : other = id
    · -- neither before nor after does the record have another cross ID
      subst hid
      rw [Store.stored_put_self]
      constructor
      · intro heq
        cases heq
        exact absurd hcrossId hr
      · intro heq
        rcases hbefore with hnone | ⟨before, hstored, hx⟩
        · rw [hnone] at heq
          cases heq
        · rw [hstored] at heq
          cases heq
          exact absurd hx hr
    · rw [Store.stored_put_of_ne s (some q) hid]

/-- What was published once is published still when the record is replaced. -/
theorem Published.again {s t : Store} {p : Payload} {id : String} (h : Published p id s t) :
    Published p id s (t.put id (some (p.withId id))) := by
  have hnew : Published p id t (t.put id (some (p.withId id))) :=
    published_put rfl (fun other => (h.only other).mp) (.inr ((h.only id).mpr rfl))
  refine ⟨hnew.only, hnew.stored, ?_⟩
  intro other q hq
  rw [hnew.others other q hq, h.others other q hq]

/-- A record that is replaced was there before. -/
theorem stored_put_eq_none_iff {s : Store} {id : String} (hs : s.stored id ≠ none) (p : Payload)
    (other : String) : (s.put id (some p)).stored other = none ↔ s.stored other = none := by
  by_cases hid : other = id
  · subst hid
    simp [hs]
  · rw [Store.stored_put_of_ne s (some p) hid]

variable {site : Site σ} {v w : Visit σ} {faults : Prop}

/-- The first successful pass publishes the payload, and records that. -/
theorem published_of_succeeds (hlawful : site.Lawful faults (Call.Publishes (Api.payload v.api)))
    (hinUse : InUse .apiDefinition v.api.metadata) (hscoped : v.api.metadata.namespace ≠ none)
    (hkey : contextKey v.api = some site.context)
    (hsingle : (site.store v.state).Single (Api.crossId v.api)) (hsucceeds : site.Succeeds v) :
    ∃ id, Published (Api.payload v.api) id (site.store v.state) (site.store (site.left v)) ∧
      ∃ message, site.recorded v =
        some (completed (some id) (Api.crossId v.api) message v.api.metadata.generation) := by
  rcases hlawful.synchronization_cases (fun _ h => h) hinUse hscoped hkey with
    ⟨-, hfails, -⟩ | ⟨r, hheld, hsuccess, -⟩
  · exact absurd hsucceeds hfails
  obtain ⟨outcome, rfl, hrecorded⟩ := hsuccess hsucceeds
  obtain ⟨b, wire, upper, -, hupper, -, halong, -⟩ := hheld
  rcases synchronize_along hupper halong with
    ⟨-, -, failure, heq⟩ | ⟨record, heq, hlacks, hfresh, hput⟩ | ⟨record, heq, hcarries, hput, -⟩
  · cases heq
  · cases heq
    refine ⟨record.id, ?_, "API created", hrecorded⟩
    rw [hput]
    exact published_put rfl (fun other hother => absurd hother (hlacks other)) (.inl hfresh)
  · cases heq
    refine ⟨record.id, ?_, "API updated", hrecorded⟩
    rw [hput]
    exact published_put rfl (fun other hother => hsingle other record.id hother hcarries) (.inr hcarries)

/-- What a pass over a definition does whose record exists: it creates none, and it replaces the record or leaves
the records as they are. If it succeeds it has replaced the record, and says so. -/
structure Replaces (site : Site σ) (v : Visit σ) (id : String) : Prop where
  creates : ∀ request outcome, ⟨.http (.send request), outcome⟩ ∈ site.log v → request.method ≠ .post
  records : site.store (site.left v) = site.store v.state ∨
    site.store (site.left v) = (site.store v.state).put id (some ((Api.payload v.api).withId id))
  sends : site.Succeeds v → ∃ (b : Backend) (request : Http.Request) (outcome : Http.Outcome),
    site.Reaches b ∧ b.requestFor? (.update id ((Api.payload v.api).withId id)) = some request ∧
      ⟨.http (.send request), outcome⟩ ∈ site.log v
  notes : site.Succeeds v → site.recorded v =
    some (completed (some id) (Api.crossId v.api) "API updated" v.api.metadata.generation)
  puts : site.Succeeds v →
    site.store (site.left v) = (site.store v.state).put id (some ((Api.payload v.api).withId id))

/-- A pass over a definition whose record is the only one replaces that record. -/
theorem replaces_of_carries (hlawful : site.Lawful faults (Call.Publishes (Api.payload v.api)))
    (hinUse : InUse .apiDefinition v.api.metadata) (hscoped : v.api.metadata.namespace ≠ none)
    (hkey : contextKey v.api = some site.context) {id : String}
    (honly : ∀ other, (site.store v.state).Carries (Api.crossId v.api) other ↔ other = id) :
    Replaces site v id := by
  rcases hlawful.synchronization_cases (fun _ h => h) hinUse hscoped hkey with
    ⟨hquiet, hfails, -⟩ |
      ⟨r, ⟨b, wire, upper, hreached, hupper, hcarried, halong, hsent⟩, hsuccess, -⟩
  · exact
      { creates := fun request outcome hmem => absurd trivial (hquiet _ hmem)
        records := .inl (hlawful.store_left_of_quiet hquiet)
        sends := fun hsucceeds => absurd hsucceeds hfails
        notes := fun hsucceeds => absurd hsucceeds hfails
        puts := fun hsucceeds => absurd hsucceeds hfails }
  have hid : (site.store v.state).Carries (Api.payload v.api).crossId id := (honly id).mpr rfl
  -- the session fails, or it replaces the record
  have hends : (site.store (site.left v) = site.store v.state ∧ ∃ failure, r = .error failure) ∨
      ∃ record : Record, r = .ok (.updated record) ∧ record.id = id ∧
        site.store (site.left v) = (site.store v.state).put id (some ((Api.payload v.api).withId id)) ∧
        ⟨.update id ((Api.payload v.api).withId id), .ok record⟩ ∈ upper := by
    rcases synchronize_along hupper halong with
      ⟨hsame, -, hfailed⟩ | ⟨record, -, hlacks, -⟩ | ⟨record, hok, hcarries, hput, hmem⟩
    · exact .inl ⟨hsame, hfailed⟩
    · exact absurd hid (hlacks id)
    · have hrecord : record.id = id := (honly record.id).mp hcarries
      rw [hrecord] at hput hmem
      exact .inr ⟨record, hok, hrecord, hput, hmem⟩
  have hdone (hsucceeds : site.Succeeds v) : ∃ record : Record, record.id = id ∧
      site.recorded v = some (Api.decision v.api (.ok (.updated record))).status ∧
      site.store (site.left v) = (site.store v.state).put id (some ((Api.payload v.api).withId id)) ∧
      ⟨.update id ((Api.payload v.api).withId id), .ok record⟩ ∈ upper := by
    obtain ⟨outcome, rfl, hrecorded⟩ := hsuccess hsucceeds
    rcases hends with ⟨-, failure, heq⟩ | ⟨record, heq, hrecord, hput, hmem⟩
    · cases heq
    · cases heq
      exact ⟨record, hrecord, hrecorded, hput, hmem⟩
  refine ⟨?_, ?_, ?_, ?_, ?_⟩
  · -- a request belongs to a call, and none of the calls is a creation
    intro request outcome hmem
    obtain ⟨e, he, part, hpart, hinPart⟩ := hcarried.exists_upper ((hsent request outcome).mp hmem)
    have hasks : (b.perform e.1).Asks fun c => ∀ sent, c = .send sent → b.requestFor? e.1 = some sent :=
      Backend.asks_perform (fun sent heq => by cases heq) fun sent hfor other heq => by cases heq; exact hfor
    have hfor : b.requestFor? e.1 = some request := hasks.of_mem hpart _ hinPart request rfl
    rw [Backend.method_of_requestFor? hfor]
    have hnotCreate := not_create_of_carries hupper halong hid e he
    intro hmethod
    cases hcall : e.1 with
    | create q => exact hnotCreate q hcall
    | _ =>
      rw [hcall] at hmethod
      cases hmethod
  · rcases hends with ⟨hsame, -⟩ | ⟨record, -, -, hput, -⟩
    · exact .inl hsame
    · exact .inr hput
  · intro hsucceeds
    obtain ⟨record, -, -, -, hmem⟩ := hdone hsucceeds
    obtain ⟨part, hpart, hsub⟩ := hcarried.exists_part hmem
    obtain ⟨request, outcome, hfor, hinPart⟩ := Backend.sent_of_ok hpart
    exact ⟨b, request, outcome, hreached, hfor, (hsent request outcome).mpr (hsub _ hinPart)⟩
  · intro hsucceeds
    obtain ⟨record, hrecord, hrecorded, -⟩ := hdone hsucceeds
    rw [hrecorded, ← hrecord]
    rfl
  · intro hsucceeds
    obtain ⟨-, -, -, hput, -⟩ := hdone hsucceeds
    exact hput

/-! ## Later passes -/

/-- Whether a pass over the unchanged definition finds the records as a first pass left them, or as they are when
the record was replaced since. -/
structure Later (site : Site σ) (v : Visit σ) (id : String) (w : Visit σ) : Prop where
  unchanged : Unchanged v.api w.api
  inUse : InUse .apiDefinition w.api.metadata
  records : site.store w.state = site.store (site.left v) ∨
    site.store w.state = (site.store (site.left v)).put id (some ((Api.payload v.api).withId id))

section Later

variable {id : String}

/-- What the first pass published is still there after any later one. -/
theorem Later.published (hlater : Later site v id w)
    (hpublished : Published (Api.payload v.api) id (site.store v.state) (site.store (site.left v))) :
    Published (Api.payload v.api) id (site.store v.state) (site.store w.state) := by
  rcases hlater.records with hsame | hput
  · rw [hsame]
    exact hpublished
  · rw [hput]
    exact hpublished.again

/-- Once the definition is published, a later pass replaces its record. -/
theorem Later.replaces (hlater : Later site v id w)
    (hlawful : site.Lawful faults (Call.Publishes (Api.payload v.api)))
    (hscoped : v.api.metadata.namespace ≠ none) (hkey : contextKey v.api = some site.context)
    (hpublished : Published (Api.payload v.api) id (site.store v.state) (site.store (site.left v))) :
    Replaces site w id := by
  have hsame := hlater.unchanged
  rw [← hsame.payload_eq] at hlawful
  rw [← hsame.scope] at hscoped
  rw [← hsame.contextKey_eq] at hkey
  refine replaces_of_carries hlawful hlater.inUse hscoped hkey ?_
  rw [hsame.crossId_eq]
  exact (hlater.published hpublished).only

/-- A later pass succeeds if nothing is missing and nothing fails. -/
theorem Later.succeeds (hlater : Later site v id w)
    (hlawful : site.Lawful faults (Call.Publishes (Api.payload v.api)))
    (hscoped : v.api.metadata.namespace ≠ none) (hkey : contextKey v.api = some site.context)
    (hfaultless : ¬ faults) (hwilling : site.Willing) : site.Succeeds w := by
  have hsame := hlater.unchanged
  rw [← hsame.payload_eq] at hlawful
  rw [← hsame.scope] at hscoped
  rw [← hsame.contextKey_eq] at hkey
  exact hlawful.succeeds hfaultless hwilling hlater.inUse hscoped hkey

/-- The records that a later pass leaves. -/
theorem Later.left_cases (hlater : Later site v id w) (h : Replaces site w id) :
    site.store (site.left w) = site.store (site.left v) ∨
      site.store (site.left w) = (site.store (site.left v)).put id (some ((Api.payload v.api).withId id)) := by
  rcases h.records with hsame | hput
  · rw [hsame]
    exact hlater.records
  · rw [hlater.unchanged.payload_eq] at hput
    rcases hlater.records with heq | heq
    · rw [heq] at hput
      exact .inr hput
    · rw [heq, Store.put_put] at hput
      exact .inr hput

end Later

end Site

namespace Convergence

open Site

variable {σ : Type}

/-- After a successful pass there is exactly one record with the cross ID, it holds the payload, and the status says
so; all other records are as before. Every further pass creates none, and succeeds if there are no faults. After
each that succeeds the record was replaced, and the records and the status are the same. -/
theorem reconciling_converges (site : Site σ) (v : Visit σ) (faults : Prop)
    (hlawful : site.Lawful faults (Call.Publishes (Api.payload v.api)))
    (hinUse : InUse .apiDefinition v.api.metadata) (hscoped : v.api.metadata.namespace ≠ none)
    (hkey : contextKey v.api = some site.context)
    (hsingle : (site.store v.state).Single (Api.crossId v.api)) (hsucceeds : site.Succeeds v) :
    ∃ id, Published (Api.payload v.api) id (site.store v.state) (site.store (site.left v)) ∧
      (∃ message, site.recorded v =
        some (completed (some id) (Api.crossId v.api) message v.api.metadata.generation)) ∧
      ∀ w, Relation.TransGen site.Next v w →
        (∀ request outcome, ⟨.http (.send request), outcome⟩ ∈ site.log w → request.method ≠ .post) ∧
        Published (Api.payload v.api) id (site.store v.state) (site.store (site.left w)) ∧
        (∀ other, (site.store (site.left w)).stored other = none ↔
          (site.store (site.left v)).stored other = none) ∧
        (¬ faults → site.Willing → site.Succeeds w) ∧
        (site.Succeeds w →
          (∃ (b : Backend) (request : Http.Request) (outcome : Http.Outcome),
            site.Reaches b ∧ b.requestFor? (.update id ((Api.payload v.api).withId id)) = some request ∧
              ⟨.http (.send request), outcome⟩ ∈ site.log w) ∧
          site.recorded w =
            some (completed (some id) (Api.crossId v.api) "API updated" v.api.metadata.generation) ∧
          site.store (site.left w) =
            (site.store (site.left v)).put id (some ((Api.payload v.api).withId id))) := by
  obtain ⟨id, hpublished, hrecorded⟩ :=
    published_of_succeeds hlawful hinUse hscoped hkey hsingle hsucceeds
  refine ⟨id, hpublished, hrecorded, ?_⟩
  intro w hw
  -- every further pass is a later one: it finds what one of those before it left
  have hlater : Later site v id w := by
    induction hw with
    | single h =>
      obtain ⟨hsame, hlive, hrecords⟩ := h
      exact ⟨hsame, hlive, .inl hrecords⟩
    | tail _ h ih =>
      obtain ⟨hsame, hlive, hrecords⟩ := h
      refine ⟨ih.unchanged.trans hsame, hlive, ?_⟩
      rw [hrecords]
      exact ih.left_cases (ih.replaces hlawful hscoped hkey hpublished)
  have hreplaces := hlater.replaces hlawful hscoped hkey hpublished
  have hsame := hlater.unchanged
  have hstored : (site.store (site.left v)).stored id ≠ none :=
    ((hpublished.only id).mpr rfl).stored_ne_none
  refine ⟨hreplaces.creates, ?_, ?_, hlater.succeeds hlawful hscoped hkey, fun hdone => ⟨?_, ?_, ?_⟩⟩
  · rcases hlater.left_cases hreplaces with heq | heq
    · rw [heq]
      exact hpublished
    · rw [heq]
      exact hpublished.again
  · intro other
    rcases hlater.left_cases hreplaces with heq | heq
    · rw [heq]
    · rw [heq]
      exact stored_put_eq_none_iff hstored _ other
  · have hsends := hreplaces.sends hdone
    rw [hsame.payload_eq] at hsends
    exact hsends
  · rw [hreplaces.notes hdone, hsame.crossId_eq, hsame.generation]
  · have hputs := hreplaces.puts hdone
    rw [hsame.payload_eq] at hputs
    rw [hputs]
    rcases hlater.records with heq | heq
    · rw [heq]
    · rw [heq, Store.put_put]

/-- A first pass over a definition without a record, and a second one over what came of that. -/
def creation : Visit Slot := ⟨edition "a", .vacant, Retention.books⟩

/-- The pass after the creation, which knows the status that was recorded. -/
def replacement : Visit Slot :=
  ⟨{ edition "a" with status := Slot.site.recorded creation }, Slot.site.left creation, Retention.books⟩

/-- The first pass creates the record, the second one replaces it, and the status says so. -/
theorem creation_then_replacement :
    Slot.site.Lawful False (Call.Publishes (Api.payload creation.api)) ∧
      InUse .apiDefinition creation.api.metadata ∧ creation.api.metadata.namespace ≠ none ∧
      contextKey creation.api = some Slot.site.context ∧
      (Slot.site.store creation.state).Single (Api.crossId creation.api) ∧ Slot.site.Succeeds creation ∧
      Relation.TransGen Slot.site.Next creation replacement ∧
      ∃ id, Published (Api.payload creation.api) id (Slot.site.store creation.state)
          (Slot.site.store (Slot.site.left replacement)) ∧
        Slot.site.recorded replacement = some (completed (some id) "a" "API updated" none) := by
  have hlawful : Slot.site.Lawful False (Call.Publishes (Api.payload creation.api)) :=
    Slot.lawful.mono fun _ h => .inl h
  have hinUse : InUse .apiDefinition creation.api.metadata := ⟨by decide, by decide⟩
  have hscoped : creation.api.metadata.namespace ≠ none := by decide
  have hkey : contextKey creation.api = some Slot.site.context := by decide
  have hsingle : (Slot.site.store creation.state).Single (Api.crossId creation.api) := by
    refine Store.Lacks.single fun id hid => ?_
    exact ((Slot.carries_iff .vacant _ id).mp hid).1 rfl
  have hsucceeds : Slot.site.Succeeds creation := hlawful.succeeds not_false Slot.willing hinUse hscoped hkey
  have hstate : replacement.state = Slot.site.left creation := by simp only [replacement]
  have hnext : Relation.TransGen Slot.site.Next creation replacement :=
    .single ⟨⟨rfl, rfl, rfl, rfl⟩, hinUse, congrArg Slot.site.store hstate⟩
  obtain ⟨id, -, -, hlater⟩ :=
    reconciling_converges Slot.site creation False hlawful hinUse hscoped hkey hsingle hsucceeds
  obtain ⟨-, hpublished, -, hagain, hreplaced⟩ := hlater replacement hnext
  obtain ⟨-, hrecorded, -⟩ := hreplaced (hagain not_false Slot.willing)
  have hcrossId : Api.crossId creation.api = "a" := Slot.crossId_edition
  rw [hcrossId] at hrecorded
  exact ⟨hlawful, hinUse, hscoped, hkey, hsingle, hsucceeds, hnext, id, hpublished, hrecorded⟩

end Convergence

end GatewayOperator.Reconcile
