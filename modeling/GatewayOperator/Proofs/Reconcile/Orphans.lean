import GatewayOperator.Proofs.Management.Uniqueness
import GatewayOperator.Proofs.Reconcile.Site
import GatewayOperator.Proofs.Run

/-!
# What a definition leaves behind

A clean-up finds the record of a definition by the cross ID that the definition has by then. A pass that succeeded
has left a record with the cross ID of its own time. So what is left in the end are the records whose cross ID was
not cleared since the last pass that published it. If the cross ID of a definition is edited after a publication,
then no clean-up with the new one finds the old record, although the id of that is in the status.
-/

set_option autoImplicit false

namespace GatewayOperator.Reconcile

open GatewayOperator.Resource GatewayOperator.Management
open GatewayOperator.Management.Uniqueness (Touches)

namespace Visit

variable {σ : Type}

/-- The calls that a pass may make. -/
def MayCall (v : Visit σ) (c : Management.Call) : Prop :=
  (InUse .apiDefinition v.api.metadata ∧ c.Publishes (Api.payload v.api)) ∨
    (HeldUp .apiDefinition v.api.metadata ∧ c.Withdraws (Api.crossId v.api))

end Visit

namespace Site

variable {σ : Type}

/-- Passes one after the other, from some records to others: only the passes change the records, every definition
points at the context, and every pass over a live one succeeds. The definition may be edited between passes. -/
inductive Course (site : Site σ) (s : Store) : List (Visit σ) → Store → Prop
  | nil : Course site s [] s
  | snoc (vs : List (Visit σ)) (v : Visit σ) (t : Store) (before : Course site s vs t)
      (reads : site.store v.state = t) (inNamespace : v.api.metadata.namespace ≠ none)
      (points : contextKey v.api = some site.context)
      (succeeds : InUse .apiDefinition v.api.metadata → site.Succeeds v) :
      Course site s (vs ++ [v]) (site.store (site.left v))

variable {site : Site σ} {faults : Prop} {v : Visit σ}

/-- A definition that is being cleared is not in use. -/
theorem Clears.not_inUse (h : site.Clears v) : ¬ InUse .apiDefinition v.api.metadata := by
  intro hinUse
  have hdeleting : v.api.metadata.isDeleting = true := h.1.1
  rw [hinUse.1] at hdeleting
  cases hdeleting

/-- A successful pass over a live definition leaves a record with its cross ID, and touches no other one. -/
theorem Lawful.publishes (hlawful : site.Lawful faults v.MayCall) (hinUse : InUse .apiDefinition v.api.metadata)
    (hscoped : v.api.metadata.namespace ≠ none) (hkey : contextKey v.api = some site.context)
    (hsucceeds : site.Succeeds v) :
    Touches (Api.crossId v.api) (site.store v.state) (site.store (site.left v)) ∧
      ∃ id, (site.store (site.left v)).Carries (Api.crossId v.api) id := by
  rcases hlawful.synchronization_cases (fun c hc => .inl ⟨hinUse, hc⟩) hinUse hscoped hkey with
    ⟨-, hfails, -⟩ | ⟨r, ⟨b, wire, upper, -, hupper, -, halong, -⟩, hsuccess, -⟩
  · exact absurd hsucceeds hfails
  obtain ⟨outcome, rfl, -⟩ := hsuccess hsucceeds
  rcases synchronize_along hupper halong with
    ⟨-, -, failure, heq⟩ | ⟨record, -, hlacks, hfresh, hput⟩ | ⟨record, -, hcarries, hput, -⟩
  · cases heq
  · rw [hput]
    refine ⟨.inr ⟨record.id, _, rfl, ?_, .inr ⟨hfresh, hlacks⟩⟩, record.id, _, Store.stored_put_self _ _ _, rfl⟩
    rintro p ⟨⟩
    rfl
  · rw [hput]
    refine ⟨.inr ⟨record.id, _, rfl, ?_, .inl hcarries⟩, record.id, _, Store.stored_put_self _ _ _, rfl⟩
    rintro p ⟨⟩
    rfl

/-- A clean-up that clears its cross ID leaves no record with it, if there was one at most, and touches no other
one. -/
theorem Lawful.removes (hlawful : site.Lawful faults v.MayCall) (hkey : contextKey v.api = some site.context)
    (hclears : site.Clears v) :
    Touches (Api.crossId v.api) (site.store v.state) (site.store (site.left v)) ∧
      ((site.store v.state).Single (Api.crossId v.api) →
        (site.store (site.left v)).Lacks (Api.crossId v.api)) := by
  have hheld := hclears.1
  rcases hlawful.withdrawal_cases (fun c hc => .inr ⟨hheld, hc⟩) hheld hkey with
    ⟨-, hkept, -⟩ | ⟨-, ⟨hsame, hlacks⟩ | ⟨id, hcarries, hput⟩⟩
  · exact absurd hclears hkept
  · rw [hsame]
    exact ⟨.inl rfl, fun _ => hlacks⟩
  · rw [hput]
    refine ⟨.inr ⟨id, none, rfl, ?_, .inl hcarries⟩, fun hsingle other hother => ?_⟩
    · rintro p ⟨⟩
    by_cases hid : other = id
    · subst hid
      obtain ⟨p, hp, -⟩ := hother
      rw [Store.stored_put_self] at hp
      cases hp
    · exact hid (hsingle other id ((Store.carries_put_of_ne none hid).mp hother) hcarries)

/-- A pass that neither publishes nor clears leaves the records as they are. -/
theorem Lawful.keeps_store (hlawful : site.Lawful faults v.MayCall) (hkey : contextKey v.api = some site.context)
    (hinUse : ¬ InUse .apiDefinition v.api.metadata) (hclears : ¬ site.Clears v) :
    site.store (site.left v) = site.store v.state := by
  cases hfinalizer : v.api.metadata.hasFinalizer Controller.apiDefinition.finalizer with
  | false => exact hlawful.store_left_of_quiet (not_http_of_not_hasFinalizer hfinalizer)
  | true =>
    have hdeleting : v.api.metadata.isDeleting = true := by
      refine Decidable.byContradiction fun hnot => ?_
      exact hinUse ⟨by simpa using hnot, hfinalizer⟩
    have hheld : HeldUp .apiDefinition v.api.metadata := ⟨hdeleting, hfinalizer⟩
    rcases hlawful.withdrawal_cases (fun c hc => .inr ⟨hheld, hc⟩) hheld hkey with ⟨hsame, -⟩ | ⟨h, -⟩
    · exact hsame
    · exact absurd h hclears

/-! ## Courses -/

section Courses

variable {vs : List (Visit σ)} {s t : Store} {x y : String}

/-- Whether some record carries a cross ID. -/
def IsCarried (s : Store) (x : String) : Prop := ∃ id, s.Carries x id

/-- A write to a record with one cross ID decides only about that. -/
theorem isCarried_of_touches (h : Touches y s t) (hne : x ≠ y) : IsCarried t x ↔ IsCarried s x :=
  exists_congr fun id => h.carries_iff hne id

/-- Where at most one record carries each cross ID, that stays so as one of them is touched. -/
theorem single_of_touches (h : Touches y s t) (hs : ∀ x, s.Single x) (x : String) : t.Single x := by
  by_cases hx : x = y
  · subst hx
    exact h.single (hs x)
  · intro a b ha hb
    exact hs x a b ((h.carries_iff hx a).mp ha) ((h.carries_iff hx b).mp hb)

/-- Whether a pass publishes a cross ID. -/
def Publishes (x : String) (v : Visit σ) : Prop := InUse .apiDefinition v.api.metadata ∧ Api.crossId v.api = x

/-- Whether a pass clears a cross ID. -/
def ClearsAway (site : Site σ) (x : String) (v : Visit σ) : Prop := site.Clears v ∧ Api.crossId v.api = x

/-- A pass touches no record but those with its cross ID. -/
theorem Lawful.touches (hlawful : site.Lawful faults v.MayCall) (hscoped : v.api.metadata.namespace ≠ none)
    (hkey : contextKey v.api = some site.context)
    (hsucceeds : InUse .apiDefinition v.api.metadata → site.Succeeds v) :
    Touches (Api.crossId v.api) (site.store v.state) (site.store (site.left v)) := by
  by_cases hinUse : InUse .apiDefinition v.api.metadata
  · exact (hlawful.publishes hinUse hscoped hkey (hsucceeds hinUse)).1
  · by_cases hclears : site.Clears v
    · exact (hlawful.removes hkey hclears).1
    · exact .inl (hlawful.keeps_store hkey hinUse hclears)

/-- What is carried after one more pass: what it publishes, and what was carried before unless it is cleared. -/
theorem Lawful.isCarried_iff (hlawful : site.Lawful faults v.MayCall)
    (hscoped : v.api.metadata.namespace ≠ none) (hkey : contextKey v.api = some site.context)
    (hsucceeds : InUse .apiDefinition v.api.metadata → site.Succeeds v)
    (hsingle : (site.store v.state).Single (Api.crossId v.api)) (x : String) :
    IsCarried (site.store (site.left v)) x ↔
      Publishes x v ∨ (IsCarried (site.store v.state) x ∧ ¬ ClearsAway site x v) := by
  by_cases hx : x = Api.crossId v.api
  · subst hx
    by_cases hinUse : InUse .apiDefinition v.api.metadata
    · obtain ⟨-, hcarried⟩ := hlawful.publishes hinUse hscoped hkey (hsucceeds hinUse)
      exact iff_of_true hcarried (.inl ⟨hinUse, rfl⟩)
    · have hpublishes : ¬ Publishes (Api.crossId v.api) v := fun h => hinUse h.1
      by_cases hclears : site.Clears v
      · have hlacks := (hlawful.removes hkey hclears).2 hsingle
        refine iff_of_false ?_ ?_
        · rintro ⟨id, hid⟩
          exact hlacks id hid
        · rintro (h | ⟨-, h⟩)
          · exact hpublishes h
          · exact h ⟨hclears, rfl⟩
      · have hkept : ¬ ClearsAway site (Api.crossId v.api) v := fun h => hclears h.1
        rw [hlawful.keeps_store hkey hinUse hclears]
        simp [hpublishes, hkept]
  · -- a pass with another cross ID neither publishes nor clears
    have hpublishes : ¬ Publishes x v := fun h => hx h.2.symm
    have hkept : ¬ ClearsAway site x v := fun h => hx h.2.symm
    rw [isCarried_of_touches (hlawful.touches hscoped hkey hsucceeds) hx]
    simp [hpublishes, hkept]

/-- In a course that starts without records, a cross ID is carried iff a pass has published it and none has
cleared it since. -/
theorem Course.isCarried_iff (hcourse : site.Course ⟨fun _ => none⟩ vs t)
    (hlawful : site.Lawful faults fun c => ∃ v ∈ vs, v.MayCall c) :
    (∀ x, t.Single x) ∧ ∀ x, IsCarried t x ↔ Run.Open (Publishes x) (ClearsAway site x) vs := by
  induction hcourse with
  | nil =>
    have hnone (x id : String) : ¬ (⟨fun _ => none⟩ : Store).Carries x id := by
      rintro ⟨p, hp, -⟩
      cases hp
    refine ⟨fun x a b ha => absurd ha (hnone x a), fun x => iff_of_false ?_ Run.not_open_nil⟩
    rintro ⟨id, hid⟩
    exact hnone x id hid
  | snoc vs v t before reads inNamespace points succeeds ih =>
    have hbefore : site.Lawful faults fun c => ∃ v ∈ vs, v.MayCall c := by
      refine hlawful.mono ?_
      rintro c ⟨u, hu, hc⟩
      exact ⟨u, List.mem_append_left [v] hu, hc⟩
    have hown : site.Lawful faults v.MayCall := hlawful.mono fun c hc => ⟨v, by simp, hc⟩
    obtain ⟨hsingle, hcarried⟩ := ih hbefore
    subst reads
    refine ⟨single_of_touches (hown.touches inNamespace points succeeds) hsingle, fun x => ?_⟩
    rw [hown.isCarried_iff inNamespace points succeeds (hsingle _) x, hcarried x, Run.open_snoc]

end Courses

end Site

namespace Orphans

open Site

variable {σ : Type}

/-- After passes that start without records there is none left iff the cross ID that each pass over the live
definition has published is cleared by a later clean-up. -/
theorem nothing_left_iff_cleared (site : Site σ) (faults : Prop) (vs : List (Visit σ)) (t : Store)
    (hlawful : site.Lawful faults fun c => ∃ v ∈ vs, v.MayCall c)
    (hcourse : site.Course ⟨fun _ => none⟩ vs t) :
    (∀ id, t.stored id = none) ↔
      ∀ before v after, vs = before ++ v :: after → InUse .apiDefinition v.api.metadata →
        ∃ w ∈ after, site.Clears w ∧ Api.crossId w.api = Api.crossId v.api := by
  obtain ⟨-, hcarried⟩ := hcourse.isCarried_iff hlawful
  constructor
  · intro hnone before v after hvs hinUse
    refine Classical.byContradiction fun hkept => ?_
    have hopen : Run.Open (Publishes (Api.crossId v.api)) (ClearsAway site (Api.crossId v.api)) vs :=
      ⟨before, v, after, hvs, ⟨hinUse, rfl⟩, fun w hw hclears => hkept ⟨w, hw, hclears⟩⟩
    obtain ⟨id, p, hp, -⟩ := (hcarried _).mpr hopen
    rw [hnone id] at hp
    cases hp
  · intro hcleared id
    cases hstored : t.stored id with
    | none => rfl
    | some p =>
      obtain ⟨before, v, after, hvs, ⟨hinUse, hv⟩, hkept⟩ := (hcarried p.crossId).mp ⟨id, p, hstored, rfl⟩
      obtain ⟨w, hw, hclears, hcrossId⟩ := hcleared before v after hvs hinUse
      exact absurd ⟨hclears, hcrossId.trans hv⟩ (hkept w hw)

/-- If the cross ID stays the same, then the clean-up that clears it leaves nothing behind. -/
theorem nothing_left_of_unchanged {site : Site σ} {faults : Prop} {vs : List (Visit σ)} {w : Visit σ} {t : Store}
    (hlawful : site.Lawful faults fun c => ∃ v ∈ vs ++ [w], v.MayCall c)
    (hcourse : site.Course ⟨fun _ => none⟩ (vs ++ [w]) t) (hclears : site.Clears w)
    (hunchanged : ∀ v ∈ vs, Api.crossId v.api = Api.crossId w.api) (id : String) : t.stored id = none := by
  obtain ⟨-, hcarried⟩ := hcourse.isCarried_iff hlawful
  cases hstored : t.stored id with
  | none => rfl
  | some p =>
    have hopen := (hcarried p.crossId).mp ⟨id, p, hstored, rfl⟩
    rw [Run.open_snoc] at hopen
    rcases hopen with ⟨hinUse, -⟩ | ⟨⟨before, v, after, rfl, ⟨-, hv⟩, -⟩, hkept⟩
    · exact absurd hinUse hclears.not_inUse
    · have hsame : Api.crossId w.api = p.crossId := (hunchanged v (by simp)).symm.trans hv
      exact absurd ⟨hclears, hsame⟩ hkept

/-! ## A publication and a clean-up -/

/-- A first pass over a live definition with the cross ID `a`, and then a clean-up of the definition with a cross
ID. -/
def publication : Visit Slot := ⟨edition "a", .vacant, Retention.books⟩

/-- The clean-up after the publication, with the cross ID that the definition then has. -/
def cleanUp (crossId : String) : Visit Slot :=
  ⟨{ edition crossId with metadata := Lifecycle.dying.metadata }, Slot.site.left publication, Retention.books⟩

section Slot

/-- The definition is in use when it is published. -/
theorem inUse_publication : InUse .apiDefinition publication.api.metadata := ⟨by decide, by decide⟩

/-- The publication leaves nothing to follow up on. -/
theorem succeeds_publication : Slot.site.Succeeds publication := by
  have hlawful : Slot.site.Lawful False (Call.Publishes (Api.payload publication.api)) :=
    Slot.lawful.mono fun _ h => .inl h
  exact hlawful.succeeds not_false Slot.willing inUse_publication (by decide) (by decide)

/-- An edited cross ID does not show in the metadata. -/
theorem metadata_cleanUp (crossId : String) : (cleanUp crossId).api.metadata = Lifecycle.dying.metadata := rfl

/-- The definition that is cleaned up is dying and carries the finalizer. -/
theorem heldUp_cleanUp (crossId : String) : HeldUp .apiDefinition (cleanUp crossId).api.metadata := by
  rw [metadata_cleanUp]
  exact ⟨by decide, by decide⟩

/-- The definition that is cleaned up is no longer in use. -/
theorem not_inUse_cleanUp (crossId : String) : ¬ InUse .apiDefinition (cleanUp crossId).api.metadata := by
  rw [metadata_cleanUp]
  exact fun h => absurd h.1 (by decide)

/-- The clean-up finds what the publication left. -/
theorem course (crossId : String) :
    Slot.site.Course ⟨fun _ => none⟩ [publication, cleanUp crossId]
      (Slot.site.store (Slot.site.left (cleanUp crossId))) := by
  have hstate : (cleanUp crossId).state = Slot.site.left publication := by simp only [cleanUp]
  have hfirst : Slot.site.Course ⟨fun _ => none⟩ [publication] (Slot.site.store (Slot.site.left publication)) :=
    .snoc [] publication _ .nil Slot.store_vacant (by decide) (by decide) fun _ => succeeds_publication
  refine .snoc [publication] (cleanUp crossId) _ hfirst (congrArg Slot.site.store hstate) ?_ rfl ?_
  · rw [metadata_cleanUp]
    decide
  · exact fun hinUse => absurd hinUse (not_inUse_cleanUp crossId)

section CleanUp

variable {crossId : String}
  (h : Api.crossId (cleanUp crossId).api = "a" ∨ Api.crossId (cleanUp crossId).api = "b")

include h

/-- To withdraw either cross ID is a call that the backend handles. -/
theorem handles_of_withdraws {c : Management.Call} (hc : c.Withdraws (Api.crossId (cleanUp crossId).api)) :
    Slot.Handles c := by
  rcases h with h | h
  · rw [h] at hc
    exact .inr (.inl hc)
  · rw [h] at hc
    exact .inr (.inr hc)

/-- The clean-up clears the cross ID that the definition then has. -/
theorem clears_cleanUp : Slot.site.Clears (cleanUp crossId) := by
  have hlawful : Slot.site.Lawful False (Call.Withdraws (Api.crossId (cleanUp crossId).api)) :=
    Slot.lawful.mono fun _ hc => handles_of_withdraws h hc
  refine hlawful.clears not_false Slot.willing (heldUp_cleanUp crossId) ?_ ?_ rfl
  · rw [metadata_cleanUp]
    decide
  · rw [metadata_cleanUp]
    decide

/-- The backend is lawful about both passes. -/
theorem lawful_course :
    Slot.site.Lawful False fun c => ∃ v ∈ [publication, cleanUp crossId], v.MayCall c := by
  refine Slot.lawful.mono ?_
  rintro c ⟨v, hv, hc⟩
  rcases List.mem_cons.mp hv with rfl | hv
  · rcases hc with ⟨-, hpublishes⟩ | ⟨hheld, -⟩
    · exact .inl hpublishes
    · exact absurd hheld.1 (by decide)
  · obtain rfl := List.mem_singleton.mp hv
    rcases hc with ⟨hinUse, -⟩ | ⟨-, hwithdraws⟩
    · exact absurd hinUse (not_inUse_cleanUp crossId)
    · exact handles_of_withdraws h hwithdraws

end CleanUp

/-- The clean-up with the cross ID of the publication leaves nothing behind. -/
theorem publication_cleared :
    (Slot.site.Lawful False fun c => ∃ v ∈ [publication, cleanUp "a"], v.MayCall c) ∧
      Slot.site.Course ⟨fun _ => none⟩ [publication, cleanUp "a"]
        (Slot.site.store (Slot.site.left (cleanUp "a"))) ∧
      ∀ id, (Slot.site.store (Slot.site.left (cleanUp "a"))).stored id = none := by
  have hcrossId : Api.crossId (cleanUp "a").api = "a" := Slot.crossId_edition
  refine ⟨lawful_course (.inl hcrossId), course "a", ?_⟩
  refine (nothing_left_iff_cleared Slot.site False _ _ (lawful_course (.inl hcrossId)) (course "a")).mpr ?_
  intro before v after hsplit hinUse
  rcases List.cons_eq_append_iff.mp hsplit with ⟨rfl, heq⟩ | ⟨more, rfl, heq⟩
  · obtain ⟨rfl, rfl⟩ := List.cons.inj heq
    exact ⟨cleanUp "a", List.mem_singleton_self _, clears_cleanUp (.inl hcrossId), rfl⟩
  · -- the clean-up is not over a live definition
    have hv : v ∈ [cleanUp "a"] := by
      rw [heq]
      simp
    obtain rfl := List.mem_singleton.mp hv
    exact absurd hinUse (not_inUse_cleanUp "a")

/-- The clean-up with another cross ID succeeds as well, and the record is left. -/
theorem record_left_after_clean_up :
    (Slot.site.Lawful False fun c => ∃ v ∈ [publication, cleanUp "b"], v.MayCall c) ∧
      Slot.site.Course ⟨fun _ => none⟩ [publication, cleanUp "b"]
        (Slot.site.store (Slot.site.left (cleanUp "b"))) ∧
      Slot.site.Clears (cleanUp "b") ∧
      ¬ ∀ id, (Slot.site.store (Slot.site.left (cleanUp "b"))).stored id = none := by
  have hcrossId : Api.crossId (cleanUp "b").api = "b" := by decide +kernel
  have hleft : Slot.site.left (cleanUp "b") = .created := by decide +kernel
  refine ⟨lawful_course (.inr hcrossId), course "b", clears_cleanUp (.inr hcrossId), ?_⟩
  intro hnone
  have hrecord := hnone "api-1"
  rw [hleft] at hrecord
  cases hrecord

end Slot

end Orphans

end GatewayOperator.Reconcile
