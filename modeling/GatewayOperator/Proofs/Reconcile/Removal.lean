import GatewayOperator.Cluster.Wire
import GatewayOperator.Proofs.Kube.Store
import GatewayOperator.Proofs.Program.Pass
import GatewayOperator.Proofs.Reconcile.Retention
import Mathlib.Data.List.TakeWhile

/-!
# The API server takes a finalizer off

The removal of a finalizer is a patch that tests one place in the list and takes out what stands there. If the API
server accepts it, the object lists the finalizer once less than before, or is gone and lists none. So an object
that lists the finalizer once has lost it, as controllers take for granted; with repeats it would still be there.
-/

set_option autoImplicit false

namespace GatewayOperator.Reconcile

open Kube (Target)
open Kube.Store (finalizersOf listingsIn)
open Cluster (FinalizerChange)
open Retention (LosesFinalizer)

/-! ## The patch -/

section Patch

variable {object after : Json} {index : Nat} {finalizer : String}

/-- A removal that applies found the finalizer at its index and took it out. -/
theorem finalizersOf_of_detach (h : object.patched? (FinalizerChange.detach index finalizer).operations = some after) :
    (finalizersOf object)[index]? = some (.string finalizer) ∧
      finalizersOf after = (finalizersOf object).eraseIdx index := by
  simp only [Json.patched?, FinalizerChange.operations, List.foldlM_cons, List.foldlM_nil, Option.bind_eq_bind,
    Option.pure_def, Option.bind_fun_some, Cluster.finalizersPath, List.cons_append, List.nil_append] at h
  obtain ⟨tested, htest, hremove⟩ := Option.bind_eq_some_iff.mp h
  simp only [Json.Operation.applied?, Option.ite_none_right_eq_some] at htest hremove
  obtain ⟨hsame, htested⟩ := htest
  cases htested
  obtain ⟨metadata, changed, hmetadata, hchanged, hafter⟩ := Json.get?_of_modify? hremove
  obtain ⟨list, shorter, hlist, hshorter, hin⟩ := Json.get?_of_modify? hchanged
  simp only [Json.modify?] at hshorter
  cases list with
  | array items =>
    obtain ⟨taken, htaken, rfl⟩ := Option.map_eq_some_iff.mp hshorter
    have hbefore : finalizersOf object = items := by
      simp [finalizersOf, Kube.Store.metadata?, hmetadata, hlist, Json.items?]
    have hitem : (Json.array items).part? (.index index) = some taken := htaken
    have hthere : object.at? [.key "metadata", .key "finalizers", .index index] = some taken := by
      simp only [Json.at?, Json.part?_key, hmetadata, hlist, Option.bind_some, hitem]
    rw [hthere, Option.getD_some] at hsame
    rw [hbefore, htaken, Json.eq_string_of_same hsame]
    refine ⟨rfl, ?_⟩
    simp [finalizersOf, Kube.Store.metadata?, hafter, hin, Json.items?]
  | _ => cases hshorter

/-- A removal that applies takes off one listing. -/
theorem listingsIn_of_detach
    (h : object.patched? (FinalizerChange.detach index finalizer).operations = some after) :
    listingsIn finalizer after + 1 = listingsIn finalizer object := by
  obtain ⟨hthere, hleft⟩ := finalizersOf_of_detach h
  obtain ⟨hindex, htaken⟩ := List.getElem?_eq_some_iff.mp hthere
  have hsplit : finalizersOf object =
      (finalizersOf object).take index ++ .string finalizer :: (finalizersOf object).drop (index + 1) := by
    rw [← htaken, List.getElem_cons_drop, List.take_append_drop]
  rw [listingsIn, listingsIn, hleft, List.eraseIdx_eq_take_drop_succ, List.countP_append]
  conv_rhs => rw [hsplit, List.countP_append, List.countP_cons_of_pos (by simp [Json.text?])]
  exact Nat.add_assoc _ _ _

end Patch

/-! ## The request -/

/-- The answer of the API server to a call, and the store after it. -/
def answered (c : Cluster.Call) (s : Kube.Store) : c.Answer × Kube.Store :=
  c.perform.run (fun c s => s.respond c) s

section Request

variable {controller : Controller} {ns name finalizer : String} {index : Nat} {s t : Kube.Store}

/-- Whether a name can stand in a path without ending it or going on to a part of the object. -/
def IsPlainName (name : String) : Prop := ∀ c ∈ name.toList, c ≠ '/' ∧ c ≠ '?' ∧ c ≠ '#'

/-- The server looks for a plain name as it stands. -/
theorem target_of_ofName {kind : Kube.Kind} {a : Kube.Address} (hplain : IsPlainName name)
    (h : Kube.Address.ofName kind ns name none = .ok a) : a.target = ⟨kind, ns, name⟩ := by
  have hpath : Kube.upTo ['?', '#'] name.toList = name.toList := by
    refine List.takeWhile_eq_self_iff.mpr fun c hc => ?_
    simpa using (hplain c hc).2
  have hname : Kube.upTo ['/'] name.toList = name.toList := by
    refine List.takeWhile_eq_self_iff.mpr fun c hc => ?_
    simpa using (hplain c hc).1
  simp only [Kube.Address.ofName, List.append_nil, hpath, hname, String.ofList_toList] at h
  split at h
  · cases h
  · split at h
    · cases h
      rfl
    · cases h
      rfl

/-- A change that the API server accepts is a patch that applies to the object, whose result is stored. -/
theorem update_of_changeFinalizers {change : FinalizerChange} (hplain : IsPlainName name)
    (h : answered (.changeFinalizers controller ns name change) s = (.ok (), t)) :
    ∃ stored object, s.find? ⟨controller.kind, ns, name⟩ = some stored ∧
      stored.patched? change.operations = some object ∧
      t = (s.write ⟨controller.kind, ns, name⟩ object).2 := by
  -- the request is made if the object can be addressed, and then its answer is only checked
  have hrun : (ExceptT.run (do
      let a ← (Program.Pass.ofResult (if name = "" then .error Cluster.unnamed
        else Kube.Address.ofName controller.kind ns name none) : Cluster.Wire Kube.Address)
      let object ← Cluster.request (.jsonPatch a change.operations)
      Program.Pass.ofResult (Cluster.readable controller object))).run (fun c s => s.respond c) s = (.ok (), t) := h
  cases haddress : if name = "" then Except.error Cluster.unnamed
      else Kube.Address.ofName controller.kind ns name none with
  | error failure =>
    rw [haddress] at hrun
    cases hrun
  | ok a =>
    rw [haddress] at hrun
    have hname : Kube.Address.ofName controller.kind ns name none = .ok a := by
      split at haddress
      · cases haddress
      · exact haddress
    rw [← target_of_ofName hplain hname]
    have hchecked : (Program.Pass.andThen (fun object => Program.Pass.ofResult (Cluster.readable controller object))
        (s.respond (.jsonPatch a change.operations)).1).run (fun c s => s.respond c)
          (s.respond (.jsonPatch a change.operations)).2 = (.ok (), t) := hrun
    cases hanswer : s.respond (.jsonPatch a change.operations) with
    | mk answer s' =>
      rw [hanswer] at hchecked
      cases answer with
      | error failure => cases hchecked
      | ok object =>
        obtain rfl : s' = t := congrArg Prod.snd hchecked
        obtain ⟨stored, changed, hstored, hpatched, rfl⟩ := Kube.Store.update_eq_ok hanswer
        refine ⟨stored, changed, hstored, ?_, rfl⟩
        cases hpatch : stored.patched? change.operations with
        | none =>
          simp only [hpatch] at hpatched
          cases hpatched
        | some object =>
          simp only [hpatch] at hpatched
          cases hpatched
          rfl

/-- An accepted removal takes one listing of the finalizer off the object, even if the object is gone then. -/
theorem listings_of_removal (hplain : IsPlainName name)
    (h : answered (.changeFinalizers controller ns name (.detach index finalizer)) s = (.ok (), t)) :
    t.listings ⟨controller.kind, ns, name⟩ finalizer + 1 = s.listings ⟨controller.kind, ns, name⟩ finalizer := by
  obtain ⟨stored, object, hstored, hpatched, rfl⟩ := update_of_changeFinalizers hplain h
  rw [Kube.Store.listings_write, listingsIn_of_detach hpatched, Kube.Store.listings, hstored]
  rfl

/-- A dying ingress with one finalizer is gone once the removal was accepted. -/
example :
    let dying : Json := .object [("apiVersion", .string "networking.k8s.io/v1"), ("kind", .string "Ingress"),
      ("metadata", .object [("deletionTimestamp", .string "2024-05-01T10:00:00Z"),
        ("finalizers", Json.strings [Controller.ingress.finalizer]), ("name", .string "web"),
        ("namespace", .string "shop")])]
    let r := answered (.changeFinalizers .ingress "shop" "web" (.detach 0 Controller.ingress.finalizer))
      ⟨1, [(⟨.ingresses, "shop", "web"⟩, dying)]⟩
    r.1.isOk = true ∧ r.2.objects.isEmpty = true := by
  decide +kernel

end Request

/-! ## The surroundings -/

section Surroundings

open Resource (Meta)

variable {σ : Type} {around : Surroundings σ} {controller : Controller} {m : Meta}

/-- The object of a controller in the store. -/
def targetOf (controller : Controller) (m : Meta) : Target := ⟨controller.kind, m.anyNamespace, m.anyName⟩

/-- Where accepted removals are those of the API server and the object never lists the finalizer twice, it loses the
finalizer by them. -/
theorem losesFinalizer_of_removal (store : σ → Kube.Store) (hplain : IsPlainName m.anyName)
    (hserved : ∀ ns name index s t,
      around.cluster (.changeFinalizers controller ns name (.detach index controller.finalizer)) s = (.ok (), t) →
        answered (.changeFinalizers controller ns name (.detach index controller.finalizer)) (store s) =
          (.ok (), store t))
    (honce : ∀ s, (store s).listings (targetOf controller m) controller.finalizer ≤ 1) :
    LosesFinalizer around controller m
      fun s => (store s).listings (targetOf controller m) controller.finalizer ≠ 0 := by
  intro ns name index s t hns hname hremoval
  have htarget : targetOf controller m = ⟨controller.kind, ns, name⟩ := by
    simp only [targetOf, Meta.anyNamespace, Meta.anyName, hns, hname, Option.getD_some, Option.some_or]
  have hplain' : IsPlainName name := by simpa only [Meta.anyName, hname, Option.some_or, Option.getD_some] using hplain
  have hless := listings_of_removal hplain' (hserved ns name index s t hremoval)
  have hmost := honce s
  rw [htarget] at hmost ⊢
  omega

/-- The API server around a controller, as long as it refuses whatever would have an object list the finalizer of the
controller twice. The backends answer as they like. -/
def onServer (controller : Controller) (m : Meta) (backend : (c : Http.Call) → c.Answer) (now : Instant) :
    Surroundings {s : Kube.Store // s.listings (targetOf controller m) controller.finalizer ≤ 1} where
  cluster := fun c s =>
    if h : (answered c s.1).2.listings (targetOf controller m) controller.finalizer ≤ 1 then
      ((answered c s.1).1, ⟨(answered c s.1).2, h⟩)
    else (.error Kube.Store.conflict, s)
  http := fun c s => (backend c, s)
  now := fun s => (now, s)

/-- An object of the API server has lost the finalizer once its removal was accepted. -/
theorem onServer_loses (hplain : IsPlainName m.anyName) (backend : (c : Http.Call) → c.Answer) (now : Instant) :
    LosesFinalizer (onServer controller m backend now) controller m
      fun s => s.1.listings (targetOf controller m) controller.finalizer ≠ 0 := by
  refine losesFinalizer_of_removal Subtype.val hplain (fun ns name index s t hremoval => ?_) fun s => s.2
  simp only [onServer] at hremoval
  split at hremoval
  · obtain ⟨hanswer, hstate⟩ := Prod.mk.inj hremoval
    exact Prod.ext hanswer (congrArg Subtype.val hstate)
  · cases hremoval

end Surroundings

end GatewayOperator.Reconcile
