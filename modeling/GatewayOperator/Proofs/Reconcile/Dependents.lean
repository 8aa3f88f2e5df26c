import GatewayOperator.Proofs.Program.Visits
import GatewayOperator.Proofs.Reconcile.Retention
import Mathlib.Data.List.Nodup

/-!
# Whom a watch wakes

A definition is resolved forwards: it points at a context, and the context at a secret. A watch goes the other
way, from a context or a secret that changed to the definitions that have to be looked at again. The two are
written apart from each other. Here they are compared over any cluster: what a resolution reads is known
exactly, so the watch on contexts wakes the readers of a context and nobody else, the watch on secrets wakes
every reader of a secret, and whoever it leaves asleep would not have noticed the change.
-/

set_option autoImplicit false

namespace GatewayOperator.Reconcile.Dependents

open GatewayOperator.Resource GatewayOperator.Management
open Program (Exchange)
open Api (context? credentials)

/-- Whether an object is the one of a namespace with a name of its own. -/
def IsAt (key : Key) (m : Meta) : Prop := m.anyNamespace = key.1 ∧ m.name = some key.2

instance (key : Key) (m : Meta) : Decidable (IsAt key m) := inferInstanceAs (Decidable (_ ∧ _))

/-- Namespace and name of an object. To be in no namespace is to be in the empty one. -/
def keyOf (m : Meta) : Key := (m.anyNamespace, m.anyName)

/-- An object is at its own key only. -/
theorem IsAt.eq_keyOf {key : Key} {m : Meta} (h : IsAt key m) : key = keyOf m := by
  obtain ⟨ns, name⟩ := key
  obtain ⟨rfl, hname⟩ := h
  unfold keyOf Meta.anyName
  rw [hname]
  rfl

/-- An object with a name is at its own key. -/
theorem isAt_keyOf {m : Meta} (h : m.name.isSome = true) : IsAt (keyOf m) m := by
  obtain ⟨name, hname⟩ := Option.isSome_iff_exists.mp h
  refine ⟨rfl, ?_⟩
  unfold keyOf Meta.anyName
  rw [hname]
  rfl

/-- A cluster as far as definitions are resolved in it: its contexts, its secrets, and what it answers to
everything else. -/
structure Shelf where
  contexts : List ManagementContext
  named : ∀ context ∈ contexts, context.metadata.name.isSome = true
  distinct : (contexts.map fun context => keyOf context.metadata).Nodup
  secrets : List Secret
  answer : (c : Call) → c.Answer

/-- A pass that starts with a call of the cluster goes on with its answer. -/
theorem conversation_cluster {σ β : Type} {serve : (c : Call) → σ → c.Answer × σ} {c : Cluster.Call}
    {f : c.Result → Pass β} {u v : σ} {found : c.Result}
    (h : serve (.cluster c) u = (.ok found, v)) :
    (cluster c >>= f).run.conversation serve u =
      ⟨.cluster c, .ok found⟩ :: (f found).run.conversation serve v := by
  show ⟨_, (serve (.cluster c) u).1⟩ ::
    (Program.Pass.andThen f ((serve (.cluster c) u).1.mapError .kube)).conversation serve
      (serve (.cluster c) u).2 = _
  rw [h]
  rfl

/-- A definition with its context and credentials looked up. -/
def resolved (api : ApiDefinition) : Pass (Option (ManagementContext × Credentials)) := do
  match ← context? api with
  | none => return none
  | some context => return some (context, ← credentials context)

namespace Shelf

variable (s : Shelf)

/-- The context at a key. -/
def context? (key : Key) : Option ManagementContext := s.contexts.find? fun c => IsAt key c.metadata

/-- The secret at a key. -/
def secret? (key : Key) : Option Secret := s.secrets.find? fun c => IsAt key c.metadata

/-- Contexts and secrets are answered from the shelf. -/
def serve : (c : Call) → Unit → c.Answer × Unit
  | .cluster (.context ns name), _ => (.ok (s.context? (ns, name)), ())
  | .cluster (.secret ns name), _ => (.ok (s.secret? (ns, name)), ())
  | c, _ => (s.answer c, ())

/-- The look-up of a context, with its answer. -/
def contextRead (key : Key) : Exchange Call.Answer :=
  ⟨.cluster (.context key.1 key.2), .ok (s.context? key)⟩

/-- The look-up of a secret, with its answer. -/
def secretRead (key : Key) : Exchange Call.Answer :=
  ⟨.cluster (.secret key.1 key.2), .ok (s.secret? key)⟩

/-- All that a pass asks of the cluster, with the answers. -/
def log {α : Type} (p : Pass α) : List (Exchange Call.Answer) := p.run.conversation s.serve ()

/-- What a definition is resolved to. -/
def resolution (api : ApiDefinition) : Except PassFailure (Option (ManagementContext × Credentials)) :=
  (Program.Pass.perform s.serve (resolved api) ()).1

/-- Whether the look-up of the context of a definition gets this context. -/
def ReadsContext (api : ApiDefinition) (context : ManagementContext) : Prop :=
  ∃ ns name, ⟨.cluster (.context ns name), .ok (some context)⟩ ∈ s.log (Api.context? api)

/-- Whether the resolution of a definition asks for this secret. -/
def ReadsSecret (api : ApiDefinition) (secret : Secret) : Prop :=
  ∃ ns name answer, IsAt (ns, name) secret.metadata ∧
    ⟨.cluster (.secret ns name), answer⟩ ∈ s.log (resolved api)

/-- The cluster with other content in place of a secret, or with none. -/
def replaced (secret : Secret) (content : Option Secret) : Shelf :=
  { s with
    secrets := content.toList ++ s.secrets.filter fun other =>
      keyOf other.metadata ≠ keyOf secret.metadata }

/-! ## What is read -/

variable {s} {api : ApiDefinition} {context : ManagementContext} {key : Key}

/-- A context that is found is one of the cluster, at its own key. -/
theorem isAt_of_context? (h : s.context? key = some context) :
    context ∈ s.contexts ∧ key = keyOf context.metadata := by
  have hfound : s.contexts.find? (fun c => decide (IsAt key c.metadata)) = some context := h
  have hat := List.find?_some hfound
  exact ⟨List.mem_of_find?_eq_some hfound, IsAt.eq_keyOf (of_decide_eq_true hat)⟩

/-- A context of the cluster is found at its own key only. -/
theorem context?_eq_some_iff (h : context ∈ s.contexts) :
    s.context? key = some context ↔ key = keyOf context.metadata := by
  constructor
  · intro hfound
    exact (isAt_of_context? hfound).2
  · rintro rfl
    cases hfound : s.context? (keyOf context.metadata) with
    | none =>
      have hnone := List.find?_eq_none.mp hfound context h
      have hat := isAt_keyOf (s.named context h)
      exact absurd (decide_eq_true hat) hnone
    | some other =>
      -- no two contexts have one key
      obtain ⟨hother, hkeys⟩ := isAt_of_context? hfound
      rw [List.inj_on_of_nodup_map s.distinct hother h hkeys.symm]

/-- A context is looked up among those of the cluster. -/
theorem serve_context (key : Key) :
    s.serve (.cluster (.context key.1 key.2)) () = (.ok (s.context? key), ()) := rfl

/-- A secret is looked up among those of the cluster. -/
theorem serve_secret (key : Key) :
    s.serve (.cluster (.secret key.1 key.2)) () = (.ok (s.secret? key), ()) := rfl

/-- The look-up of a context reads the one that the definition points at. -/
theorem log_context? (hkey : contextKey api = some key) :
    s.log (Api.context? api) = [s.contextRead key] := by
  unfold log Api.context?
  rw [hkey]
  refine (conversation_cluster (serve_context key)).trans ?_
  unfold contextRead
  cases s.context? key <;> rfl

/-- The look-up of credentials reads the secret that the context names, unless it has its own. -/
theorem log_credentials (context : ManagementContext) :
    s.log (credentials context) =
      if (inlineCredentials context).isSome then []
      else ((secretKey context).map s.secretRead).toList := by
  unfold log credentials
  cases inlineCredentials context with
  | some found => rfl
  | none =>
    cases secretKey context with
    | none => rfl
    | some key =>
      refine (conversation_cluster (serve_secret key)).trans ?_
      show _ = [s.secretRead key]
      unfold secretRead
      cases s.secret? key <;> rfl

/-- A look-up of credentials reads no secret that the context does not name. -/
theorem secretKey_of_mem_log {e : Exchange Call.Answer} (h : e ∈ s.log (credentials context)) :
    ∃ key, secretKey context = some key ∧ e = s.secretRead key := by
  rw [log_credentials] at h
  by_cases hinline : (inlineCredentials context).isSome = true
  · rw [if_pos hinline] at h
    cases h
  · rw [if_neg hinline, Option.mem_toList] at h
    obtain ⟨key, hkey, hread⟩ := Option.map_eq_some_iff.mp h
    exact ⟨key, hkey, hread.symm⟩

/-- What is made of a result asks for nothing. -/
theorem log_bind_pure {α β : Type} (p : Pass α) (g : α → β) :
    s.log (p >>= fun a => pure (g a)) = s.log p := by
  unfold log
  rw [Program.Pass.run_bind, Program.conversation_bind]
  cases (p.run.run s.serve ()).1 <;> exact List.append_nil _

/-- A resolution reads the context first, and then what its credentials ask for. -/
theorem log_resolved (hkey : contextKey api = some key) :
    s.log (resolved api) =
      s.contextRead key :: ((s.context? key).map fun context => s.log (credentials context)).getD [] := by
  unfold log resolved Api.context?
  rw [hkey]
  show Program.conversation _ (ExceptT.run ((cluster _ >>= _) >>= _)) _ = _
  rw [bind_assoc]
  refine (conversation_cluster (serve_context key)).trans ?_
  unfold contextRead
  cases s.context? key with
  | none => rfl
  | some context => exact congrArg _ (log_bind_pure (credentials context) fun found => some (context, found))

/-- A definition reads a context if it points at it. -/
theorem readsContext_iff (h : context ∈ s.contexts) :
    s.ReadsContext api context ↔ contextKey api = some (keyOf context.metadata) := by
  unfold ReadsContext
  cases hkey : contextKey api with
  | none =>
    have hlog : s.log (Api.context? api) = [] := by
      unfold log Api.context?
      rw [hkey]
      rfl
    simp [hlog]
  | some key =>
    rw [log_context? hkey, Option.some.injEq, ← context?_eq_some_iff h]
    constructor
    · rintro ⟨ns, name, hmem⟩
      have hread := List.mem_singleton.mp hmem
      unfold contextRead at hread
      generalize s.context? key = found at hread ⊢
      cases hread
      rfl
    · intro hfound
      refine ⟨key.1, key.2, ?_⟩
      rw [← hfound]
      exact List.mem_singleton_self _

/-- A definition that points at no context reads nothing. -/
theorem log_resolved_of_none (hkey : contextKey api = none) : s.log (resolved api) = [] := by
  unfold log resolved Api.context?
  rw [hkey]
  rfl

/-- A resolution asks for a secret only by way of a context that names it. -/
theorem ReadsSecret.exists_context {secret : Secret} (h : s.ReadsSecret api secret) :
    ∃ context ∈ s.contexts, contextKey api = some (keyOf context.metadata) ∧
      secretKey context = some (keyOf secret.metadata) := by
  obtain ⟨ns, name, answer, hsecret, hmem⟩ := h
  cases hkey : contextKey api with
  | none =>
    rw [log_resolved_of_none hkey] at hmem
    cases hmem
  | some key =>
    rw [log_resolved hkey] at hmem
    rcases List.mem_cons.mp hmem with hread | hlater
    · cases congrArg Sigma.fst hread
    cases hfound : s.context? key with
    | none =>
      rw [hfound] at hlater
      cases hlater
    | some context =>
      rw [hfound] at hlater
      obtain ⟨hcontext, rfl⟩ := isAt_of_context? hfound
      obtain ⟨named, hnamed, hread⟩ := secretKey_of_mem_log hlater
      have hcall : (ns, name) = named := by
        cases congrArg Sigma.fst hread
        rfl
      refine ⟨context, hcontext, rfl, ?_⟩
      rw [hnamed, ← hcall, hsecret.eq_keyOf]

/-! ## What is woken -/

variable {apis : List ApiDefinition} {secret : Secret}

/-- The references to the definitions of a context. -/
def wokenBy (apis : List ApiDefinition) (context : ManagementContext) : List Reference :=
  (dependentApis apis context).map fun api => Reference.ofMeta api.metadata

/-- A context wakes the definitions that point at it. -/
theorem dependents_eq (hnamed : ∀ api ∈ apis, api.metadata.name.isSome = true)
    (context : ManagementContext) : dependents apis context = some (wokenBy apis context) := by
  have hmetas : ∀ m ∈ (dependentApis apis context).map ApiDefinition.metadata, m.name.isSome = true := by
    intro m hm
    obtain ⟨api, hapi, rfl⟩ := List.mem_map.mp hm
    exact hnamed api (List.mem_of_mem_filter hapi)
  unfold dependents wokenBy
  rw [Reference.ofMetas?_eq hmetas, List.map_map]
  rfl

/-- A secret wakes the definitions of all contexts that name it. -/
theorem dependentsOfSecret_eq (hnamed : ∀ api ∈ apis, api.metadata.name.isSome = true)
    (contexts : List ManagementContext) (secret : Secret) :
    dependentsOfSecret apis contexts secret =
      some ((dependentContexts contexts secret).flatMap (wokenBy apis)) := by
  have hall : ∀ found : List ManagementContext,
      found.mapM (dependents apis) = some (found.map (wokenBy apis)) := by
    intro found
    induction found with
    | nil => rfl
    | cons context rest ih =>
      rw [List.mapM_cons, dependents_eq hnamed, ih]
      rfl
  unfold dependentsOfSecret
  rw [hall]
  rfl

/-- The contexts of a secret are those that name it. -/
theorem mem_dependentContexts {contexts : List ManagementContext} :
    context ∈ dependentContexts contexts secret ↔
      context ∈ contexts ∧ secretKey context = some (keyOf secret.metadata) := by
  unfold dependentContexts keyOf
  simp

/-- The definitions that a context wakes are those that point at it. -/
theorem mem_wokenBy {r : Reference} :
    r ∈ wokenBy apis context ↔
      ∃ api ∈ apis, contextKey api = some (keyOf context.metadata) ∧ Reference.ofMeta api.metadata = r := by
  unfold wokenBy dependentApis keyOf
  simp [and_assoc]

/-- Two contexts wake different definitions. -/
theorem nodup_woken (h : (apis.map fun api => Reference.ofMeta api.metadata).Nodup) :
    ((dependentContexts s.contexts secret).flatMap (wokenBy apis)).Nodup := by
  have hkeys : ((dependentContexts s.contexts secret).map fun c => keyOf c.metadata).Nodup :=
    s.distinct.sublist (List.filter_sublist.map _)
  rw [List.nodup_flatMap]
  constructor
  · intro context _
    exact h.sublist (List.filter_sublist.map _)
  · refine (List.pairwise_map.mp hkeys).imp ?_
    intro first second hne r hfirst hsecond
    obtain ⟨api, hapi, hkey, rfl⟩ := mem_wokenBy.mp hfirst
    obtain ⟨other, hother, hkey', heq⟩ := mem_wokenBy.mp hsecond
    have hsame : other = api := List.inj_on_of_nodup_map h hother hapi heq
    rw [hsame, hkey] at hkey'
    exact hne (Option.some.inj hkey')

/-! ## A secret with other content -/

section Replaced

variable {content : Option Secret}

/-- A secret at another key is not replaced. -/
theorem secret?_replaced (hnamed : secret.metadata.name.isSome = true)
    (hplace : ∀ other ∈ content, keyOf other.metadata = keyOf secret.metadata)
    (h : ¬ IsAt key secret.metadata) : (s.replaced secret content).secret? key = s.secret? key := by
  have helsewhere : ∀ other : Secret, IsAt key other.metadata →
      keyOf other.metadata ≠ keyOf secret.metadata := by
    intro other hat heq
    have hkey : key = keyOf secret.metadata := hat.eq_keyOf.trans heq
    exact h (hkey ▸ isAt_keyOf hnamed)
  have hcontent : content.toList.find? (fun other => IsAt key other.metadata) = none := by
    rw [List.find?_eq_none]
    intro other hother hat
    exact helsewhere other (of_decide_eq_true hat) (hplace other (Option.mem_toList.mp hother))
  unfold secret? replaced
  rw [List.find?_append, hcontent, Option.none_or, List.find?_filter]
  congr 1
  funext other
  by_cases hat : IsAt key other.metadata
  · simp [hat, helsewhere other hat]
  · simp [hat]

/-- The cluster answers as before if it is not asked for the replaced secret. -/
theorem serve_replaced (hnamed : secret.metadata.name.isSome = true)
    (hplace : ∀ other ∈ content, keyOf other.metadata = keyOf secret.metadata) {c : Call}
    (h : ∀ ns name, c = .cluster (.secret ns name) → ¬ IsAt (ns, name) secret.metadata) :
    (s.replaced secret content).serve c () = s.serve c () := by
  cases c with
  | cluster c =>
    cases c with
    | secret ns name =>
      show (Except.ok ((s.replaced secret content).secret? (ns, name)), ()) = _
      rw [secret?_replaced hnamed hplace (h ns name rfl)]
      rfl
    | _ => rfl
  | _ => rfl

/-- A definition that does not read a secret is resolved alike, whatever becomes of the secret. -/
theorem resolution_replaced (hnamed : secret.metadata.name.isSome = true)
    (hplace : ∀ other ∈ content, keyOf other.metadata = keyOf secret.metadata)
    (h : ¬ s.ReadsSecret api secret) :
    (s.replaced secret content).resolution api = s.resolution api := by
  -- the other cluster gives the same answers to all that is asked, so this is a run against it as well
  have hfollows : Program.Follows (s.replaced secret content).serve () (s.log (resolved api)) () := by
    apply Program.follows_of_forall
    rintro ⟨c, answer⟩ he
    obtain ⟨u, hanswer⟩ := Program.answer_of_mem_conversation he
    rw [serve_replaced hnamed hplace]
    · exact hanswer
    · rintro ns name rfl hat
      exact h ⟨ns, name, answer, hat, he⟩
  exact congrArg Prod.fst (Program.run_of_follows (Program.yields_conversation _ _) hfollows)

end Replaced

/-- The watch on contexts wakes the readers of a context, in their order. The watch on secrets wakes every
reader of a secret, only definitions whose context names it, and none twice. To the others the content of the
secret makes no difference. -/
theorem watches_cover_resolution (s : Shelf) (apis : List ApiDefinition)
    (hnamed : ∀ api ∈ apis, api.metadata.name.isSome = true) :
    (∀ context ∈ s.contexts, ∀ [DecidablePred fun api => s.ReadsContext api context],
      dependents apis context =
        some ((apis.filter fun api => s.ReadsContext api context).map fun api =>
          Reference.ofMeta api.metadata)) ∧
    ∀ secret : Secret, secret.metadata.name.isSome = true →
      ∃ listed, dependentsOfSecret apis s.contexts secret = some listed ∧
        (∀ api ∈ apis, s.ReadsSecret api secret → Reference.ofMeta api.metadata ∈ listed) ∧
        (∀ r ∈ listed, ∃ api ∈ apis, Reference.ofMeta api.metadata = r ∧
          ∃ context ∈ s.contexts, s.ReadsContext api context ∧
            secretKey context = some (keyOf secret.metadata)) ∧
        ((apis.map fun api => Reference.ofMeta api.metadata).Nodup → listed.Nodup) ∧
        ∀ api ∈ apis, Reference.ofMeta api.metadata ∉ listed → ∀ content : Option Secret,
          (∀ other ∈ content, keyOf other.metadata = keyOf secret.metadata) →
            (s.replaced secret content).resolution api = s.resolution api := by
  constructor
  · intro context hcontext _
    rw [dependents_eq hnamed]
    unfold wokenBy dependentApis
    congr 2
    refine List.filter_congr fun api _ => ?_
    rw [beq_eq_decide]
    exact decide_eq_decide.mpr (readsContext_iff hcontext).symm
  · intro secret hsecret
    have hreaders : ∀ api ∈ apis, s.ReadsSecret api secret → Reference.ofMeta api.metadata ∈
        (dependentContexts s.contexts secret).flatMap (wokenBy apis) := by
      intro api hapi hreads
      obtain ⟨context, hcontext, hkey, hnames⟩ := hreads.exists_context
      exact List.mem_flatMap.mpr ⟨context, mem_dependentContexts.mpr ⟨hcontext, hnames⟩,
        mem_wokenBy.mpr ⟨api, hapi, hkey, rfl⟩⟩
    refine ⟨_, dependentsOfSecret_eq hnamed s.contexts secret, hreaders, ?_, nodup_woken, ?_⟩
    · intro r hr
      obtain ⟨context, hdependent, hwoken⟩ := List.mem_flatMap.mp hr
      obtain ⟨hcontext, hnames⟩ := mem_dependentContexts.mp hdependent
      obtain ⟨api, hapi, hkey, rfl⟩ := mem_wokenBy.mp hwoken
      exact ⟨api, hapi, rfl, context, hcontext, (readsContext_iff hcontext).mpr hkey, hnames⟩
    · intro api hapi hunlisted content hplace
      exact resolution_replaced hsecret hplace fun hreads => hunlisted (hreaders api hapi hreads)

end Shelf

/-! ## A secret with a reader -/

section Sample

/-- A context that keeps its token in a secret beside it. -/
def gateway : ManagementContext where
  metadata := { Meta.empty with «namespace» := some "shop", name := some "apim" }
  spec := ⟨"https://apim", "org", "env", ⟨none, none, some ⟨"apim-token", some ""⟩⟩⟩

/-- The secret with the token. -/
def token : Secret where
  metadata := { Meta.empty with «namespace» := some "shop", name := some "apim-token" }
  data := some (Dict.empty.insert bearerTokenKey "t0k3n".toUTF8.toList)
  stringData := none

/-- A definition that points at no context. -/
def drafts : ApiDefinition :=
  { Retention.orders with
    metadata := { Meta.empty with «namespace» := some "shop", name := some "drafts" }
    spec := { Retention.orders.spec with contextRef := none } }

/-- The context and its secret, and nothing else. -/
def shelf : Shelf where
  contexts := [gateway]
  named := by decide
  distinct := by decide
  secrets := [token]
  answer := fun c => (Retention.stalled.serve c (true, Retention.books)).1

/-- The secret wakes the definition that reads it, and the other one is resolved without it. -/
theorem shelf_covered :
    (∀ api ∈ [Retention.orders, drafts], api.metadata.name.isSome = true) ∧
      token.metadata.name.isSome = true ∧ shelf.ReadsSecret Retention.orders token ∧
      dependentsOfSecret [Retention.orders, drafts] shelf.contexts token =
        some [Reference.ofMeta Retention.orders.metadata] ∧
      Reference.ofMeta Retention.orders.metadata ∈ [Reference.ofMeta Retention.orders.metadata] ∧
      (shelf.replaced token none).resolution drafts = shelf.resolution drafts := by
  have hnamed : ∀ api ∈ [Retention.orders, drafts], api.metadata.name.isSome = true := by decide
  have htoken : token.metadata.name.isSome = true := by decide
  have hreads : shelf.ReadsSecret Retention.orders token :=
    ⟨"shop", "apim-token", .ok (some token), by decide, .tail _ (.head _)⟩
  have hlisted : dependentsOfSecret [Retention.orders, drafts] shelf.contexts token =
      some [Reference.ofMeta Retention.orders.metadata] := by decide
  obtain ⟨-, hsecrets⟩ := Shelf.watches_cover_resolution shelf [Retention.orders, drafts] hnamed
  obtain ⟨listed, heq, hreaders, -, -, hothers⟩ := hsecrets token htoken
  obtain rfl := Option.some.inj (heq.symm.trans hlisted)
  refine ⟨hnamed, htoken, hreads, hlisted, hreaders Retention.orders List.mem_cons_self hreads, ?_⟩
  exact hothers drafts (List.mem_cons_of_mem _ (List.mem_singleton_self _)) (by decide) none (by simp)

end Sample

end GatewayOperator.Reconcile.Dependents
