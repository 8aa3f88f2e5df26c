import GatewayOperator.Resource.Meta

/-!
# References to objects

A watch names the objects it wakes by name and namespace. Only an object with a name of its own can be
named so.
-/

set_option autoImplicit false

namespace GatewayOperator.Resource

/-- A name with the namespace it is in, if any. -/
structure Reference where
  «namespace» : Option String
  name : String
  deriving DecidableEq, Repr

/-- The reference to an object, if it has a name. -/
def Reference.ofMeta? (m : Meta) : Option Reference :=
  m.name.map fun name => ⟨m.namespace, name⟩

/-- The references to objects, if each has a name. -/
def Reference.ofMetas? (ms : List Meta) : Option (List Reference) :=
  ms.mapM Reference.ofMeta?

/-- The reference to an object by whatever name it has. -/
def Reference.ofMeta (m : Meta) : Reference := ⟨m.namespace, m.anyName⟩

/-- Where all objects have names, each gives its reference. -/
theorem Reference.ofMetas?_eq {ms : List Meta} (h : ∀ m ∈ ms, m.name.isSome = true) :
    Reference.ofMetas? ms = some (ms.map Reference.ofMeta) := by
  induction ms with
  | nil => rfl
  | cons m rest ih =>
    obtain ⟨hm, hrest⟩ := List.forall_mem_cons.mp h
    obtain ⟨name, hname⟩ := Option.isSome_iff_exists.mp hm
    have hfirst : Reference.ofMeta? m = some (Reference.ofMeta m) := by
      unfold Reference.ofMeta? Reference.ofMeta Meta.anyName
      rw [hname]
      rfl
    have ih := ih hrest
    unfold Reference.ofMetas? at ih ⊢
    rw [List.mapM_cons, hfirst, ih]
    rfl

end GatewayOperator.Resource
