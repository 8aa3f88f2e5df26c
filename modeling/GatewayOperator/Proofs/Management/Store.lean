import GatewayOperator.Management.Client

/-!
# What a backend stores

The backend as far as the calls of a session reach it: the payload of the record of each id. A lookup gives
some record with the cross ID if there is one, a creation adds a record under an id that is not taken, an
update replaces the record of an id and is refused if there is none, and a deletion removes it. A call can
also fail, and its caller cannot tell whether it had its effect before it did.
-/

set_option autoImplicit false

namespace GatewayOperator.Management

/-- What a backend stores: the payload of the record of each id. -/
structure Store where
  stored : String → Option Payload

namespace Store

/-- Whether the record of an id exists and carries a cross ID. -/
def Carries (s : Store) (crossId id : String) : Prop :=
  ∃ payload, s.stored id = some payload ∧ payload.crossId = crossId

/-- Whether no record carries a cross ID. -/
def Lacks (s : Store) (crossId : String) : Prop := ∀ id, ¬ s.Carries crossId id

/-- Whether at most one record carries a cross ID. -/
def Single (s : Store) (crossId : String) : Prop :=
  ∀ a b, s.Carries crossId a → s.Carries crossId b → a = b

/-- The store with the record of an id put or removed. -/
def put (s : Store) (id : String) (payload : Option Payload) : Store where
  stored := fun other => if other = id then payload else s.stored other

/-- What a call that is served answers, and what it makes of the store. -/
inductive Serves (s : Store) : (c : Call) → c.Answer → Store → Prop
  | found (crossId : String) (r : Record) (carried : s.Carries crossId r.id) :
      Serves s (.lookup crossId) (.ok (some r)) s
  | missing (crossId : String) (lacking : s.Lacks crossId) : Serves s (.lookup crossId) (.ok none) s
  | created (payload : Payload) (r : Record) (fresh : s.stored r.id = none) :
      Serves s (.create payload) (.ok r) (s.put r.id (some payload))
  | updated (id : String) (payload : Payload) (r : Record) (present : s.stored id ≠ none) :
      Serves s (.update id payload) (.ok r) (s.put id (some payload))
  | refused (id : String) (payload : Payload) (message : String) (absent : s.stored id = none) :
      Serves s (.update id payload) (.error (.status ⟨404, by decide⟩ message)) s
  | deleted (id : String) : Serves s (.delete id) (.ok ()) (s.put id none)

/-- What a call answers, and what it makes of the store. It is served, or it fails with any failure,
without its effect or after it. -/
inductive Responds (s : Store) (c : Call) : c.Answer → Store → Prop
  | served (answer : c.Answer) (t : Store) (serves : Serves s c answer t) : Responds s c answer t
  | failed (failure : Failure) : Responds s c (.error failure) s
  | unconfirmed (failure : Failure) (lost : c.Answer) (t : Store) (serves : Serves s c lost t) :
      Responds s c (.error failure) t

/-- A write changes what is stored under its id and nothing else. -/
theorem stored_put (s : Store) (id other : String) (payload : Option Payload) :
    (s.put id payload).stored other = if other = id then payload else s.stored other := rfl

/-- What was written is stored. -/
@[simp]
theorem stored_put_self (s : Store) (id : String) (payload : Option Payload) :
    (s.put id payload).stored id = payload := by
  simp [stored_put]

/-- What is stored under another id stays. -/
@[simp]
theorem stored_put_of_ne (s : Store) {id other : String} (payload : Option Payload)
    (h : other ≠ id) : (s.put id payload).stored other = s.stored other := by
  simp [stored_put, h]

/-- The last of two writes under one id counts. -/
theorem put_put (s : Store) (id : String) (first last : Option Payload) :
    (s.put id first).put id last = s.put id last := by
  unfold put
  congr 1
  funext other
  by_cases h : other = id
  · simp [h]
  · simp [h]

/-- Where no record carries a cross ID, at most one does. -/
theorem Lacks.single {s : Store} {crossId : String} (h : s.Lacks crossId) : s.Single crossId :=
  fun a _ ha _ => absurd ha (h a)

/-- The record of an id carries one cross ID. -/
theorem Carries.unique {s : Store} {x y id : String} (hx : s.Carries x id) (hy : s.Carries y id) :
    x = y := by
  obtain ⟨p, hp, rfl⟩ := hx
  obtain ⟨q, hq, rfl⟩ := hy
  rw [hp, Option.some.injEq] at hq
  rw [hq]

/-- A change to one record leaves what the others carry. -/
theorem carries_put_of_ne {s : Store} {x id other : String} (payload : Option Payload)
    (h : other ≠ id) : (s.put id payload).Carries x other ↔ s.Carries x other := by
  unfold Carries
  rw [stored_put_of_ne s payload h]

end Store

end GatewayOperator.Management
