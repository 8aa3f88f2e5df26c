import GatewayOperator.Management.Convergence
import GatewayOperator.Proofs.Management.Store
import GatewayOperator.Proofs.Program.Conversation

/-!
# Sessions with a lawful backend

A lawful backend serves every call. If there can be faults then it may fail one as well, and a call that fails has
no effect. It promises nothing about a replacement or a deletion of a record that does not exist, or about a
creation where a record carries the cross ID. A session never asks for one of these, because it looks first. So
what a session makes of the records is known. A synchronization leaves one more record with the cross ID, or
replaces the one that is there, and a withdrawal removes the one that is there.
-/

set_option autoImplicit false

namespace GatewayOperator.Management

open Program (Exchange)

namespace Store

/-- Whether a backend promises anything about a call: it is about a record that exists, or about one to create
where none carries the cross ID. -/
def Admits (s : Store) : Call → Prop
  | .lookup _ => True
  | .create p => s.Lacks p.crossId
  | .update id _ => s.stored id ≠ none
  | .delete id => s.stored id ≠ none

/-- Whether an answer gives the record that was replaced, if one was. -/
def Returns : (c : Call) → c.Answer → Prop
  | .update id _, .ok r => r.id = id
  | _, _ => True

/-- What a lawful backend answers, and what it makes of the store: the call is served, or it fails without an
effect, if there can be faults. -/
inductive Obliges (faults : Prop) (s : Store) (c : Call) : c.Answer → Store → Prop
  | served (answer : c.Answer) (t : Store) (serves : s.Serves c answer t) (returns : Returns c answer) :
      Obliges faults s c answer t
  | failed (fault : faults) (failure : Failure) : Obliges faults s c (.error failure) s

/-- Whether a lawful backend can have a conversation, from one store to another. -/
def Along (faults : Prop) : Store → List (Exchange Call.Answer) → Store → Prop
  | s, [], t => t = s
  | s, e :: rest, t => ∃ u, (s.Admits e.1 → s.Obliges faults e.1 e.2 u) ∧ Along faults u rest t

section Calls

variable {faults : Prop} {s t : Store} {x id : String} {p : Payload}

/-- What a lawful backend may answer to a lookup: it fails, finds none where there is none, or finds one that is
there. -/
theorem obliges_lookup {answer : (Call.lookup x).Answer} (h : s.Obliges faults (.lookup x) answer t) :
    t = s ∧ ((faults ∧ ∃ failure, answer = .error failure) ∨ (answer = .ok none ∧ s.Lacks x) ∨
      ∃ r : Record, answer = .ok (some r) ∧ s.Carries x r.id) := by
  cases h with
  | failed fault failure => exact ⟨rfl, .inl ⟨fault, failure, rfl⟩⟩
  | served answer t serves returns =>
    cases serves with
    | found crossId r carried => exact ⟨rfl, .inr (.inr ⟨r, rfl, carried⟩)⟩
    | missing crossId lacking => exact ⟨rfl, .inr (.inl ⟨rfl, lacking⟩)⟩

/-- What a lawful backend may answer to a creation: it fails, or there is a new record with the payload. -/
theorem obliges_create {answer : (Call.create p).Answer} (h : s.Obliges faults (.create p) answer t) :
    (t = s ∧ faults ∧ ∃ failure, answer = .error failure) ∨
      ∃ r : Record, answer = .ok r ∧ s.stored r.id = none ∧ t = s.put r.id (some p) := by
  cases h with
  | failed fault failure => exact .inl ⟨rfl, fault, failure, rfl⟩
  | served answer t serves returns =>
    cases serves with
    | created payload r fresh => exact .inr ⟨r, rfl, fresh, rfl⟩

/-- What a lawful backend may answer to a replacement: it fails, or the record has the payload. -/
theorem obliges_update {answer : (Call.update id p).Answer}
    (h : s.Admits (.update id p) → s.Obliges faults (.update id p) answer t) (hstored : s.stored id ≠ none) :
    (t = s ∧ faults ∧ ∃ failure, answer = .error failure) ∨
      ∃ r : Record, answer = .ok r ∧ r.id = id ∧ t = s.put id (some p) := by
  cases h hstored with
  | failed fault failure => exact .inl ⟨rfl, fault, failure, rfl⟩
  | served answer t serves returns =>
    cases serves with
    | updated _ payload r present => exact .inr ⟨r, rfl, returns, rfl⟩
    | refused _ payload message absent => exact absurd absent hstored

/-- What a lawful backend may answer to a deletion: it fails, or the record is gone. -/
theorem obliges_delete {answer : (Call.delete id).Answer} (h : s.Obliges faults (.delete id) answer t) :
    (t = s ∧ faults ∧ ∃ failure, answer = .error failure) ∨ (answer = .ok () ∧ t = s.put id none) := by
  cases h with
  | failed fault failure => exact .inl ⟨rfl, fault, failure, rfl⟩
  | served answer t serves returns =>
    cases serves with
    | deleted _ => exact .inr ⟨rfl, rfl⟩

/-- A record that carries a cross ID is stored. -/
theorem Carries.stored_ne_none (h : s.Carries x id) : s.stored id ≠ none := by
  obtain ⟨p, hp, -⟩ := h
  rw [hp]
  simp

end Calls

end Store

section Sessions

open Store

variable {faults : Prop} {s t : Store} {log : List (Exchange Call.Answer)}

/-- A synchronization is a lookup and, if that does not fail, one write. -/
theorem synchronize_cases {p : Payload} {r : Except Failure SyncOutcome}
    (h : (synchronize p).run.Yields log r) :
    (∃ failure, log = [⟨.lookup p.crossId, .error failure⟩] ∧ r = .error failure) ∨
      (∃ created, log = [⟨.lookup p.crossId, .ok none⟩, ⟨.create p, created⟩] ∧
        r = created.map .created) ∨
      ∃ (found : Record) (updated : Except Failure Record),
        log = [⟨.lookup p.crossId, .ok (some found)⟩, ⟨.update found.id (p.withId found.id), updated⟩] ∧
          r = updated.map .updated := by
  obtain ⟨looked, rest, rfl, h⟩ := h
  match looked with
  | .error failure =>
    obtain ⟨rfl, rfl⟩ := h
    exact .inl ⟨failure, rfl, rfl⟩
  | .ok none =>
    obtain ⟨created, _, rfl, h⟩ := h
    refine .inr (.inl ⟨created, ?_⟩)
    cases created with
    | error failure =>
      obtain ⟨rfl, rfl⟩ := h
      exact ⟨rfl, rfl⟩
    | ok record =>
      obtain ⟨rfl, rfl⟩ := h
      exact ⟨rfl, rfl⟩
  | .ok (some found) =>
    obtain ⟨updated, _, rfl, h⟩ := h
    refine .inr (.inr ⟨found, updated, ?_⟩)
    cases updated with
    | error failure =>
      obtain ⟨rfl, rfl⟩ := h
      exact ⟨rfl, rfl⟩
    | ok record =>
      obtain ⟨rfl, rfl⟩ := h
      exact ⟨rfl, rfl⟩

/-- A withdrawal is a lookup and, if that finds a record, its deletion. -/
theorem withdraw_cases {x : String} {r : Except Failure DeleteOutcome}
    (h : (withdraw x).run.Yields log r) :
    (∃ failure, log = [⟨.lookup x, .error failure⟩] ∧ r = .error failure) ∨
      (log = [⟨.lookup x, .ok none⟩] ∧ r = .ok .alreadyGone) ∨
      ∃ (found : Record) (deleted : Except Failure Unit),
        log = [⟨.lookup x, .ok (some found)⟩, ⟨.delete found.id, deleted⟩] ∧
          r = deleted.map fun _ => .deleted found.id := by
  obtain ⟨looked, rest, rfl, h⟩ := h
  match looked with
  | .error failure =>
    obtain ⟨rfl, rfl⟩ := h
    exact .inl ⟨failure, rfl, rfl⟩
  | .ok none =>
    obtain ⟨rfl, rfl⟩ := h
    exact .inr (.inl ⟨rfl, rfl⟩)
  | .ok (some found) =>
    obtain ⟨deleted, _, rfl, h⟩ := h
    refine .inr (.inr ⟨found, deleted, ?_⟩)
    cases deleted with
    | error failure =>
      obtain ⟨rfl, rfl⟩ := h
      exact ⟨rfl, rfl⟩
    | ok _ =>
      obtain ⟨rfl, rfl⟩ := h
      exact ⟨rfl, rfl⟩

/-- What a synchronization makes of the records: it fails without an effect, or it creates a record because there
is none with the cross ID, or it replaces one. -/
theorem synchronize_along {p : Payload} {r : Except Failure SyncOutcome}
    (h : (synchronize p).run.Yields log r) (ha : s.Along faults log t) :
    (t = s ∧ faults ∧ ∃ failure, r = .error failure) ∨
      (∃ record : Record, r = .ok (.created record) ∧ s.Lacks p.crossId ∧ s.stored record.id = none ∧
        t = s.put record.id (some p)) ∨
      ∃ record : Record, r = .ok (.updated record) ∧ s.Carries p.crossId record.id ∧
        t = s.put record.id (some (p.withId record.id)) ∧
        ⟨.update record.id (p.withId record.id), .ok record⟩ ∈ log := by
  rcases synchronize_cases h with
    ⟨failure, rfl, rfl⟩ | ⟨created, rfl, rfl⟩ | ⟨found, updated, rfl, rfl⟩
  · obtain ⟨_, hlookup, rfl⟩ := ha
    obtain ⟨rfl, ⟨fault, -⟩ | ⟨heq, -⟩ | ⟨_, heq, -⟩⟩ := obliges_lookup (hlookup trivial)
    · exact .inl ⟨rfl, fault, failure, rfl⟩
    · cases heq
    · cases heq
  · obtain ⟨_, hlookup, _, hcreate, rfl⟩ := ha
    obtain ⟨rfl, ⟨-, _, heq⟩ | ⟨-, hlacks⟩ | ⟨_, heq, -⟩⟩ := obliges_lookup (hlookup trivial)
    · cases heq
    · rcases obliges_create (hcreate hlacks) with ⟨hsame, fault, failure, rfl⟩ | ⟨record, rfl, hfresh, hput⟩
      · exact .inl ⟨hsame, fault, failure, rfl⟩
      · exact .inr (.inl ⟨record, rfl, hlacks, hfresh, hput⟩)
    · cases heq
  · obtain ⟨_, hlookup, _, hupdate, rfl⟩ := ha
    obtain ⟨rfl, ⟨-, _, heq⟩ | ⟨heq, -⟩ | ⟨_, heq, hcarries⟩⟩ := obliges_lookup (hlookup trivial)
    · cases heq
    · cases heq
    · cases heq
      rcases obliges_update hupdate hcarries.stored_ne_none with
        ⟨hsame, fault, failure, rfl⟩ | ⟨record, rfl, hid, hput⟩
      · exact .inl ⟨hsame, fault, failure, rfl⟩
      · rw [← hid] at hcarries hput
        exact .inr (.inr ⟨record, rfl, hcarries, hput, by simp [hid]⟩)

/-- Where a record carries the cross ID, a synchronization creates none. -/
theorem not_create_of_carries {p : Payload} {r : Except Failure SyncOutcome} {id : String}
    (h : (synchronize p).run.Yields log r) (ha : s.Along faults log t) (hs : s.Carries p.crossId id) :
    ∀ e ∈ log, ∀ q, e.1 ≠ .create q := by
  rcases synchronize_cases h with
    ⟨failure, rfl, -⟩ | ⟨created, rfl, -⟩ | ⟨found, updated, rfl, -⟩
  · simp
  · obtain ⟨_, hlookup, -⟩ := ha
    obtain ⟨-, ⟨-, _, heq⟩ | ⟨-, hlacks⟩ | ⟨_, heq, -⟩⟩ := obliges_lookup (hlookup trivial)
    · cases heq
    · exact absurd hs (hlacks id)
    · cases heq
  · simp

/-- What a withdrawal makes of the records: it fails without an effect, or there is none with the cross ID, or it
deletes one. -/
theorem withdraw_along {x : String} {r : Except Failure DeleteOutcome}
    (h : (withdraw x).run.Yields log r) (ha : s.Along faults log t) :
    (t = s ∧ faults ∧ ∃ failure, r = .error failure) ∨ (t = s ∧ r = .ok .alreadyGone ∧ s.Lacks x) ∨
      ∃ id, r = .ok (.deleted id) ∧ s.Carries x id ∧ t = s.put id none := by
  rcases withdraw_cases h with ⟨failure, rfl, rfl⟩ | ⟨rfl, rfl⟩ | ⟨found, deleted, rfl, rfl⟩
  · obtain ⟨_, hlookup, rfl⟩ := ha
    obtain ⟨rfl, ⟨fault, -⟩ | ⟨heq, -⟩ | ⟨_, heq, -⟩⟩ := obliges_lookup (hlookup trivial)
    · exact .inl ⟨rfl, fault, failure, rfl⟩
    · cases heq
    · cases heq
  · obtain ⟨_, hlookup, rfl⟩ := ha
    obtain ⟨rfl, ⟨-, _, heq⟩ | ⟨-, hlacks⟩ | ⟨_, heq, -⟩⟩ := obliges_lookup (hlookup trivial)
    · cases heq
    · exact .inr (.inl ⟨rfl, rfl, hlacks⟩)
    · cases heq
  · obtain ⟨_, hlookup, _, hdelete, rfl⟩ := ha
    obtain ⟨rfl, ⟨-, _, heq⟩ | ⟨heq, -⟩ | ⟨_, heq, hcarries⟩⟩ := obliges_lookup (hlookup trivial)
    · cases heq
    · cases heq
    · cases heq
      rcases obliges_delete (hdelete hcarries.stored_ne_none) with ⟨hsame, fault, failure, rfl⟩ | ⟨rfl, hput⟩
      · exact .inl ⟨hsame, fault, failure, rfl⟩
      · exact .inr (.inr ⟨found.id, rfl, hcarries, hput⟩)

end Sessions

end GatewayOperator.Management
