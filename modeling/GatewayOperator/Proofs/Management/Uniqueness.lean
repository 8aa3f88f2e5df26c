import GatewayOperator.Management.Convergence
import GatewayOperator.Proofs.Management.Store
import GatewayOperator.Proofs.Program.Monitor
import Mathlib.Logic.Relation

/-!
# One record for each cross ID

A session looks its cross ID up before it writes, so it knows of which record it is the turn, or that there
is none. It writes at most once, and only what it knows to be its own: it creates a record only if none
carries the cross ID, and it replaces or removes only the record that was found. Nobody else writes records
with that cross ID while the session is at work, so what it knows is still so when it writes. A write whose
answer is lost does no harm, because the next session starts from a lookup again.
-/

set_option autoImplicit false

namespace GatewayOperator.Management

namespace Uniqueness

/-! ## Sessions -/

/-- What a session is to do about a definition: publish its payload, or withdraw it. -/
inductive Task where
  | synchronization (payload : Payload)
  | withdrawal (crossId : String)

/-- What a session did. -/
inductive Outcome where
  | synchronized (outcome : SyncOutcome)
  | withdrawn (outcome : DeleteOutcome)

namespace Task

/-- The cross ID that a session is about. -/
def crossId : Task → String
  | .synchronization payload => payload.crossId
  | .withdrawal crossId => crossId

/-- The session of a task. -/
def session : Task → Session Outcome
  | .synchronization payload => Outcome.synchronized <$> synchronize payload
  | .withdrawal crossId => Outcome.withdrawn <$> withdraw crossId

end Task

/-! ## What a session knows -/

/-- What a session knows of the records with its cross ID: nothing, that there are none, or the id of one. -/
inductive Knowledge where
  | unknown
  | none
  | found (id : String)

namespace Knowledge

/-- What a session knows after a call. A lookup tells, and a write takes what was known. -/
def note : Knowledge → (c : Call) → c.Answer → Knowledge
  | _, .lookup _, .ok .none => .none
  | _, .lookup _, .ok (some r) => .found r.id
  | _, _, _ => .unknown

/-- The calls that a session may make: it creates a record if there are none, and replaces or removes the one
that it has found, all with its cross ID. -/
def Permits (x : String) (m : Knowledge) : Call → Prop
  | .lookup crossId => crossId = x
  | .create payload => payload.crossId = x ∧ m = .none
  | .update id payload => payload.crossId = x ∧ m = .found id
  | .delete id => m = .found id

/-- Whether what a session knows is so. -/
def Holds (s : Store) (x : String) : Knowledge → Prop
  | .unknown => True
  | .none => s.Lacks x
  | .found id => s.Carries x id

end Knowledge

/-- The monitor of the sessions about a cross ID. -/
def discipline (x : String) : Program.Monitor Call.Answer Knowledge where
  permits := Knowledge.Permits x
  fits := fun _ _ => True
  note := Knowledge.note

/-- Whether what is left of a session writes only what it knows to be its own. -/
def Disciplined (x : String) (p : Program Call.Answer (Except Failure Outcome)) (m : Knowledge) : Prop :=
  p.Obeys (discipline x) (fun _ _ => True) m

/-- A synchronization writes only what it knows to be its own. -/
theorem disciplined_synchronization (payload : Payload) :
    Disciplined payload.crossId (Task.synchronization payload).session.run .unknown := by
  refine ⟨rfl, fun answer _ => ?_⟩
  match answer with
  | .error failure => trivial
  | .ok none =>
    refine ⟨⟨rfl, rfl⟩, fun created _ => ?_⟩
    cases created <;> trivial
  | .ok (some r) =>
    refine ⟨⟨rfl, rfl⟩, fun updated _ => ?_⟩
    cases updated <;> trivial

/-- A withdrawal removes only what it knows to be its own. -/
theorem disciplined_withdrawal (x : String) :
    Disciplined x (Task.withdrawal x).session.run .unknown := by
  refine ⟨rfl, fun answer _ => ?_⟩
  match answer with
  | .error failure => trivial
  | .ok none => trivial
  | .ok (some r) =>
    refine ⟨rfl, fun deleted _ => ?_⟩
    cases deleted <;> trivial

/-- Every session writes only what it knows to be its own. -/
theorem disciplined_session (task : Task) :
    Disciplined task.crossId task.session.run .unknown := by
  cases task with
  | synchronization payload => exact disciplined_synchronization payload
  | withdrawal x => exact disciplined_withdrawal x

/-! ## What a call does to the records -/

section Calls

open Store

variable {s t : Store} {x y : String} {m : Knowledge} {c : Call} {answer : c.Answer}

/-- Whether a store differs from another in one record at most, which had the cross ID or was not there
when no record had it, and which has the cross ID if it is there now. -/
def Touches (x : String) (s t : Store) : Prop :=
  t = s ∨ ∃ id payload, t = s.put id payload ∧ (∀ p, payload = some p → p.crossId = x) ∧
    (s.Carries x id ∨ s.stored id = none ∧ s.Lacks x)

/-- A permitted call that is served touches only the record that the session knows of. -/
theorem touches_of_serves (hpermits : m.Permits x c) (hm : m.Holds s x) (h : s.Serves c answer t) :
    Touches x s t := by
  cases h with
  | found crossId r carried => exact .inl rfl
  | missing crossId lacking => exact .inl rfl
  | created payload r fresh =>
    obtain ⟨hx, rfl⟩ := hpermits
    refine .inr ⟨r.id, some payload, rfl, ?_, .inr ⟨fresh, hm⟩⟩
    intro p hp
    rwa [← Option.some.inj hp]
  | updated id payload r present =>
    obtain ⟨hx, rfl⟩ := hpermits
    refine .inr ⟨id, some payload, rfl, ?_, .inl hm⟩
    intro p hp
    rwa [← Option.some.inj hp]
  | refused id payload message absent => exact .inl rfl
  | deleted id =>
    obtain rfl := hpermits
    refine .inr ⟨id, none, rfl, ?_, .inl hm⟩
    intro p hp
    cases hp

/-- A permitted call changes only what belongs to its cross ID. -/
theorem touches_of_responds (hpermits : m.Permits x c) (hm : m.Holds s x)
    (h : s.Responds c answer t) : Touches x s t := by
  cases h with
  | served answer t serves => exact touches_of_serves hpermits hm serves
  | failed failure => exact .inl rfl
  | unconfirmed failure lost t serves => exact touches_of_serves hpermits hm serves

/-- What is touched for a cross ID is not a record with another one. -/
theorem Touches.carries_iff (h : Touches x s t) (hne : y ≠ x) (id : String) :
    t.Carries y id ↔ s.Carries y id := by
  rcases h with rfl | ⟨touched, payload, rfl, hpayload, hbefore⟩
  · rfl
  · by_cases hid : id = touched
    · -- neither before nor after is it a record with the other cross ID
      subst hid
      constructor
      · rintro ⟨p, hp, hy⟩
        rw [stored_put_self] at hp
        exact absurd (hy.symm.trans (hpayload p hp)) hne
      · intro hy
        rcases hbefore with hx | ⟨hnone, -⟩
        · exact absurd (hy.unique hx) hne
        · obtain ⟨p, hp, -⟩ := hy
          rw [hnone] at hp
          cases hp
    · exact carries_put_of_ne payload hid

/-- What is touched for a cross ID leaves at most one record with it. -/
theorem Touches.single (h : Touches x s t) (hs : s.Single x) : t.Single x := by
  rcases h with rfl | ⟨touched, payload, rfl, -, hbefore⟩
  · exact hs
  · -- all other records with the cross ID were there before, and then the touched one was too
    have hother : ∀ id, (s.put touched payload).Carries x id → id = touched := by
      intro id hid
      by_cases hid' : id = touched
      · exact hid'
      · rw [carries_put_of_ne payload hid'] at hid
        rcases hbefore with hx | ⟨-, hlacks⟩
        · exact hs id touched hid hx
        · exact absurd hid (hlacks id)
    intro a b ha hb
    rw [hother a ha, hother b hb]

/-- What a session knows stays so while others write under another cross ID. -/
theorem Touches.holds (h : Touches x s t) (hne : y ≠ x) (hm : m.Holds s y) : m.Holds t y := by
  cases m with
  | unknown => trivial
  | none =>
    intro id hid
    rw [h.carries_iff hne] at hid
    exact hm id hid
  | found id => exact (h.carries_iff hne id).mpr hm

/-- What a session notes after its call is so. -/
theorem holds_note (hpermits : m.Permits x c) (h : s.Responds c answer t) :
    (m.note c answer).Holds t x := by
  cases h with
  -- after a failure nothing is known
  | failed failure => cases c <;> trivial
  | unconfirmed failure lost t serves => cases c <;> trivial
  | served answer t serves =>
    cases serves with
    | found crossId r carried =>
      obtain rfl := hpermits
      exact carried
    | missing crossId lacking =>
      obtain rfl := hpermits
      exact lacking
    | created payload r fresh => trivial
    | updated id payload r present => trivial
    | refused id payload message absent => trivial
    | deleted id => trivial

end Calls

/-! ## Runs -/

/-- A store, and for each definition what is left of the session that is at work on it. -/
structure World (ι : Type) where
  store : Store
  atWork : ι → Option (Program Call.Answer (Except Failure Outcome))

section Runs

variable {ι : Type} {crossId : ι → String} {w w' : World ι} {x : String}

/-- Every session at work writes only what it knows to be its own, and what it knows is so. -/
def Sound (crossId : ι → String) (w : World ι) : Prop :=
  ∀ i p, w.atWork i = some p →
    ∃ m : Knowledge, Disciplined (crossId i) p m ∧ m.Holds w.store (crossId i)

/-- Nothing is known where nobody is at work. -/
theorem sound_of_idle (h : ∀ i, w.atWork i = none) : Sound crossId w := by
  intro i p hp
  rw [h i] at hp
  cases hp

/-- The call of a session that is sound touches nothing but the record that it knows of. -/
theorem Sound.touches {i : ι} {c : Call} {next : c.Answer → Program Call.Answer (Except Failure Outcome)}
    {answer : c.Answer} {t : Store} (h : Sound crossId w) (hwork : w.atWork i = some (.ask c next))
    (hresponds : w.store.Responds c answer t) : Touches (crossId i) w.store t := by
  obtain ⟨m, hdisciplined, hm⟩ := h i _ hwork
  exact touches_of_responds hdisciplined.1 hm hresponds

variable [DecidableEq ι]

/-- The world with the session of a definition replaced. -/
def World.setSession (w : World ι) (i : ι) (p : Option (Program Call.Answer (Except Failure Outcome))) :
    World ι :=
  { w with atWork := fun j => if j = i then p else w.atWork j }

/-- The next thing that happens: a session is started for a definition that has none, a session makes its
next call, or a session ends, be it that it is done or that it is given up. -/
inductive Step (crossId : ι → String) (w : World ι) : World ι → Prop
  | start (i : ι) (task : Task) (idle : w.atWork i = none) (own : task.crossId = crossId i) :
      Step crossId w (w.setSession i (some task.session.run))
  | call (i : ι) (c : Call) (next : c.Answer → Program Call.Answer (Except Failure Outcome))
      (answer : c.Answer) (t : Store) (atWork : w.atWork i = some (.ask c next))
      (responds : w.store.Responds c answer t) :
      Step crossId w ({ w with store := t }.setSession i (some (next answer)))
  | leave (i : ι) : Step crossId w (w.setSession i none)

/-- Any number of steps. -/
abbrev Run (crossId : ι → String) : World ι → World ι → Prop := Relation.ReflTransGen (Step crossId)

/-- A session may be replaced by one that knows what is so. -/
theorem Sound.setSession (h : Sound crossId w) (i : ι)
    {p : Option (Program Call.Answer (Except Failure Outcome))}
    (hp : ∀ q, p = some q →
      ∃ m : Knowledge, Disciplined (crossId i) q m ∧ m.Holds w.store (crossId i)) :
    Sound crossId (w.setSession i p) := by
  intro j q hq
  by_cases hj : j = i
  · subst hj
    simp only [World.setSession, if_true] at hq
    exact hp q hq
  · simp only [World.setSession, hj, if_false] at hq
    exact h j q hq

/-- Every step of any session keeps all sessions sound. -/
theorem Sound.step (hinj : Function.Injective crossId) (h : Sound crossId w)
    (hstep : Step crossId w w') : Sound crossId w' := by
  cases hstep with
  | start i task idle own =>
    refine h.setSession i fun q hq => ⟨.unknown, ?_, trivial⟩
    rw [← Option.some.inj hq, ← own]
    exact disciplined_session task
  | leave i =>
    refine h.setSession i fun q hq => ?_
    cases hq
  | call i c next answer t atWork responds =>
    obtain ⟨m, hdisciplined, hm⟩ := h i _ atWork
    intro j q hq
    by_cases hj : j = i
    · -- the session that made the call has been told something new
      subst hj
      simp only [World.setSession, if_true, Option.some.injEq] at hq
      subst hq
      exact ⟨m.note c answer, hdisciplined.2 answer trivial, holds_note hdisciplined.1 responds⟩
    · -- the others have other cross IDs
      simp only [World.setSession, hj, if_false] at hq
      obtain ⟨m', hdisciplined', hm'⟩ := h j q hq
      have hne : crossId j ≠ crossId i := fun heq => hj (hinj heq)
      exact ⟨m', hdisciplined', (h.touches atWork responds).holds hne hm'⟩

/-- A step leaves at most one record with a cross ID, if there was at most one. -/
theorem single_step (h : Sound crossId w) (hstep : Step crossId w w') (hs : w.store.Single x) :
    w'.store.Single x := by
  cases hstep with
  | start i task idle own => exact hs
  | leave i => exact hs
  | call i c next answer t atWork responds =>
    have htouches := h.touches atWork responds
    by_cases hx : x = crossId i
    · subst hx
      exact htouches.single hs
    · intro a b ha hb
      have ha' : w.store.Carries x a := (htouches.carries_iff hx a).mp ha
      have hb' : w.store.Carries x b := (htouches.carries_iff hx b).mp hb
      exact hs a b ha' hb'

/-- However sessions are interleaved and whatever becomes of their calls, a cross ID that had at most one
record when none of them was at work has at most one at every later time. -/
theorem single_throughout (hinj : Function.Injective crossId) (hidle : ∀ i, w.atWork i = none)
    (hs : w.store.Single x) (hrun : Run crossId w w') : w'.store.Single x := by
  have hboth : Sound crossId w' ∧ w'.store.Single x := by
    induction hrun with
    | refl => exact ⟨sound_of_idle hidle, hs⟩
    | tail _ hstep ih => exact ⟨ih.1.step hinj hstep, single_step ih.1 hstep ih.2⟩
  exact hboth.2

end Runs

/-! ## A creation whose answer is lost -/

section Lost

/-- The cross IDs of two definitions. -/
def crossIds : Bool → String
  | true => "orders"
  | false => "invoices"

/-- A payload with a cross ID. -/
def payload (crossId : String) : Payload where
  id := none
  crossId := crossId
  name := "shop"
  version := "1"
  description := none
  state := .started
  lifecycleState := .created
  visibility := .private
  tags := []
  labels := []
  proxy := none
  plans := none
  flows := none
  resources := none
  properties := none
  primaryOwner := none
  metadata := none
  responseTemplates := none

/-- Nothing is stored, and no session is at work. -/
def vacant : World Bool := ⟨⟨fun _ => none⟩, fun _ => none⟩

/-- Where nothing is stored no record has the cross ID. -/
theorem vacant_lacks (x : String) : vacant.store.Lacks x := by
  rintro id ⟨p, hp, -⟩
  cases hp

/-- A creation takes effect but its caller is told that no answer came in time. The next session finds the
record and replaces it, so there is one still. Meanwhile another definition got a record of its own. -/
theorem single_after_lost_creation :
    Function.Injective crossIds ∧ (∀ i, vacant.atWork i = none) ∧ vacant.store.Single "orders" ∧
      ∃ w, Run crossIds vacant w ∧ w.store.Carries "orders" "api-1" ∧
        w.store.Carries "invoices" "api-2" ∧ w.store.Single "orders" := by
  have hinj : Function.Injective crossIds := by
    rintro (_ | _) (_ | _) h
    · rfl
    · exact absurd h (by decide)
    · exact absurd h (by decide)
    · rfl
  have hidle : ∀ i, vacant.atWork i = none := fun _ => rfl
  have hsingle : vacant.store.Single "orders" := (vacant_lacks "orders").single
  have hrun : ∃ w, Run crossIds vacant w ∧ w.store.Carries "orders" "api-1" ∧
      w.store.Carries "invoices" "api-2" := by
    have hnone (x : String) : vacant.store.Serves (.lookup x) (.ok none) vacant.store :=
      .missing x (vacant_lacks x)
    have start : Run crossIds vacant vacant := .refl
    -- both sessions look for their record before either creates it
    have looked := (((start.tail (.start true (.synchronization (payload "orders")) rfl rfl)).tail
      (.start false (.synchronization (payload "invoices")) rfl rfl)).tail
      (.call true (.lookup "orders") _ (.ok none) _ rfl (.served _ _ (hnone "orders")))).tail
      (.call false (.lookup "invoices") _ (.ok none) _ rfl (.served _ _ (hnone "invoices")))
    have created := ((looked.tail
      (.call true (.create (payload "orders")) _ (.error .timeout) _ rfl
        (.unconfirmed .timeout _ _ (.created _ ⟨"api-1", none, none⟩ rfl)))).tail
      (.call false (.create (payload "invoices")) _ (.ok ⟨"api-2", none, none⟩) _ rfl
        (.served _ _ (.created _ ⟨"api-2", none, none⟩ rfl)))).tail (.leave true)
    have again := ((created.tail (.start true (.synchronization (payload "orders")) rfl rfl)).tail
      (.call true (.lookup "orders") _ (.ok (some ⟨"api-1", none, none⟩)) _ rfl
        (.served _ _ (.found _ _ ⟨payload "orders", rfl, rfl⟩)))).tail
      (.call true (.update "api-1" ((payload "orders").withId "api-1")) _
        (.ok ⟨"api-1", none, none⟩) _ rfl
        (.served _ _ (.updated _ _ ⟨"api-1", none, none⟩ (fun h => by cases h))))
    exact ⟨_, again, ⟨_, rfl, rfl⟩, ⟨_, rfl, rfl⟩⟩
  obtain ⟨w, hrun, horders, hinvoices⟩ := hrun
  exact ⟨hinj, hidle, hsingle, w, hrun, horders, hinvoices,
    single_throughout hinj hidle hsingle hrun⟩

end Lost

end Uniqueness

end GatewayOperator.Management
