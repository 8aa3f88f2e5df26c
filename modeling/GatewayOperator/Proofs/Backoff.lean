import GatewayOperator.Backoff
import Mathlib.Data.List.DropRight

/-!
# Delays over a history

The books of a controller are kept by three calls, and what they hold for a key is a function of the calls
on that key alone: the failures since the last call that ended a row. So the delay after any history is known
in closed form. The one induction is over the history, the latest call last.
-/

set_option autoImplicit false

namespace GatewayOperator.Backoff

/-- A call on the books of a controller. -/
inductive Use where
  | next (key : String)
  | reset (key : String)
  | follow (key : String) (failure : PassFailure)

namespace Use

/-- The books after a call. -/
def apply (b : Backoff) : Use → Backoff
  | .next key => (b.next key).2
  | .reset key => b.reset key
  | .follow key failure => (b.actionFor key failure).2

/-- Whether a call adds a failure to the row of a key. -/
def Counts (key : String) : Use → Prop
  | .next k => k = key
  | .reset _ => False
  | .follow k failure => k = key ∧ failure.requeue = .withBackoff

/-- Whether a call ends the row of a key. -/
def Ends (key : String) : Use → Prop
  | .next _ => False
  | .reset k => k = key
  | .follow k failure => k = key ∧ failure.requeue = .awaitChange

/-- Whether a call is on a key, and not about a failure that is tried again at once. -/
def Concerns (key : String) : Use → Prop
  | .next k => k = key
  | .reset k => k = key
  | .follow k failure => k = key ∧ failure.requeue ≠ .immediately

instance (key : String) : DecidablePred (Counts key) := fun u => by
  cases u <;> unfold Counts <;> infer_instance

instance (key : String) : DecidablePred (Ends key) := fun u => by
  cases u <;> unfold Ends <;> infer_instance

instance (key : String) : DecidablePred (Concerns key) := fun u => by
  cases u <;> unfold Concerns <;> infer_instance

variable {key : String} {u : Use}

/-- What concerns a key counts for it or ends its row. -/
theorem concerns_iff : u.Concerns key ↔ u.Counts key ∨ u.Ends key := by
  cases u with
  | next k => simp [Concerns, Counts, Ends]
  | reset k => simp [Concerns, Counts, Ends]
  | follow k failure =>
    cases h : failure.requeue <;> simp [Concerns, Counts, Ends, h]

/-- No call both ends a row and counts for it. -/
theorem Ends.not_counts (h : u.Ends key) : ¬ u.Counts key := by
  cases u with
  | next k => exact fun _ => h
  | reset k => exact id
  | follow k failure =>
    rintro ⟨-, hcounts⟩
    rw [h.2] at hcounts
    cases hcounts

end Use

/-- The books after a history. -/
def after (b : Backoff) (history : List Use) : Backoff := history.foldl Use.apply b

/-- The failures of a key in a row: those since the last call that ended its row, or since the start. -/
def streak (key : String) (history : List Use) : Nat :=
  (history.rtakeWhile fun u => ¬ u.Ends key).countP fun u => u.Counts key

section Streak

variable {key : String} {history : List Use} {u : Use}

/-- A call that ends the row of a key leaves none. -/
theorem streak_snoc_of_ends (h : u.Ends key) : streak key (history ++ [u]) = 0 := by
  unfold streak
  rw [List.rtakeWhile_concat_neg _ _ _ (by simpa using h), List.countP_nil]

/-- A call that does not end a row makes it longer if it counts. -/
theorem streak_snoc_of_not_ends (h : ¬ u.Ends key) :
    streak key (history ++ [u]) = streak key history + if u.Counts key then 1 else 0 := by
  unfold streak
  rw [List.rtakeWhile_concat_pos _ _ _ (by simpa using h), List.countP_append]
  congr 1
  by_cases hcounts : u.Counts key <;> simp [hcounts]

/-- A call that counts makes the row longer by one. -/
theorem streak_snoc_of_counts (h : u.Counts key) :
    streak key (history ++ [u]) = streak key history + 1 := by
  rw [streak_snoc_of_not_ends fun hends => hends.not_counts h, if_pos h]

/-- A call that concerns another key leaves the row as it is. -/
theorem streak_snoc_of_not_concerns (h : ¬ u.Concerns key) :
    streak key (history ++ [u]) = streak key history := by
  have hneither := mt Use.concerns_iff.mpr h
  rw [not_or] at hneither
  rw [streak_snoc_of_not_ends hneither.2, if_neg hneither.1, Nat.add_zero]

/-- A row is made of the calls that concern its key. -/
theorem streak_filter (key : String) (history : List Use) :
    streak key (history.filter fun u => u.Concerns key) = streak key history := by
  induction history using List.reverseRecOn with
  | nil => rfl
  | append_singleton history u ih =>
    rw [List.filter_append]
    by_cases hconcerns : u.Concerns key
    · have hkept : [u].filter (fun u => u.Concerns key) = [u] := by simp [hconcerns]
      rw [hkept]
      by_cases hends : u.Ends key
      · rw [streak_snoc_of_ends hends, streak_snoc_of_ends hends]
      · rw [streak_snoc_of_not_ends hends, streak_snoc_of_not_ends hends, ih]
    · have hdropped : [u].filter (fun u => u.Concerns key) = [] := by simp [hconcerns]
      rw [hdropped, List.append_nil, ih, streak_snoc_of_not_concerns hconcerns]

end Streak

/-! ## What the books hold -/

section Books

variable (b : Backoff) (key : String)

/-- What one call makes of the count of a key. -/
theorem find?_apply (u : Use) :
    (u.apply b).failures.find? key =
      if u.Counts key then some (min ((b.failures.find? key).getD 0 + 1) countLimit)
      else if u.Ends key then none
      else b.failures.find? key := by
  have hnext (k : String) : (b.next k).2.failures.find? key =
      if k = key then some (min ((b.failures.find? key).getD 0 + 1) countLimit)
      else b.failures.find? key := by
    unfold next
    rw [Dict.find?_insert]
    by_cases hk : k = key
    · simp [hk]
    · simp [hk]
  have hreset (k : String) : (b.reset k).failures.find? key =
      if k = key then none else b.failures.find? key := Dict.find?_erase b.failures k key
  cases u with
  | next k => simp [Use.apply, Use.Counts, Use.Ends, hnext]
  | reset k => simp [Use.apply, Use.Counts, Use.Ends, hreset]
  | follow k failure =>
    unfold Use.apply actionFor
    cases hrequeue : failure.requeue with
    | immediately => simp [Use.Counts, Use.Ends, hrequeue]
    | withBackoff => simpa [Use.Counts, Use.Ends, hrequeue] using hnext k
    | awaitChange => simpa [Use.Counts, Use.Ends, hrequeue] using hreset k

/-- No call changes the delays themselves. -/
theorem delay_apply (u : Use) : (u.apply b).delay = b.delay := by
  cases u with
  | next k => rfl
  | reset k => rfl
  | follow k failure =>
    show ((b.actionFor k failure).2).delay = b.delay
    unfold actionFor
    cases failure.requeue <;> rfl

/-- The books after one more call are what the call makes of them. -/
theorem after_snoc (history : List Use) (u : Use) :
    b.after (history ++ [u]) = u.apply (b.after history) := by
  unfold after
  rw [List.foldl_append, List.foldl_cons, List.foldl_nil]

/-- No call changes base and cap of the delays. -/
theorem delay_after (history : List Use) : (b.after history).delay = b.delay := by
  induction history using List.reverseRecOn with
  | nil => rfl
  | append_singleton history u ih => rw [after_snoc, delay_apply, ih]

end Books

/-- A key is in the books with the failures of its row, if there are any. -/
theorem find?_after (base most : Span) (key : String) (history : List Use) :
    ((new base most).after history).failures.find? key =
      if streak key history = 0 then none else some (min (streak key history) countLimit) := by
  induction history using List.reverseRecOn with
  | nil => rfl
  | append_singleton history u ih =>
    rw [after_snoc, find?_apply, ih]
    by_cases hcounts : u.Counts key
    · rw [if_pos hcounts, streak_snoc_of_counts hcounts, if_neg (Nat.succ_ne_zero _)]
      by_cases hzero : streak key history = 0
      · simp [hzero]
      · -- a count that has reached its end stays there
        have hcount : (some (min (streak key history) countLimit)).getD 0 =
            min (streak key history) countLimit := rfl
        rw [if_neg hzero, hcount]
        congr 1
        omega
    · rw [if_neg hcounts]
      by_cases hends : u.Ends key
      · rw [if_pos hends, streak_snoc_of_ends hends, if_pos rfl]
      · rw [if_neg hends, streak_snoc_of_not_ends hends, if_neg hcounts, Nat.add_zero]

/-! ## The delay -/

/-- A product beyond the greatest span is beyond the greatest delay as well, so the delay is the lesser of the
two as numbers. -/
theorem delay_new {base most : Span} (hbase : base.nanos ≤ Span.greatest)
    (hmost : most.nanos ≤ Span.greatest) (earlier : Nat) :
    (new base most).delay earlier =
      ⟨min (base.nanos * Nat.pow 2 (min earlier 31)) (max base.nanos most.nanos)⟩ := by
  have hcap : max base.nanos most.nanos ≤ Span.greatest := Nat.max_le.mpr ⟨hbase, hmost⟩
  have hnew : new base most = ⟨base, ⟨max base.nanos most.nanos⟩, Dict.empty⟩ := by
    unfold new
    rw [Nat.max_comm]
  unfold delay Span.times?
  rw [hnew, factor_eq]
  by_cases hcut : Span.greatest < base.nanos * Nat.pow 2 (min earlier 31)
  · have hless : max base.nanos most.nanos ≤ base.nanos * Nat.pow 2 (min earlier 31) :=
      Nat.le_of_lt (Nat.lt_of_le_of_lt hcap hcut)
    rw [if_pos hcut, Nat.min_eq_right hless]
  · rw [if_neg hcut]

/-- The delay of the next failure of a key depends on the failures of its row alone. -/
theorem next_after (base most : Span) (key : String) (history : List Use) :
    (((new base most).after history).next key).1 = (new base most).delay (streak key history) := by
  unfold next
  rw [delay_after, find?_after]
  by_cases hzero : streak key history = 0
  · rw [if_pos hzero, hzero]
    rfl
  · -- the count may be short of the failures, but only where no more of them matter
    have hcount : min (min (streak key history) countLimit) 31 = min (streak key history) 31 := by
      unfold countLimit
      omega
    rw [if_neg hzero]
    show (new base most).delay (min (streak key history) countLimit) = _
    unfold delay factor
    rw [hcount]

/-- After any history of calls the next failure of a key waits the base delay, doubled for each failure in
its row but at most 31 times, and at most the greatest delay; no other call has a say in it, and the keys in
the books are those with a row. -/
theorem delay_over_history {base most : Span} (hbase : base.nanos ≤ Span.greatest)
    (hmost : most.nanos ≤ Span.greatest) (history : List Use) (key : String) :
    let books := (new base most).after history
    let delay : Span :=
      ⟨min (base.nanos * Nat.pow 2 (min (streak key history) 31)) (max base.nanos most.nanos)⟩
    (books.next key).1 = delay ∧
      (∀ failure : PassFailure, failure.requeue = .withBackoff →
        (books.actionFor key failure).1 = .requeue delay) ∧
      (((new base most).after (history.filter fun u => u.Concerns key)).next key).1 = delay ∧
      ∀ other, (books.failures.find? other).isSome = true ↔ 0 < streak other history := by
  intro books delay
  have hdelay : (new base most).delay (streak key history) = delay := delay_new hbase hmost _
  have hnext : (books.next key).1 = delay := (next_after base most key history).trans hdelay
  refine ⟨hnext, fun failure hrequeue => ?_, ?_, fun other => ?_⟩
  · simp only [actionFor, hrequeue]
    exact congrArg Action.requeue hnext
  · rw [next_after, streak_filter]
    exact hdelay
  · rw [find?_after, Nat.pos_iff_ne_zero]
    by_cases hzero : streak other history = 0 <;> simp [hzero]

/-- Two failures of one key in a row, with calls on another key and a lost race in between. -/
def sampleHistory : List Use :=
  [.next "shop/orders", .reset "shop/orders", .next "shop/orders", .next "shop/payments",
    .follow "shop/orders" (.registryConflict "registry"), .follow "shop/orders" .registryNotFound,
    .follow "shop/payments" (.missingCredentials "shop/dev")]

/-- After two failures in a row the delay has doubled twice, and a key whose row has ended is not kept. -/
theorem delay_over_sample :
    (((new (Span.seconds 1) (Span.seconds 10)).after sampleHistory).next "shop/orders").1 =
        Span.seconds 4 ∧
      (((new (Span.seconds 1) (Span.seconds 10)).after sampleHistory).failures.find?
        "shop/payments").isSome = false := by
  have hstreaks : streak "shop/orders" sampleHistory = 2 ∧ streak "shop/payments" sampleHistory = 0 := by
    decide
  have hbase : (Span.seconds 1).nanos ≤ Span.greatest := by decide
  have hmost : (Span.seconds 10).nanos ≤ Span.greatest := by decide
  obtain ⟨hnext, -, -, htracked⟩ := delay_over_history hbase hmost sampleHistory "shop/orders"
  rw [hstreaks.1] at hnext
  refine ⟨hnext, Bool.eq_false_iff.mpr fun hsome => ?_⟩
  have hpositive := (htracked "shop/payments").mp hsome
  rw [hstreaks.2] at hpositive
  exact absurd hpositive (Nat.lt_irrefl 0)

end GatewayOperator.Backoff
