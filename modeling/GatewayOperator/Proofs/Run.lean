/-!
# Runs

A run is the list of the events that have happened, the latest one last. Conditions on a run that look
back are of one form: something happened, and ever since then something else has held. One more event
either makes it happen now, or leaves it at what it was. So it is with the latest event of a sort, too.
-/

set_option autoImplicit false

namespace GatewayOperator.Run

variable {E : Type}

/-- An event has happened, and a condition has held from then on. Both may depend on the run so far. -/
def Since (happened : List E → E → Prop) (held : List E → Prop) (es : List E) : Prop :=
  ∃ before e rest, es = before ++ e :: rest ∧ happened before e ∧
    ∀ more, more <+: rest → held (before ++ e :: more)

variable {happened : List E → E → Prop} {held : List E → Prop}

/-- What has held since then holds now. -/
theorem Since.now {es : List E} (h : Since happened held es) : held es := by
  obtain ⟨before, e, rest, rfl, -, hheld⟩ := h
  exact hheld rest (List.prefix_refl rest)

/-- One more event: it has happened now or before, and the condition holds still. -/
theorem since_snoc (es : List E) (e : E) :
    Since happened held (es ++ [e]) ↔
      held (es ++ [e]) ∧ (happened es e ∨ Since happened held es) := by
  constructor
  · intro h
    refine ⟨h.now, ?_⟩
    obtain ⟨before, first, rest, hes, hfirst, hheld⟩ := h
    rcases List.eq_nil_or_concat rest with rfl | ⟨rest, last, rfl⟩
    · obtain ⟨rfl, hlast⟩ := List.append_inj' hes rfl
      rw [List.singleton_inj] at hlast
      exact .inl (hlast ▸ hfirst)
    · rw [List.concat_eq_append] at hes hheld
      have hsplit : es ++ [e] = (before ++ first :: rest) ++ [last] := by simpa using hes
      obtain ⟨rfl, -⟩ := List.append_inj' hsplit rfl
      exact .inr ⟨before, first, rest, rfl, hfirst, fun more hmore =>
        hheld more (hmore.trans (List.prefix_append rest [last]))⟩
  · rintro ⟨hnow, hhappened | ⟨before, first, rest, rfl, hfirst, hheld⟩⟩
    · refine ⟨es, e, [], rfl, hhappened, fun more hmore => ?_⟩
      rw [List.prefix_nil.mp hmore]
      exact hnow
    · refine ⟨before, first, rest ++ [e], by simp, hfirst, fun more hmore => ?_⟩
      rcases List.prefix_concat_iff.mp hmore with rfl | hmore
      · simpa using hnow
      · exact hheld more hmore

/-! ## Events that are not undone -/

section Open

variable {start stop : E → Prop}

/-- An event of one sort has happened, and none of another sort since. -/
def Open (start stop : E → Prop) (es : List E) : Prop :=
  ∃ before e after, es = before ++ e :: after ∧ start e ∧ ∀ x ∈ after, ¬ stop x

/-- Nothing is open before anything happens. -/
theorem not_open_nil : ¬ Open start stop [] := by
  rintro ⟨before, e, after, h, -⟩
  simp at h

/-- One more event: it is of the first sort, or one was before and this does not undo it. -/
theorem open_snoc (es : List E) (x : E) :
    Open start stop (es ++ [x]) ↔ start x ∨ (Open start stop es ∧ ¬ stop x) := by
  constructor
  · rintro ⟨before, e, after, h, hstart, hafter⟩
    rcases List.eq_nil_or_concat after with rfl | ⟨rest, last, rfl⟩
    · obtain ⟨-, hlast⟩ := List.append_inj' h rfl
      obtain rfl := List.singleton_inj.mp hlast
      exact .inl hstart
    · have hsplit : es ++ [x] = (before ++ e :: rest) ++ [last] := by simpa using h
      obtain ⟨rfl, hlast⟩ := List.append_inj' hsplit rfl
      obtain rfl := List.singleton_inj.mp hlast
      exact .inr ⟨⟨before, e, rest, rfl, hstart, fun y hy => hafter y (by simp [hy])⟩,
        hafter x (by simp)⟩
  · rintro (hstart | ⟨⟨before, e, after, rfl, hstart, hafter⟩, hstop⟩)
    · exact ⟨es, x, [], rfl, hstart, List.forall_mem_nil _⟩
    · refine ⟨before, e, after ++ [x], by simp, hstart, ?_⟩
      intro y hy
      rcases List.mem_append.mp hy with hy | hy
      · exact hafter y hy
      · obtain rfl := List.mem_singleton.mp hy
        exact hstop

end Open

/-! ## The latest event of a sort -/

variable {sort : E → Prop}

/-- An event is of a sort, and none after it is. -/
def Latest (sort : E → Prop) (es : List E) (e : E) : Prop :=
  ∃ before after, es = before ++ e :: after ∧ sort e ∧ ∀ x ∈ after, ¬ sort x

/-- An event is the latest of its sort as long as none of the sort comes after it. -/
theorem latest_iff_open {es : List E} {e : E} :
    Latest sort es e ↔ Open (fun x => x = e ∧ sort x) sort es := by
  constructor
  · rintro ⟨before, after, h, he, hafter⟩
    exact ⟨before, e, after, h, ⟨rfl, he⟩, hafter⟩
  · rintro ⟨before, _, after, h, ⟨rfl, he⟩, hafter⟩
    exact ⟨before, after, h, he, hafter⟩

/-- Nothing is the latest before anything happens. -/
theorem not_latest_nil (e : E) : ¬ Latest sort [] e := by
  rw [latest_iff_open]
  exact not_open_nil

/-- An event of the sort is the latest one now. -/
theorem latest_snoc_of_sort {es : List E} {x e : E} (hx : sort x) :
    Latest sort (es ++ [x]) e ↔ e = x := by
  rw [latest_iff_open, open_snoc]
  constructor
  · rintro (⟨rfl, -⟩ | ⟨-, hnot⟩)
    · rfl
    · exact absurd hx hnot
  · rintro rfl
    exact .inl ⟨rfl, hx⟩

/-- An event that is not of the sort leaves the latest one as it was. -/
theorem latest_snoc_of_not_sort {es : List E} {x e : E} (hx : ¬ sort x) :
    Latest sort (es ++ [x]) e ↔ Latest sort es e := by
  rw [latest_iff_open, latest_iff_open, open_snoc]
  constructor
  · rintro (⟨-, hsort⟩ | ⟨hopen, -⟩)
    · exact absurd hsort hx
    · exact hopen
  · intro hopen
    exact .inr ⟨hopen, hx⟩

end GatewayOperator.Run
