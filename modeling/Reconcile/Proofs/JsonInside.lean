import Reconcile.Proofs.Json

/-!
# A document inside another

The machine that reads a document goes through the same steps when the document is a value inside
another one, with more arrays and objects open around those that the document opens itself
(`Json.leads_step`). It starts where a value may stand, and where it would end the value is put into
the innermost array or object around it. So a document other than a number spells its value:
`Json.spells_of_read?`.
-/

namespace Reconcile.Json

/-- **A state of the machine inside another**, with more arrays and objects open around it. -/
inductive Within (outer : List Frame) : State → State → Prop
  /-- Where a document starts, the end of an empty array may follow instead. -/
  | start (closes : Bool) : Within outer .start ⟨outer, .value closes⟩
  | inside {mode : Mode} (h : ∀ document, mode ≠ .done document) (frames : List Frame) :
      Within outer ⟨frames, mode⟩ ⟨frames ++ outer, mode⟩
  /-- Where a document has ended, a value has. -/
  | ended (document : Json) : Within outer ⟨[], .done document⟩ (State.put document outer)

/-- Whether a step that leads somewhere does so inside another state as well. -/
def Leads (outer : List Frame) (taken inside : Option State) : Prop :=
  ∀ next, taken = some next → ∃ next', inside = some next' ∧ Within outer next next'

section

variable {outer : List Frame}

/-- A state inside another is led to by the step to it. -/
theorem Within.leads {next next' : State} (h : Within outer next next') :
    Leads outer (some next) (some next') := by
  rintro _ ⟨⟩
  exact ⟨next', rfl, h⟩

/-- A step that leads nowhere has nothing to match inside. -/
theorem leads_none (inside : Option State) : Leads outer none inside :=
  nofun

/-- Two branches on one condition lead as each of them does. -/
theorem leads_ite {p : Prop} [Decidable p] {taken inside other otherInside : Option State}
    (h : Leads outer taken inside) (hother : Leads outer other otherInside) :
    Leads outer (if p then taken else other) (if p then inside else otherInside) := by
  split
  · exact h
  · exact hother

/-- What a step finds leads to states one inside the other if it does whatever it finds. -/
theorem leads_map {α : Type} {found : Option α} {f g : α → State}
    (h : ∀ a, Within outer (f a) (g a)) : Leads outer (found.map f) (found.map g) := by
  cases found with
  | none => exact leads_none _
  | some a => exact (h a).leads

/-- Putting a value among open frames puts it inside what is open around them. -/
theorem within_put (value : Json) (frames : List Frame) :
    Within outer (State.put value frames) (State.put value (frames ++ outer)) := by
  rcases frames with _ | ⟨_ | _, frames⟩
  · exact .ended value
  · exact .inside (by nofun) (_ :: frames)
  · exact .inside (by nofun) (_ :: frames)

/-- After a complete value the machine is not inside a number. -/
theorem step_put (value : Json) (frames : List Frame) (c : Char) :
    step (State.put value frames) c = stepOutsideNumber (State.put value frames) c := by
  rcases frames with _ | ⟨_ | _, frames⟩ <;> rfl

/-- What may follow a document may follow a value. -/
theorem stepOutsideNumber_put {c : Char} (h : isBlank c = true) (value : Json) :
    stepOutsideNumber (State.put value outer) c = some (State.put value outer) := by
  rcases outer with _ | ⟨_ | _, outer⟩
  · exact if_pos h
  · exact if_pos h
  · exact if_pos h

/-- A character where a value may stand leads inside as it does outside, also where the end of an
empty array is possible inside alone. -/
theorem leads_stepValue {frames : List Frame} {closes closes' : Bool} (c : Char)
    (hcloses : closes = true → closes' = true)
    (hvalue : Within outer ⟨frames, .value closes⟩ ⟨frames ++ outer, .value closes'⟩) :
    Leads outer (stepValue frames closes c) (stepValue (frames ++ outer) closes' c) := by
  have hinside : ∀ (mode : Mode), (∀ document, mode ≠ .done document) → ∀ frames,
      Leads outer (some ⟨frames, mode⟩) (some ⟨frames ++ outer, mode⟩) :=
    fun mode h frames => (Within.inside h frames).leads
  unfold stepValue
  refine leads_ite hvalue.leads ?_
  refine leads_ite (hinside _ (by nofun) frames) ?_
  refine leads_ite (hinside _ (by nofun) (.array [] :: frames)) ?_
  refine leads_ite (hinside _ (by nofun) (.object [] [] :: frames)) ?_
  iterate 6 refine leads_ite (hinside _ (by nofun) frames) ?_
  intro next h
  obtain ⟨hclose, h⟩ := Option.ite_none_right_eq_some.1 h
  rw [if_pos ⟨hclose.1, hcloses hclose.2⟩]
  rcases frames with _ | ⟨_ | _, frames⟩
  · cases h
  · cases h
    exact ⟨_, rfl, within_put _ frames⟩
  · cases h

/-- A character where a member name may stand leads inside as it does outside. -/
theorem leads_stepName (frames : List Frame) (closes : Bool) (c : Char) :
    Leads outer (stepName frames closes c) (stepName (frames ++ outer) closes c) := by
  unfold stepName
  refine leads_ite (Within.inside (by nofun) frames).leads ?_
  refine leads_ite (Within.inside (by nofun) frames).leads (leads_ite ?_ (leads_none _))
  rcases frames with _ | ⟨_ | _, frames⟩
  · exact leads_none _
  · exact leads_none _
  · exact (within_put _ frames).leads

/-- A character behind a value leads inside as it does outside. -/
theorem leads_stepAfter (frames : List Frame) (c : Char) :
    Leads outer (stepAfter frames c) (stepAfter (frames ++ outer) c) := by
  unfold stepAfter
  refine leads_ite (Within.inside (by nofun) frames).leads ?_
  rcases frames with _ | ⟨_ | _, frames⟩
  · exact leads_none _
  · exact leads_ite (Within.inside (by nofun) (_ :: frames)).leads
      (leads_ite (within_put _ frames).leads (leads_none _))
  · exact leads_ite (Within.inside (by nofun) (_ :: frames)).leads
      (leads_ite (within_put _ frames).leads (leads_none _))

/-- A character of a string leads inside as it does outside. -/
theorem leads_stepString (frames : List Frame) (isName : Bool) (stage : StringStage)
    (content : Text) (c : Char) :
    Leads outer (stepString frames isName stage content c)
      (stepString (frames ++ outer) isName stage content c) := by
  unfold stepString
  cases stage with
  | plain =>
      refine leads_ite ?_ (leads_ite (Within.inside (by nofun) frames).leads
        (leads_ite (leads_none _) (Within.inside (by nofun) frames).leads))
      unfold State.putString
      refine leads_ite ?_ (within_put _ frames).leads
      rcases frames with _ | ⟨_ | _, frames⟩
      · exact leads_none _
      · exact leads_none _
      · exact (Within.inside (by nofun) (_ :: frames)).leads
  | escape =>
      exact leads_ite (Within.inside (by nofun) frames).leads
        (leads_map fun d => .inside (by nofun) frames)
  | code digits value =>
      refine leads_map fun digit => ?_
      split
      · exact .inside (by nofun) frames
      · exact .inside (by nofun) frames

/-- A character that follows a number leads inside as it does outside. -/
theorem leads_stepOutsideNumber {state state' : State} (h : Within outer state state') (c : Char) :
    Leads outer (stepOutsideNumber state c) (stepOutsideNumber state' c) := by
  cases h with
  | start closes => exact leads_stepValue c nofun (.start closes)
  | ended document =>
      intro next hnext
      obtain ⟨hblank, hnext⟩ := Option.ite_none_right_eq_some.1 hnext
      cases hnext
      exact ⟨_, stepOutsideNumber_put hblank document, .ended document⟩
  | @inside mode hmode frames =>
      cases mode with
      | value closes => exact leads_stepValue c id (.inside hmode frames)
      | name closes => exact leads_stepName frames closes c
      | colon =>
          exact leads_ite (Within.inside (by nofun) frames).leads
            (leads_ite (Within.inside (by nofun) frames).leads (leads_none _))
      | after => exact leads_stepAfter frames c
      | string isName stage content => exact leads_stepString frames isName stage content c
      | word rest literal =>
          rcases rest with _ | ⟨d, _ | ⟨e, rest⟩⟩
          · exact leads_none _
          · exact leads_ite (within_put literal frames).leads (leads_none _)
          · exact leads_ite (Within.inside (by nofun) frames).leads (leads_none _)
      | number stage spelling => exact leads_none _
      | done document => exact absurd rfl (hmode document)

/-- **A step inside another state is the step by itself.** -/
theorem leads_step {state state' : State} (h : Within outer state state') (c : Char) :
    Leads outer (step state c) (step state' c) := by
  cases h with
  | start closes => exact leads_stepOutsideNumber (.start closes) c
  | ended document =>
      rw [step_put]
      exact leads_stepOutsideNumber (.ended document) c
  | @inside mode hmode frames =>
      cases mode with
      | number stage spelling =>
          unfold step
          dsimp only
          cases stage.next? c with
          | some next => exact (Within.inside (by nofun) frames).leads
          | none => exact leads_ite (leads_stepOutsideNumber (within_put _ frames) c) (leads_none _)
      | done document => exact absurd rfl (hmode document)
      | _ => exact leads_stepOutsideNumber (.inside hmode frames) c

/-- And so is a text. -/
theorem leads_run {state state' : State} (h : Within outer state state') (text : List Char) :
    Leads outer (run state text) (run state' text) := by
  induction text generalizing state state' with
  | nil => exact h.leads
  | cons c text ih =>
      intro next hnext
      rw [run_cons] at hnext ⊢
      obtain ⟨first, hfirst, hrest⟩ := Option.bind_eq_some_iff.1 hnext
      obtain ⟨first', hfirst', hwithin⟩ := leads_step h c first hfirst
      rw [hfirst', Option.bind_some]
      exact ih hwithin next hrest

end

/-- **A document is read as a value wherever one may stand**, unless it is a number, whose end does
not show. -/
theorem spells_of_read? {text : List Char} {json : Json} (h : read? text = some json)
    (hnumber : ∀ spelling, json ≠ .number spelling) : Spells text json := by
  intro frames closes
  obtain ⟨state, hrun, hdocument⟩ := Option.bind_eq_some_iff.1 h
  obtain ⟨state', hrun', hwithin⟩ := leads_run (.start closes) text state hrun
  rw [hrun']
  cases hwithin with
  | start closes => cases hdocument
  | ended document =>
      cases hdocument
      rfl
  | @inside mode hmode inner =>
      cases mode with
      | number stage spelling =>
          obtain ⟨-, heq⟩ := Option.ite_none_right_eq_some.1 hdocument
          cases heq
          exact absurd rfl (hnumber _)
      | done document => exact absurd rfl (hmode document)
      | _ => cases hdocument

end Reconcile.Json
