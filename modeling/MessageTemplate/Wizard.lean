import MessageTemplate.Dashboard.Store
import MessageTemplate.Editor

/-!
# Wizards

Model of `WizardStateMachine` of `builder.wizard`: `start` is its construction, `moveTo` is
`_move_to`, and `advance`, `back`, `go_to`, `save_draft`, `submit` and the calls of its model are
the actions.

* `Wizard` — an editor that is led from step to step, the current step and the furthest step that
  was reached;
* `Wizard.Action` — what can be done with a wizard;
* `Wizard.perform` — what an action leads to: the wizard after it, the traffic with the dashboard
  and the answer.

The way forward opens when the report on the current step is valid; every step up to the furthest
one is open. A wizard changes its current step before the editor does, so a report that cannot be
made leaves the editor on the step before.
-/

set_option autoImplicit false

namespace MessageTemplate

/-- An editor that is led from step to step. -/
structure Wizard where
  editor : Editor
  current : Step
  furthest : Step
  deriving Repr, Inhabited

namespace Wizard

/-- What can be done with a wizard. -/
inductive Action where
  | dispatch (operation : Data)
  | update (path value : Data)
  | undo
  | advance
  | back
  | goTo (step : Data)
  | saveDraft
  | submit
  deriving Repr, Inhabited

/-- What an action answers. -/
inductive Answer where
  | done
  /-- Whether the wizard moved. -/
  | moved (b : Bool)
  | draft (t : Template)
  /-- What the dashboard answered, or what would be sent without one. -/
  | submitted (d : Data)
  deriving Repr, Inhabited

/-- What an action leads to. -/
structure Outcome where
  wizard : Wizard
  traffic : Traffic
  result : Except Interruption Answer
  deriving Inhabited

/-- The template under construction. -/
def template (w : Wizard) : Template := w.editor.template

/-- The report on the template in the step of the editor. -/
def validation (w : Wizard) : Report := w.editor.validation

/-- A wizard that begins at the step of an editor. -/
def start (e : Editor) : Except Failure Wizard :=
  match Step.ofData e.step with
  | .error failure => .error failure
  | .ok s =>
    match e.setStep (.ofNat s.number) with
    | .error failure => .error failure
    | .ok e => .ok ⟨e, s, s⟩

/-! ## Moving -/

/-- The later of two steps. -/
def later (a b : Step) : Step := if a.number < b.number then b else a

/-- Whether the way forward is open. -/
def canAdvance (w : Wizard) : Bool := w.current != .review && w.validation.valid

/-- Whether a value names a step that was reached, by its place among the numbers. -/
def canGoTo (w : Wizard) (step : Data) : Except Failure Bool :=
  let reached := fun n : Int => decide (1 ≤ n ∧ n ≤ w.furthest.number)
  match step with
  | .int n => .ok (reached n)
  | .bool b => .ok (reached (if b then 1 else 0))
  | .float x =>
    .ok ((x.compareInt? 1 == some .gt || x.compareInt? 1 == some .eq) &&
      (x.compareInt? w.furthest.number == some .lt || x.compareInt? w.furthest.number == some .eq))
  | _ => .error .wrongKind

/-- What is recorded about a move. -/
def moveEntry (w : Wizard) (s : Step) : Entry :=
  .event .info "wizard_step_changed"
    [("name", .str w.template.name), ("from_step", .ofNat w.current.number),
     ("to_step", .ofNat s.number)]

/-- What is recorded about an attempt to go on while the way is not open. -/
def blockedEntry (w : Wizard) : Entry :=
  .event .debug "wizard_advance_blocked"
    [("step", .ofNat w.current.number), ("errors", .ofNat w.validation.errors.length)]

/-- An action without traffic. -/
def answered (w : Wizard) (t : Traffic) (a : Answer) : Outcome := ⟨w, t, .ok a⟩

/-- An action that failed. -/
def failed (w : Wizard) (t : Traffic) (e : Failure) : Outcome := ⟨w, t, .error (.failed e)⟩

/-- An action that was refused. -/
def refused (w : Wizard) (t : Traffic) (r : Refusal) : Outcome := ⟨w, t, .error (.refused r)⟩

/-- Goes to a step. -/
def moveTo (w : Wizard) (t : Traffic) (s : Step) : Outcome :=
  let moved : Wizard := { w with current := s, furthest := later w.furthest s }
  match w.editor.setStep (.ofNat s.number) with
  | .ok e => answered { moved with editor := e } (t.record [w.moveEntry s]) (.moved true)
  | .error failure => failed moved t failure

/-- Goes to the next step if the way is open. -/
def advance (w : Wizard) (t : Traffic) : Outcome :=
  match w.current.next? with
  | some s =>
    if w.canAdvance then w.moveTo t s
    else answered w (t.record [w.blockedEntry]) (.moved false)
  | none => answered w (t.record [w.blockedEntry]) (.moved false)

/-- Goes to the step before. -/
def back (w : Wizard) (t : Traffic) : Outcome :=
  match w.current.previous? with
  | some s => w.moveTo t s
  | none => answered w t (.moved false)

/-- Goes to a step that was reached. -/
def goTo (w : Wizard) (t : Traffic) (step : Data) : Outcome :=
  match w.canGoTo step with
  | .error failure => failed w t failure
  | .ok false => answered w t (.moved false)
  | .ok true =>
    match (Step.integerOf? step).bind Step.ofNumber? with
    | some s => w.moveTo t s
    | none => failed w t (.betweenSteps step.text)

/-! ## Saving and submitting -/

/-- Whether the template can be submitted now. -/
def canSubmit (w : Wizard) : Except Failure Bool :=
  if w.current = .review then (w.template.report .review).map Report.valid else .ok false

/-- Stores the template as a draft and takes over its identifier; without a dashboard the draft
stays here. -/
def saveDraft (dashboard : Option Dashboard) (w : Wizard) (t : Traffic) : Outcome :=
  match dashboard with
  | none => answered w t (.draft w.template)
  | some d =>
    match (d.saveDraft w.template).outcome t with
    | (.error interruption, t) => ⟨w, t, .error interruption⟩
    | (.ok saved, t) =>
      let o := w.editor.markSaved saved.id
      let w := { w with editor := o.editor }
      match o.failure with
      | some failure => failed w t failure
      | none => answered w t (.draft w.template)

/-- The refusal of a submission before the review. -/
def notInReview : Refusal :=
  { status := 409, message := "Submit is only available from the Review step" }

/-- What is recorded about a submission. -/
def submitEntry (w : Wizard) (r : Report) : Entry :=
  .event .info "wizard_submit"
    [("name", .str w.template.name), ("warnings", .ofNat r.warnings.length)]

/-- Hands the template in for approval; without a dashboard the submission stays here. -/
def submit (dashboard : Option Dashboard) (w : Wizard) (t : Traffic) : Outcome :=
  if w.current != .review then refused w t notInReview
  else
    match w.template.report .review with
    | .error failure => failed w t failure
    | .ok report =>
      if report.valid then
        let t := t.record [w.submitEntry report]
        match dashboard with
        | none => answered w t (.submitted w.template.submission.toData)
        | some d =>
          match (d.submit w.template).outcome t with
          | (.ok answer, t) => answered w t (.submitted answer)
          | (.error interruption, t) => ⟨w, t, .error interruption⟩
      else refused w t (Dashboard.invalid report.errors)

/-! ## Actions -/

/-- What an action on the editor leads to. -/
def edit (w : Wizard) (t : Traffic) (a : Editor.Action) : Outcome :=
  let o := w.editor.perform a
  let w := { w with editor := o.editor }
  match o.failure with
  | some failure => failed w (t.record o.log) failure
  | none => answered w (t.record o.log) .done

/-- What an action leads to. -/
def perform (dashboard : Option Dashboard) (w : Wizard) (t : Traffic) : Action → Outcome
  | .dispatch operation => w.edit t (.dispatch operation)
  | .update path value => w.edit t (.update path value)
  | .undo => w.edit t .undo
  | .advance => w.advance t
  | .back => w.back t
  | .goTo step => w.goTo t step
  | .saveDraft => w.saveDraft dashboard t
  | .submit => w.submit dashboard t

end Wizard

end MessageTemplate
