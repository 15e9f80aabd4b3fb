import MessageTemplate.Edit.Reading
import MessageTemplate.Log
import MessageTemplate.Validation

/-!
# Editors

Model of `TemplateModel` of `builder.model`: `start` is its construction, and `dispatch`,
`update`, `undo`, `set_step` and `mark_saved` are the actions.

* `Editor` — a template under construction: the current template, the templates before it, the
  active step and the report on the template in this step;
* `Editor.Action` — what can be done with an editor;
* `Editor.perform` — what an action leads to: the editor after it, why it failed if it did, and
  what is recorded.

A dispatched edit that fails leaves the editor as it was. Undoing and taking over an identifier
change the template before the report is made anew.
-/

set_option autoImplicit false

namespace MessageTemplate

/-- A template under construction. -/
structure Editor where
  template : Template
  /-- The templates before the current one, the latest first. -/
  past : List Template := []
  /-- The active step, as it was given. -/
  step : Data
  /-- The report on the template in the active step. -/
  validation : Report
  deriving Repr, Inhabited

namespace Editor

/-- What can be done with an editor. -/
inductive Action where
  /-- Applies the edit that a value describes. -/
  | dispatch (operation : Data)
  /-- Applies the edit that sets the field at a path. -/
  | update (path value : Data)
  /-- Goes back to the template before the last edit. -/
  | undo
  | setStep (step : Data)
  /-- Takes over the identifier under which the template is stored. -/
  | markSaved (id : Option Identifier)
  deriving Repr, Inhabited

/-- What an action leads to. -/
structure Outcome where
  editor : Editor
  failure : Option Failure := none
  log : List Entry := []
  deriving Repr, Inhabited

/-- The step with which an editor begins unless another is given. -/
def firstStep : Data := .ofNat Step.details.number

/-- An editor for a template. -/
def start (template : Template) (step : Data) : Except Failure Editor :=
  match template.validate step with
  | .ok report => .ok { template := template, step := step, validation := report }
  | .error e => .error e

/-- The templates before the current one, the oldest first. -/
def history (e : Editor) : List Template := e.past.reverse

/-- Whether there is an edit to undo. -/
def canUndo (e : Editor) : Bool := !e.past.isEmpty

/-- What is recorded about an edit. -/
def editEntry (edit : Edit) (after : Editor) : Entry :=
  .event .debug "template_mutated"
    [("op", .str edit.kind.word), ("name", .str after.template.name),
     ("valid", .bool after.validation.valid)]

/-- The editor after an edit. -/
def edit (e : Editor) (edit : Edit) : Except Failure Editor :=
  match e.template.apply edit with
  | .error failure => .error failure
  | .ok template =>
    match template.validate e.step with
    | .error failure => .error failure
    | .ok report =>
      .ok { e with template := template, past := e.template :: e.past, validation := report }

/-- What a command leads to. -/
def dispatch (e : Editor) (command : Except Failure Command) : Outcome :=
  match command with
  | .error failure => { editor := e, failure := some failure }
  | .ok c =>
    match e.edit c.edit with
    | .error failure => { editor := e, failure := some failure }
    | .ok after => { editor := after, log := [editEntry c.edit after] }

/-- Makes the report anew. -/
def revalidate (e : Editor) : Outcome :=
  match e.template.validate e.step with
  | .ok report => { editor := { e with validation := report } }
  | .error failure => { editor := e, failure := some failure }

/-- The editor with another active step. -/
def setStep (e : Editor) (step : Data) : Except Failure Editor :=
  match e.template.validate step with
  | .ok report => .ok { e with step := step, validation := report }
  | .error failure => .error failure

/-- Goes back to the template before the last edit. -/
def undo (e : Editor) : Outcome :=
  match e.past with
  | [] => { editor := e, failure := some (.edit .nothingToUndo) }
  | template :: past => revalidate { e with template := template, past := past }

/-- The template under an identifier. -/
def identified (id : Option Identifier) (t : Template) : Template := { t with id := id }

/-- Takes over an identifier, also for the templates before, so that undoing an edit keeps it. -/
def markSaved (e : Editor) (id : Option Identifier) : Outcome :=
  revalidate { e with template := identified id e.template, past := e.past.map (identified id) }

/-- What an action leads to. -/
def perform (e : Editor) : Action → Outcome
  | .dispatch operation => e.dispatch (Command.read operation).result
  | .update path value => e.dispatch (Command.ofPathData path value)
  | .undo => e.undo
  | .setStep step =>
    match e.setStep step with
    | .ok after => { editor := after }
    | .error failure => { editor := e, failure := some failure }
  | .markSaved id => e.markSaved id

end Editor

end MessageTemplate
