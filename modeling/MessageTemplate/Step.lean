import MessageTemplate.Failure
import MessageTemplate.Data.Text

/-!
# Steps

Model of `WizardStep`, `StepInfo` and `STEPS` of `builder.wizard` and of the steps that `validate`
of `builder.validator` knows (`Step.ofData`).

* `Step` — the four steps in which a template is made: details, content, buttons, review;
* `Step.ofData` — the step that a dynamic value names, by its number.
-/

set_option autoImplicit false

namespace MessageTemplate

/-- A step in the making of a template. -/
inductive Step where
  | details
  | content
  | buttons
  /-- All of the other steps together, before the submission. -/
  | review
  deriving DecidableEq, Repr, Inhabited

namespace Step

/-- The number of a step. -/
def number : Step → Nat
  | .details => 1
  | .content => 2
  | .buttons => 3
  | .review => 4

/-- All steps, in order. -/
def all : List Step := [.details, .content, .buttons, .review]

/-- The step of a number. -/
def ofNumber? (n : Int) : Option Step := all.find? fun s => (s.number : Int) == n

/-- The integer that a value equals, if it equals one. -/
def integerOf? : Data → Option Int
  | .int n => some n
  | .bool b => some (if b then 1 else 0)
  | .float x => x.toInt?
  | _ => none

/-- The step that a value names. -/
def ofData (d : Data) : Except Failure Step :=
  match d with
  | .list _ | .object _ => .error .wrongKind
  | _ =>
    match (integerOf? d).bind ofNumber? with
    | some s => .ok s
    | none => .error (.unknownStep d.text)

theorem ofData_number (s : Step) : ofData (.ofNat s.number) = .ok s := by
  cases s <;> rfl

theorem ofNumber?_eq_some {n : Int} {s : Step} (h : ofNumber? n = some s) : n = s.number := by
  have hp := List.find?_some h
  exact (beq_iff_eq.mp hp).symm

/-- The title of a step. -/
def title : Step → String
  | .details => "Details"
  | .content => "Content"
  | .buttons => "Buttons"
  | .review => "Review"

/-- What is done in a step. -/
def description : Step → String
  | .details => "Name, category & language"
  | .content => "Header, body & footer"
  | .buttons => "Add call-to-action buttons"
  | .review => "Preview & submit"

/-- The step after a step that is not the last. -/
def next? : Step → Option Step
  | .details => some .content
  | .content => some .buttons
  | .buttons => some .review
  | .review => none

/-- The step before a step that is not the first. -/
def previous? : Step → Option Step
  | .details => none
  | .content => some .details
  | .buttons => some .content
  | .review => some .buttons

end Step

end MessageTemplate
