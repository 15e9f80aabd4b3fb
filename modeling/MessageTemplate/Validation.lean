import MessageTemplate.Rules.Buttons
import MessageTemplate.Step
import MessageTemplate.Template.Lenient

/-!
# Validation

Model of `validate` and `validate_template` of `builder.validator`, with `_STEP_FIELDS`
(`Step.members`), `_STEP_CHECKS` (`Template.findings`) and `_belongs_to_step` (`Step.owns`).

* `Template.findings` — what is wrong with a template in one step; the review is the details, the
  content and the buttons together;
* `Template.validate` — the report on a template in the step that a value names;
* `Data.validate` — the same for a value that should be a template: what does not fit is reported
  in the step that is responsible for it and then counts as absent.
-/

set_option autoImplicit false

namespace MessageTemplate

/-- The top-level members that a step is responsible for. -/
def Step.members : Step → List String
  | .details => ["id", "name", "category", "language"]
  | .content => ["header", "body", "footer"]
  | .buttons => ["buttons"]
  | .review => []

/-- The top-level members that some step is responsible for. -/
def knownMembers : List String := Step.all.flatMap Step.members

/-- The top-level member in a dotted name. -/
def rootOf (field : String) : String :=
  String.ofList (field.toList.takeWhile fun c => !(c == '.' || c == '['))

/-- Whether a step is responsible for a field; every step is for a field that none knows. -/
def Step.owns (s : Step) (field : String) : Bool :=
  s == .review || !knownMembers.contains (rootOf field) || s.members.contains (rootOf field)

namespace Template

/-- What is wrong with a template in a step. -/
def findings (t : Template) : Step → Except Text.NumeralError (List Finding)
  | .details => .ok t.detailFindings
  | .content => t.contentFindings
  | .buttons => .ok t.buttonFindings
  | .review =>
    match t.contentFindings with
    | .ok onContent => .ok (t.detailFindings ++ onContent ++ t.buttonFindings)
    | .error e => .error e

/-- The report on a template in a step, after issues that were found before. -/
def reportAfter (before : List Issue) (t : Template) (s : Step) : Except Failure Report :=
  match t.findings s with
  | .ok findings => .ok (.ofFindings (before.map (Finding.mk .error) ++ findings))
  | .error e => .error (.numeral e)

/-- The report on a template in a step. -/
def report (t : Template) (s : Step) : Except Failure Report :=
  t.reportAfter [] s

/-- The report on a template in the step that a value names. -/
def validate (t : Template) (step : Data) : Except Failure Report :=
  match Step.ofData step with
  | .ok s => t.report s
  | .error e => .error e

end Template

namespace Data

/-- The report on a value that should be a template, in a step. -/
def report (d : Data) (s : Step) : Except Failure Report :=
  match Template.recover d with
  | .error e => .error e
  | .ok (t?, issues) =>
    let owned := issues.filter fun i => s.owns i.field
    match t? with
    | some t => t.reportAfter owned s
    | none => .ok ⟨false, owned, []⟩

/-- The report on a value that should be a template, in the step that a value names. -/
def validate (d step : Data) : Except Failure Report :=
  match Step.ofData step with
  | .ok s => d.report s
  | .error e => .error e

end Data

end MessageTemplate
