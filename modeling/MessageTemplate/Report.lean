import MessageTemplate.Data.Location

/-!
# Reports

Model of `ValidationIssue`, `ValidationResult` and `errors_for` of `schemas.validation` (`Issue`,
`Report`, `Report.errorsFor`) and of the collector `_Issues` of `builder.validator` (a list of
`Finding`).

* `Finding` — an error or a warning about a field;
* `Report` — the errors and the warnings of a validation, and whether there are no errors;
* `Report.errorsFor` — the errors on a field and on its parts.
-/

set_option autoImplicit false

namespace MessageTemplate

/-- A message about a field, which is given by its dotted name. -/
structure Issue where
  field : String
  message : String
  deriving DecidableEq, Repr, Inhabited

/-- Whether a finding forbids the submission. -/
inductive Severity where
  | error
  | warning
  deriving DecidableEq, Repr, Inhabited

/-- An issue and how severe it is. -/
structure Finding where
  severity : Severity
  issue : Issue
  deriving DecidableEq, Repr, Inhabited

namespace Finding

/-- A finding that forbids the submission. -/
def error (field message : String) : Finding := ⟨.error, ⟨field, message⟩⟩

/-- A finding that does not forbid the submission. -/
def warning (field message : String) : Finding := ⟨.warning, ⟨field, message⟩⟩

/-- The issue of a finding of the severity. -/
def issueOf? (s : Severity) (f : Finding) : Option Issue :=
  if f.severity = s then some f.issue else none

/-- The findings when a condition holds. -/
def onlyIf (condition : Bool) (findings : List Finding) : List Finding :=
  if condition then findings else []

end Finding

/-- An issue as a value. -/
def Issue.toData (i : Issue) : Data :=
  .object [("field", .str i.field), ("message", .str i.message)]

/-- The outcome of a validation. -/
structure Report where
  valid : Bool
  errors : List Issue
  warnings : List Issue
  deriving DecidableEq, Repr, Inhabited

namespace Report

/-- The issues of the findings of a severity, in order. -/
def issues (s : Severity) (findings : List Finding) : List Issue :=
  findings.filterMap (Finding.issueOf? s)

/-- The report of findings, in order. -/
def ofFindings (findings : List Finding) : Report :=
  let errors := issues .error findings
  ⟨errors.isEmpty, errors, issues .warning findings⟩

/-- Whether a dotted name is a field or one of its parts. -/
def concerns (field : String) (name : String) : Bool :=
  name == field || (field ++ ".").toList.isPrefixOf name.toList ||
    (field ++ "[").toList.isPrefixOf name.toList

/-- The errors on a field and on its parts. -/
def errorsFor (r : Report) (field : String) : List Issue :=
  r.errors.filter fun i => concerns field i.field

/-- A report as a value. -/
def toData (r : Report) : Data :=
  .object [("valid", .bool r.valid), ("errors", .list (r.errors.map Issue.toData)),
    ("warnings", .list (r.warnings.map Issue.toData))]

end Report

end MessageTemplate
