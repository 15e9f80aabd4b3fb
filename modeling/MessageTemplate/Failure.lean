import MessageTemplate.Schema.Fault
import MessageTemplate.Text.Numeral

/-!
# Failures

Model of `TemplateMutationError` of `builder.model` (`EditError`) and of the other errors that
reach a caller (`Failure`), one constructor for each reason.

* `EditError` — why an edit cannot be applied to a template;
* `Failure` — why an operation of the library ends without a result, with the `message` that is
  shown where there is one.
-/

set_option autoImplicit false

namespace MessageTemplate

/-- Why an edit cannot be applied to a template. -/
inductive EditError where
  /-- A saved template cannot take another name. -/
  | nameIsFixed
  /-- There is no button at the position; `count` of them are there. -/
  | noButton (index : Int) (count : Nat)
  | noButtonField (field : String)
  | noPath (path : String)
  | nothingToUndo
  deriving DecidableEq, Repr, Inhabited

/-- The message of an edit error. -/
def EditError.message : EditError → String
  | .nameIsFixed => "Template name cannot change after it is saved"
  | .noButton index count =>
    "Button index " ++ toString index ++ " out of range (have " ++ toString count ++ ")"
  | .noButtonField field => "Unknown button field: " ++ field
  | .noPath path => "Unsupported template path: " ++ path
  | .nothingToUndo => "Nothing to undo"

/-- Why an operation ends without a result. -/
inductive Failure where
  /-- Values do not have the types that the schema gives them. -/
  | faulty (faults : List Fault)
  | numeral (error : Text.NumeralError)
  | edit (error : EditError)
  /-- The value names no step of the review. -/
  | unknownStep (shown : String)
  /-- The number lies between the steps of the wizard. -/
  | betweenSteps (shown : String)
  /-- A value is of a kind on which the operation is not defined. -/
  | wrongKind
  /-- A value of a kind without named parts was asked for one. -/
  | noParts
  /-- An object was asked for a member that it does not have. -/
  | noMember
  /-- An empty sequence was asked for an entry. -/
  | noEntry
  /-- The address of a request cannot be read. -/
  | invalidAddress (message : String)
  /-- A setting that should hold a document does not. -/
  | brokenSetting
  /-- A list would have more entries than a list can have. -/
  | uncountable
  /-- A value is nested too deeply. -/
  | tooDeep
  /-- A document cannot show a number that is infinite or undefined. -/
  | noFiniteNumber
  deriving DecidableEq, Repr, Inhabited

/-- The message of a failure that has one. -/
def Failure.message? : Failure → Option String
  | .numeral e => some e.message
  | .edit e => some e.message
  | .unknownStep shown => some ("Unknown wizard step: " ++ shown)
  | .betweenSteps shown => some (shown ++ " is not a valid WizardStep")
  | .invalidAddress message => some message
  | .noFiniteNumber => some "Out of range float values are not JSON compliant"
  | _ => none

/-- The result of reading a numeral, as the result of an operation. -/
def Failure.ofNumeral {α : Type} : Except Text.NumeralError α → Except Failure α
  | .ok a => .ok a
  | .error e => .error (.numeral e)

end MessageTemplate
