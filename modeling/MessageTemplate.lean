import MessageTemplate.Binary64
import MessageTemplate.Binary64.Text
import MessageTemplate.Component
import MessageTemplate.Component.Reading
import MessageTemplate.Dashboard
import MessageTemplate.Dashboard.Store
import MessageTemplate.Dashboard.Traffic
import MessageTemplate.Data
import MessageTemplate.Data.Dropping
import MessageTemplate.Data.Equality
import MessageTemplate.Data.Location
import MessageTemplate.Data.Text
import MessageTemplate.Edit
import MessageTemplate.Edit.Reading
import MessageTemplate.Editor
import MessageTemplate.Failure
import MessageTemplate.Json.Reader
import MessageTemplate.Json.Writer
import MessageTemplate.Log
import MessageTemplate.Main
import MessageTemplate.Preview
import MessageTemplate.Report
import MessageTemplate.Rules.Buttons
import MessageTemplate.Rules.Category
import MessageTemplate.Rules.Content
import MessageTemplate.Rules.Details
import MessageTemplate.Schema.Fault
import MessageTemplate.Schema.Reading
import MessageTemplate.Service
import MessageTemplate.Service.Target
import MessageTemplate.Settings
import MessageTemplate.Span
import MessageTemplate.Step
import MessageTemplate.Template
import MessageTemplate.Template.Lenient
import MessageTemplate.Template.Reading
import MessageTemplate.Template.Writing
import MessageTemplate.Text.Blank
import MessageTemplate.Text.CodePoint
import MessageTemplate.Text.DecimalDigit
import MessageTemplate.Text.Encoding
import MessageTemplate.Text.LetterCase
import MessageTemplate.Text.MemberName
import MessageTemplate.Text.Numeral
import MessageTemplate.Text.Phrase
import MessageTemplate.Text.Printable
import MessageTemplate.Text.Word
import MessageTemplate.Validation
import MessageTemplate.Variable
import MessageTemplate.Wizard
import MessageTemplate.Proofs.Component.RoundTrip
import MessageTemplate.Proofs.Dashboard.Turns
import MessageTemplate.Proofs.Editor.Identifier
import MessageTemplate.Proofs.Editor.Validated
import MessageTemplate.Proofs.Readable
import MessageTemplate.Proofs.Wizard.FailedMove
import MessageTemplate.Proofs.Wizard.Gate
import MessageTemplate.Proofs.Wizard.Session
import MessageTemplate.Proofs.Wizard.Submission
import MessageTemplate.Proofs.Editor.FailedAction
import MessageTemplate.Proofs.Editor.Name
import MessageTemplate.Proofs.Dashboard.Answers
import MessageTemplate.Proofs.Wizard.Draft
import MessageTemplate.Proofs.Editor.History
import MessageTemplate.Proofs.Wizard.Saving
import MessageTemplate.Proofs.Data.NamesOnce
import MessageTemplate.Proofs.Data.Erasing
import MessageTemplate.Proofs.Lenient.Rounds
import MessageTemplate.Proofs.Lenient.Fields
import MessageTemplate.Proofs.Lenient.Salvage
import MessageTemplate.Proofs.Service.Validation
import MessageTemplate.Proofs.Validation.Review
import MessageTemplate.Proofs.Lenient.Apart
import MessageTemplate.Proofs.Validation.Locality
import MessageTemplate.Proofs.Edit.WellTyped
import MessageTemplate.Proofs.Template.RoundTrip
import MessageTemplate.Proofs.Validation.Admissible
import MessageTemplate.Proofs.Component.WellFormed
import MessageTemplate.Proofs.Preview.Slots
import MessageTemplate.Proofs.Preview.Kept
import MessageTemplate.Proofs.Component.Resending
import MessageTemplate.Proofs.Dashboard.Echo
import MessageTemplate.Proofs.Dashboard.ErrorStatus
import MessageTemplate.Proofs.Component.NamedSamples
import MessageTemplate.Proofs.Dashboard.Reading
import MessageTemplate.Proofs.Dashboard.HandIn
import MessageTemplate.Proofs.Dashboard.Transport
import MessageTemplate.Proofs.Span.NormalForm
import MessageTemplate.Proofs.Template.Shown
import MessageTemplate.Proofs.Template.StrictReading
import MessageTemplate.Proofs.Service.Components
import MessageTemplate.Proofs.Dashboard.Conversation
import MessageTemplate.Proofs.Variable.Ordinals
import MessageTemplate.Proofs.Variable.Occurrences
import MessageTemplate.Proofs.Variable.Positional
import MessageTemplate.Proofs.Span.Marks
import MessageTemplate.Proofs.Span.Maximal
import MessageTemplate.Proofs.Span.Markup
import MessageTemplate.Proofs.Variable.Appending
import MessageTemplate.Proofs.Edit.Insertion
import MessageTemplate.Proofs.Validation.Content
import MessageTemplate.Proofs.Validation.Buttons
import MessageTemplate.Proofs.Validation.Details
import MessageTemplate.Proofs.Edit.Place
import MessageTemplate.Proofs.Edit.Placing
import MessageTemplate.Proofs.Edit.Effect
import MessageTemplate.Proofs.Edit.Path
import MessageTemplate.Proofs.Edit.Independence
import MessageTemplate.Proofs.Component.Spelling
import MessageTemplate.Proofs.Lenient.Misfits
import MessageTemplate.Proofs.Lenient.Dues
import MessageTemplate.Proofs.Lenient.Reported
import MessageTemplate.Proofs.Component.LastOfKind
import MessageTemplate.Proofs.Validation.Addressed
import MessageTemplate.Proofs.Validation.Gap
import MessageTemplate.Proofs.Validation.Positions
import MessageTemplate.Proofs.Edit.Buttons
import MessageTemplate.Proofs.Editor.ButtonLimit
import MessageTemplate.Proofs.Data.TakenOut
import MessageTemplate.Proofs.Data.Dropping
import MessageTemplate.Proofs.Text.MemberName
import MessageTemplate.Proofs.Data.DottedName
import MessageTemplate.Proofs.Validation.FieldPath
