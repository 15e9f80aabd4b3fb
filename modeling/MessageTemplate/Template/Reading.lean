import MessageTemplate.Template
import MessageTemplate.Schema.Reading

/-!
# Reading templates

Model of the validation of `Template` and its parts of `schemas.templates`, with `drop_nulls` of
`TemplatePart` (`Members.withoutNulls`).

* `Template.read` — a template from a dynamic value, with every fault of the value.

Members that are null count as absent, unknown members are passed over, and a member whose name
has two words is found in both spellings, without underscores first. What is said of a value that
should be an object and is none depends on who asks, so it is a parameter of the readers.
-/

set_option autoImplicit false

namespace MessageTemplate

/-- What is said of a value that should be an object to be read as the named part. -/
abbrev Complaint := String → Mismatch

namespace Read

/-- A part of a template: an object, of which the members that are not null count. -/
def part {α : Type} (complaint : Complaint) (name : String) (read : Members → Reading α) :
    Data → Reading α
  | .object ms => read (Members.withoutNulls ms)
  | _ => .mismatch (complaint name)

/-- A part that may be missing. -/
def optionalPart {α : Type} (ms : Members) (name : String) (read : Data → Reading α) :
    Reading (Option α) :=
  field ms [name] none fun d => (read d).map some

end Read

namespace Header

/-- The members of a header. -/
def readMembers (ms : Members) : Reading Header :=
  ((((((((Reading.value Header.mk).ap
    (Read.field ms ["enabled"] false Read.truth)).ap
    (Read.field ms ["format"] HeaderFormat.text.word Read.text)).ap
    (Read.field ms ["text"] "" Read.text)).ap
    (Read.field ms ["example"] none (Read.optional Read.text))).ap
    (Read.field ms ["mediaUrl", "media_url"] none (Read.optional Read.text))).ap
    (Read.field ms ["mediaHandle", "media_handle"] none (Read.optional Read.text))).ap
    (Read.field ms ["filename"] none (Read.optional Read.text)))

/-- Reads a header. -/
def read (complaint : Complaint) : Data → Reading Header :=
  Read.part complaint "Header" readMembers

end Header

namespace Body

/-- The members of a body. -/
def readMembers (ms : Members) : Reading Body :=
  ((Reading.value Body.mk).ap
    (Read.field ms ["text"] "" Read.text)).ap
    (Read.field ms ["examples"] [] (Read.list Read.text))

/-- Reads a body. -/
def read (complaint : Complaint) : Data → Reading Body :=
  Read.part complaint "Body" readMembers

end Body

namespace Footer

/-- The members of a footer. -/
def readMembers (ms : Members) : Reading Footer :=
  ((Reading.value Footer.mk).ap
    (Read.field ms ["enabled"] false Read.truth)).ap
    (Read.field ms ["text"] "" Read.text)

/-- Reads a footer. -/
def read (complaint : Complaint) : Data → Reading Footer :=
  Read.part complaint "Footer" readMembers

end Footer

namespace Button

/-- Text that is there. -/
def readText (d : Data) : Reading (Option String) := (Read.text d).map some

/-- The members of a button. -/
def readMembers (ms : Members) : Reading Button :=
  (((((Reading.value Button.mk).ap
    (Read.field ms ["type"] (some ButtonKind.quickReply.word) readText)).ap
    (Read.field ms ["text"] (some "") readText)).ap
    (Read.field ms ["url"] none (Read.optional Read.text))).ap
    (Read.field ms ["phoneNumber", "phone_number"] none (Read.optional Read.text))).ap
    (Read.field ms ["example"] none (Read.optional Read.text))

/-- Reads a button. -/
def read (complaint : Complaint) : Data → Reading Button :=
  Read.part complaint "Button" readMembers

end Button

namespace ButtonSet

/-- The members of a set of buttons. -/
def readMembers (complaint : Complaint) (ms : Members) : Reading ButtonSet :=
  ((Reading.value ButtonSet.mk).ap
    (Read.field ms ["enabled"] false Read.truth)).ap
    (Read.field ms ["items"] [] (Read.list (Button.read complaint)))

/-- Reads a set of buttons. -/
def read (complaint : Complaint) : Data → Reading ButtonSet :=
  Read.part complaint "ButtonSet" (readMembers complaint)

end ButtonSet

namespace Template

/-- The members of a template. -/
def readMembers (complaint : Complaint) (ms : Members) : Reading Template :=
  ((((((((Reading.value Template.mk).ap
    (Read.field ms ["id"] none (Read.optional fun d => (Read.text d).map .text))).ap
    (Read.field ms ["name"] "" Read.text)).ap
    (Read.field ms ["language"] "" Read.text)).ap
    (Read.field ms ["category"] "" Read.text)).ap
    (Read.optionalPart ms "header" (Header.read complaint))).ap
    (Read.field ms ["body"] {} (Body.read complaint))).ap
    (Read.optionalPart ms "footer" (Footer.read complaint))).ap
    (Read.optionalPart ms "buttons" (ButtonSet.read complaint))

/-- Reads a template, with the given complaint about values that should be objects. -/
def readWith (complaint : Complaint) : Data → Reading Template :=
  Read.part complaint "Template" (readMembers complaint)

/-- Reads a template. -/
def read : Data → Reading Template :=
  readWith .noPart

end Template

end MessageTemplate
