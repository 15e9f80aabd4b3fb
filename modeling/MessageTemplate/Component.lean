import MessageTemplate.Rules.Content

/-!
# Components of a submission

Model of `build_header`, `build_body`, `build_footer`, `build_button`, `build_buttons`,
`build_components` and `build_submission` of `whatsapp.components` (`Header.component?`,
`Body.component`, `Footer.component?`, `Button.entry`, `ButtonSet.component?`,
`Template.components`, `Template.submission`) and of `TemplateSubmission` of `schemas.templates`
(`Submission`).

* `Template.components` — the parts of a template as the platform takes them: header, body,
  footer and buttons in this order, without the parts that are off;
* `Submission`, `Template.submission` — what is sent to the platform.
-/

set_option autoImplicit false

namespace MessageTemplate

/-- The word for a component. -/
inductive ComponentKind where
  | header
  | body
  | footer
  | buttons
  deriving DecidableEq, Repr, Inhabited

namespace ComponentKind

/-- The word for a component. -/
def word : ComponentKind → String
  | .header => "HEADER"
  | .body => "BODY"
  | .footer => "FOOTER"
  | .buttons => "BUTTONS"

/-- All kinds, in the order in which they are sent. -/
def all : List ComponentKind := [.header, .body, .footer, .buttons]

end ComponentKind

/-- A component with its word and its other members. -/
def component (k : ComponentKind) (ms : Members) : Data :=
  .object (("type", .str k.word) :: ms)

namespace Header

/-- The sample of a text header, which is sent only if the text has a variable. -/
def textSample (h : Header) : Members :=
  match given? h.sample with
  | some sample =>
    if Variable.occurs h.text then
      [("example", .object [("header_text", .list [.str sample])])]
    else []
  | none => []

/-- The sample of a media header: the handle, or else the address. -/
def mediaSample (h : Header) : Members :=
  match (given? h.mediaHandle).or (given? h.mediaUrl) with
  | some sample => [("example", .object [("header_handle", .list [.str sample])])]
  | none => []

/-- What a header sends beside its format. -/
def content (h : Header) : Members :=
  match h.format? with
  | some .text => ("text", .str h.text) :: h.textSample
  | some _ => h.mediaSample
  | none => []

/-- The component of a header that is on. -/
def component? (h : Header) : Option Data :=
  if h.enabled then some (component .header (("format", .str h.format) :: h.content)) else none

end Header

namespace Body

/-- The samples of a body, which are sent only if the text has a variable. -/
def sampleMembers (b : Body) : Members :=
  if Variable.occurs b.text && !b.samples.isEmpty then
    [("example", .object [("body_text", .list [.list (b.samples.map .str)])])]
  else []

/-- The component of a body. -/
def component (b : Body) : Data :=
  MessageTemplate.component .body (("text", .str b.text) :: b.sampleMembers)

end Body

namespace Footer

/-- The component of a footer that is on and has a text. -/
def component? (f : Footer) : Option Data :=
  if f.enabled && !f.text.isEmpty then some (component .footer [("text", .str f.text)]) else none

end Footer

namespace Button

/-- What a button sends beside its kind and its text. -/
def action (b : Button) : Members :=
  match b.kind? with
  | some .url => [("url", .ofText? b.url)]
  | some .phoneNumber => [("phone_number", .ofText? b.phoneNumber)]
  | some .copyCode =>
    match given? b.sample with
    | some sample => [("example", .str sample)]
    | none => []
  | _ => []

/-- A button as it is sent. -/
def entry (b : Button) : Data :=
  .object ([("type", .ofText? b.kind), ("text", .ofText? b.text)] ++ b.action)

end Button

namespace ButtonSet

/-- The component of buttons that are on. -/
def component? (set : ButtonSet) : Option Data :=
  if set.enabled && !set.items.isEmpty then
    some (component .buttons [("buttons", .list (set.items.map Button.entry))])
  else none

end ButtonSet

/-- What is sent to the platform. -/
structure Submission where
  name : String
  language : String
  category : String
  components : List Data
  deriving Repr, Inhabited

namespace Submission

/-- A submission as a value. -/
def toData (s : Submission) : Data :=
  .object [("name", .str s.name), ("language", .str s.language), ("category", .str s.category),
    ("components", .list s.components)]

end Submission

namespace Template

/-- The components of a template. -/
def components (t : Template) : List Data :=
  (t.header.bind Header.component?).toList ++ [t.body.component] ++
    (t.footer.bind Footer.component?).toList ++ (t.buttons.bind ButtonSet.component?).toList

/-- The submission of a template. -/
def submission (t : Template) : Submission :=
  ⟨t.name, t.language, t.category, t.components⟩

end Template

end MessageTemplate
