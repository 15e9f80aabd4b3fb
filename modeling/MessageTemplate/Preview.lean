import MessageTemplate.Rules.Content
import MessageTemplate.Span
import MessageTemplate.Template.Reading

/-!
# Previews

Model of `compose`, `compose_header` and `_header_values` of `builder.preview`
(`Template.preview`, `Header.preview`, `Header.valuesFor`) and of the classes of
`schemas.preview`: `MessagePreview` (`Preview`), `HeaderPreview`, `BodyPreview` and
`FooterPreview` (both `TextPreview`), `ButtonPreview` and `PreviewValues` (`LiveValues`).

* `Preview` — the message that a template gives: header, body, footer and buttons, their texts
  filled in and split into styled spans;
* `LiveValues` — values to fill in; the samples of the template stand in for values not given;
* `Template.preview` — the preview of a template, which may be incomplete.
-/

set_option autoImplicit false

namespace MessageTemplate

/-- A header as it is shown. -/
structure HeaderPreview where
  format : String
  text : Option String := none
  spans : List Span := []
  mediaUrl : Option String := none
  filename : Option String := none
  /-- Whether a stand-in is shown for media without an address. -/
  placeholder : Bool := false
  deriving DecidableEq, Repr, Inhabited

/-- A text as it is shown. -/
structure TextPreview where
  text : String
  spans : List Span
  deriving DecidableEq, Repr, Inhabited

/-- A button as it is shown. -/
structure ButtonPreview where
  kind : String
  text : String
  url : Option String
  phoneNumber : Option String
  sample : Option String
  deriving DecidableEq, Repr, Inhabited

/-- A message as it is shown. -/
structure Preview where
  header : Option HeaderPreview
  body : TextPreview
  footer : Option TextPreview
  buttons : List ButtonPreview
  deriving DecidableEq, Repr, Inhabited

/-- Values to fill in instead of the samples of the template. -/
structure LiveValues where
  header : Option (List String) := none
  body : Option (List String) := none
  deriving DecidableEq, Repr, Inhabited

namespace LiveValues

/-- Reads live values. -/
def read (complaint : Complaint) : Data → Reading LiveValues
  | .object ms =>
    ((Reading.value LiveValues.mk).ap
      (Read.field ms ["header"] none (Read.optional (Read.list Read.text)))).ap
      (Read.field ms ["body"] none (Read.optional (Read.list Read.text)))
  | _ => .mismatch (complaint "PreviewValues")

end LiveValues

/-- The name of a document without one. -/
def unnamedDocument : String := "document.pdf"

namespace TextPreview

/-- A text with its spans. -/
def ofText (text : String) : TextPreview := ⟨text, Span.ofText text⟩

end TextPreview

namespace Header

/-- The values for the variable of a header text. -/
def valuesFor (h : Header) (values : Option LiveValues) : List String :=
  match values.bind LiveValues.header with
  | some live => live
  | none => (given? h.sample).toList

/-- A text header as it is shown; without text there is nothing to show. -/
def textPreview (h : Header) (values : Option LiveValues) : Option HeaderPreview :=
  if h.text.isEmpty then none
  else
    let text := Variable.substitute h.text (h.valuesFor values)
    some { format := h.format, text := some text, spans := Span.ofText text }

/-- A media header as it is shown. -/
def mediaPreview (h : Header) (format : HeaderFormat) : HeaderPreview :=
  { format := h.format
    mediaUrl := h.mediaUrl
    filename :=
      if format = .document && (given? h.filename).isNone then some unnamedDocument
      else h.filename
    placeholder := (given? h.mediaUrl).isNone }

/-- A header as it is shown, unless it is off or of no known format. -/
def preview (values : Option LiveValues) (h : Header) : Option HeaderPreview :=
  if !h.enabled then none
  else
    match h.format? with
    | some .text => h.textPreview values
    | some format => some (h.mediaPreview format)
    | none => none

end Header

namespace Body

/-- A body as it is shown. -/
def preview (values : Option LiveValues) (b : Body) : TextPreview :=
  .ofText (Variable.substitute b.text ((values.bind LiveValues.body).getD b.samples))

end Body

namespace Footer

/-- A footer as it is shown, unless it is off or empty. -/
def preview (f : Footer) : Option TextPreview :=
  if f.enabled && !f.text.isEmpty then some (.ofText f.text) else none

end Footer

namespace Button

/-- The text that a button must have under a member name. -/
def needed (name : String) (s : Option String) : Reading String :=
  match s with
  | some s => .value s
  | none => .faulty [⟨[.name name], .noText⟩]

/-- A button as it is shown; it needs a kind and a text. -/
def preview (b : Button) : Reading ButtonPreview :=
  ((Reading.value fun kind text => ButtonPreview.mk kind text b.url b.phoneNumber b.sample).ap
    (needed "type" b.kind)).ap (needed "text" b.text)

/-- Buttons as they are shown; the first one that cannot be shown decides. -/
def previewAll : List Button → Except Failure (List ButtonPreview)
  | [] => .ok []
  | b :: rest =>
    match b.preview with
    | .faulty faults => .error (.faulty faults)
    | .value p =>
      match previewAll rest with
      | .error e => .error e
      | .ok ps => .ok (p :: ps)

end Button

namespace Template

/-- The buttons that a template shows. -/
def shownButtons (t : Template) : List Button :=
  match t.buttons with
  | some set => if set.enabled then set.items else []
  | none => []

/-- The preview of a template. -/
def preview (t : Template) (values : Option LiveValues := none) : Except Failure Preview :=
  match Button.previewAll t.shownButtons with
  | .error e => .error e
  | .ok buttons =>
    .ok
      { header := t.header.bind (Header.preview values)
        body := t.body.preview values
        footer := t.footer.bind Footer.preview
        buttons := buttons }

end Template

/-! ## Values -/

/-- How much of a preview is written. -/
inductive Fullness where
  /-- Null members are kept. -/
  | full
  /-- Null members are left out. -/
  | sparse
  deriving DecidableEq, Repr, Inhabited

namespace Fullness

/-- An object of the members that are kept. -/
def object (f : Fullness) (ms : Members) : Data :=
  match f with
  | .full => .object ms
  | .sparse => .object (Members.withoutNulls ms)

end Fullness

/-- A span as part of a preview. -/
def Span.toPreviewData (f : Fullness) (s : Span) : Data :=
  f.object [("text", .str s.text), ("style", .ofText? (s.style.map Style.name))]

/-- A header as part of a preview. -/
def HeaderPreview.toData (f : Fullness) (h : HeaderPreview) : Data :=
  f.object
    [("format", .str h.format), ("text", .ofText? h.text),
     ("spans", .list (h.spans.map (Span.toPreviewData f))), ("mediaUrl", .ofText? h.mediaUrl),
     ("filename", .ofText? h.filename), ("placeholder", .bool h.placeholder)]

/-- A text as part of a preview. -/
def TextPreview.toData (f : Fullness) (t : TextPreview) : Data :=
  f.object [("text", .str t.text), ("spans", .list (t.spans.map (Span.toPreviewData f)))]

/-- A button as part of a preview. -/
def ButtonPreview.toData (f : Fullness) (b : ButtonPreview) : Data :=
  f.object
    [("type", .str b.kind), ("text", .str b.text), ("url", .ofText? b.url),
     ("phoneNumber", .ofText? b.phoneNumber), ("example", .ofText? b.sample)]

/-- A preview as a value. -/
def Preview.toData (f : Fullness) (p : Preview) : Data :=
  let part {α : Type} (write : α → Data) (a : Option α) : Data := (a.map write).getD .null
  f.object
    [("header", part (HeaderPreview.toData f) p.header), ("body", p.body.toData f),
     ("footer", part (TextPreview.toData f) p.footer),
     ("buttons", .list (p.buttons.map (ButtonPreview.toData f)))]

end MessageTemplate
