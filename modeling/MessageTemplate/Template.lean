import MessageTemplate.Data.Equality
import MessageTemplate.Variable

/-!
# Message templates

Model of the classes of `schemas.templates`: `TemplateCategory`, `HeaderFormat`, `ButtonType`
(`ButtonKind`), `Header`, `Body`, `Footer`, `Button`, `ButtonSet` and `Template`, with
`SUPPORTED_LANGUAGES` (`languages`). The fields `format` and `type` are `format` and `kind`;
`_header`, `_footer` and `_buttons` of `builder.model` are `headerOrDefault`, `footerOrDefault`
and `buttonsOrDefault`.

* `Template` — a template under construction: details, optional header, body, optional footer,
  optional set of buttons;
* `Category`, `HeaderFormat`, `ButtonKind` — the words that the platform knows; the fields of a
  template hold any text, so that a draft may hold a wrong one;
* `Identifier` — what a stored template is known by;
* `languages` — the language codes that the platform supports.
-/

set_option autoImplicit false

namespace MessageTemplate

/-! ## Words of the platform -/

/-- What a template is for. -/
inductive Category where
  | marketing
  | utility
  | authentication
  deriving DecidableEq, Repr, Inhabited

namespace Category

/-- The word for a category. -/
def word : Category → String
  | .marketing => "MARKETING"
  | .utility => "UTILITY"
  | .authentication => "AUTHENTICATION"

/-- The word as it begins a sentence. -/
def title : Category → String
  | .marketing => "Marketing"
  | .utility => "Utility"
  | .authentication => "Authentication"

/-- All categories. -/
def all : List Category := [.marketing, .utility, .authentication]

/-- The category of a word. -/
def ofWord? (s : String) : Option Category := all.find? fun c => c.word == s

theorem ofWord?_eq_some_iff {s : String} {c : Category} : ofWord? s = some c ↔ s = c.word := by
  constructor
  · intro h
    have hp := List.find?_some h
    exact (beq_iff_eq.mp hp).symm
  · rintro rfl
    cases c <;> decide

end Category

/-- What the header of a message shows. -/
inductive HeaderFormat where
  | text
  | image
  | video
  | document
  deriving DecidableEq, Repr, Inhabited

namespace HeaderFormat

/-- The word for a format. -/
def word : HeaderFormat → String
  | .text => "TEXT"
  | .image => "IMAGE"
  | .video => "VIDEO"
  | .document => "DOCUMENT"

/-- The noun for what the format shows. -/
def noun : HeaderFormat → String
  | .text => "text"
  | .image => "image"
  | .video => "video"
  | .document => "document"

/-- All formats. -/
def all : List HeaderFormat := [.text, .image, .video, .document]

/-- The format of a word. -/
def ofWord? (s : String) : Option HeaderFormat := all.find? fun f => f.word == s

theorem ofWord?_eq_some_iff {s : String} {f : HeaderFormat} : ofWord? s = some f ↔ s = f.word := by
  constructor
  · intro h
    have hp := List.find?_some h
    exact (beq_iff_eq.mp hp).symm
  · rintro rfl
    cases f <;> decide

end HeaderFormat

/-- What a button does. -/
inductive ButtonKind where
  | quickReply
  | url
  | phoneNumber
  | copyCode
  deriving DecidableEq, Repr, Inhabited

namespace ButtonKind

/-- The word for a kind. -/
def word : ButtonKind → String
  | .quickReply => "QUICK_REPLY"
  | .url => "URL"
  | .phoneNumber => "PHONE_NUMBER"
  | .copyCode => "COPY_CODE"

/-- All kinds. -/
def all : List ButtonKind := [.quickReply, .url, .phoneNumber, .copyCode]

/-- The kind of a word. -/
def ofWord? (s : String) : Option ButtonKind := all.find? fun k => k.word == s

theorem ofWord?_eq_some_iff {s : String} {k : ButtonKind} : ofWord? s = some k ↔ s = k.word := by
  constructor
  · intro h
    have hp := List.find?_some h
    exact (beq_iff_eq.mp hp).symm
  · rintro rfl
    cases k <;> decide

end ButtonKind

/-- The language codes that the platform supports. -/
def languages : List String :=
  ["en", "en_US", "en_GB", "es", "pt_BR", "hi", "ar", "fr", "de", "it", "id", "ms", "th", "vi",
   "zh_CN", "ja", "ko"]

/-! ## Identifiers -/

/-- What a stored template is known by: text, unless an editor took over another value. -/
inductive Identifier where
  | text (s : String)
  | other (d : Data)
  deriving DecidableEq, Repr, Inhabited

namespace Identifier

/-- The identifier that a value is; null is none. -/
def ofData? : Data → Option Identifier
  | .null => none
  | .str s => some (.text s)
  | d => some (.other d)

/-- An identifier as a value. -/
def toData : Identifier → Data
  | .text s => .str s
  | .other d => d

end Identifier

/-- An identifier as a value, or null for none. -/
def Data.ofIdentifier? : Option Identifier → Data
  | some i => i.toData
  | none => .null

/-! ## Parts of a template -/

/-- The header: a short text line or a media attachment. -/
structure Header where
  enabled : Bool := false
  format : String := HeaderFormat.text.word
  text : String := ""
  /-- A sample value for the variable of the text. -/
  sample : Option String := none
  mediaUrl : Option String := none
  mediaHandle : Option String := none
  filename : Option String := none
  deriving DecidableEq, Repr, Inhabited

/-- The main text, with one sample value for each variable slot. -/
structure Body where
  text : String := ""
  samples : List String := []
  deriving DecidableEq, Repr, Inhabited

/-- A line below the main text. -/
structure Footer where
  enabled : Bool := false
  text : String := ""
  deriving DecidableEq, Repr, Inhabited

/-- A button. Its kind and its text are there from the beginning, but an edit may take them
away. -/
structure Button where
  kind : Option String := some ButtonKind.quickReply.word
  text : Option String := some ""
  url : Option String := none
  phoneNumber : Option String := none
  /-- A sample code for buttons that copy one. -/
  sample : Option String := none
  deriving DecidableEq, Repr, Inhabited

/-- The buttons, which are shown together or not at all. -/
structure ButtonSet where
  enabled : Bool := false
  items : List Button := []
  deriving DecidableEq, Repr, Inhabited

/-- A template. -/
structure Template where
  /-- The remote identifier, once the draft is saved. -/
  id : Option Identifier := none
  name : String := ""
  language : String := ""
  category : String := ""
  header : Option Header := none
  body : Body := {}
  footer : Option Footer := none
  buttons : Option ButtonSet := none
  deriving DecidableEq, Repr, Inhabited

namespace Button

/-- A button whose kind and text are there. -/
def WellTyped (b : Button) : Prop := b.kind.isSome ∧ b.text.isSome

instance (b : Button) : Decidable b.WellTyped := inferInstanceAs (Decidable (_ ∧ _))

/-- The kind of a button, if it is one that the platform knows. -/
def kind? (b : Button) : Option ButtonKind := b.kind.bind ButtonKind.ofWord?

end Button

namespace Header

/-- The format of a header, if it is one that the platform knows. -/
def format? (h : Header) : Option HeaderFormat := HeaderFormat.ofWord? h.format

end Header

namespace Template

/-- A template whose identifier is text, and all of whose buttons have a kind and a text. -/
def WellTyped (t : Template) : Prop :=
  (∀ i ∈ t.id, ∃ s, i = .text s) ∧ ∀ set ∈ t.buttons, ∀ b ∈ set.items, b.WellTyped

/-- Whether the template has a remote identifier. -/
def isPersisted (t : Template) : Bool := t.id.isSome

/-- The header, or the default where there is none. -/
def headerOrDefault (t : Template) : Header := t.header.getD {}

/-- The footer, or the default where there is none. -/
def footerOrDefault (t : Template) : Footer := t.footer.getD {}

/-- The buttons, or the default where there are none. -/
def buttonsOrDefault (t : Template) : ButtonSet := t.buttons.getD {}

end Template

end MessageTemplate
