import MessageTemplate.Template

/-!
# Writing templates

Model of `to_json` of `Template` (the rendering `exchanged`) and of the dump of its fields under
their own names (`stored`), with the computed fields `variables` and `variable_count` of `Body`,
in `schemas.templates`.

* `Template.toData` — a template as a value, in one of two renderings: `exchanged` has member
  names without underscores and leaves null members out, `stored` has names with underscores and
  keeps them.

A written body says which ordinals its text uses and how many they are, so a text with an
overlong numeral cannot be written.
-/

set_option autoImplicit false

namespace MessageTemplate

/-- How a template is written as a value. -/
inductive Rendering where
  /-- Names without underscores, null members left out. -/
  | exchanged
  /-- Names with underscores, null members kept. -/
  | stored
  deriving DecidableEq, Repr, Inhabited

namespace Rendering

/-- The spelling of a name that has two words. -/
def name (r : Rendering) (joined separated : String) : String :=
  match r with
  | .exchanged => joined
  | .stored => separated

/-- An object of the members that the rendering keeps. -/
def object (r : Rendering) (ms : Members) : Data :=
  match r with
  | .exchanged => .object (Members.withoutNulls ms)
  | .stored => .object ms

end Rendering

/-- A header as a value. -/
def Header.toData (r : Rendering) (h : Header) : Data :=
  r.object
    [("enabled", .bool h.enabled), ("format", .str h.format), ("text", .str h.text),
     ("example", .ofText? h.sample), (r.name "mediaUrl" "media_url", .ofText? h.mediaUrl),
     (r.name "mediaHandle" "media_handle", .ofText? h.mediaHandle),
     ("filename", .ofText? h.filename)]

/-- A body as a value, given the ordinals of its text. -/
def Body.toDataWith (r : Rendering) (b : Body) (ordinals : List Nat) : Data :=
  r.object
    [("text", .str b.text), ("examples", .list (b.samples.map .str)),
     ("variables", .list (ordinals.map Data.ofNat)),
     (r.name "variableCount" "variable_count", .ofNat ordinals.length)]

/-- A body as a value. -/
def Body.toData (r : Rendering) (b : Body) : Except Failure Data :=
  match Variable.ordinals b.text with
  | .ok ordinals => .ok (b.toDataWith r ordinals)
  | .error e => .error (.numeral e)

/-- A footer as a value. -/
def Footer.toData (r : Rendering) (f : Footer) : Data :=
  r.object [("enabled", .bool f.enabled), ("text", .str f.text)]

/-- A button as a value. -/
def Button.toData (r : Rendering) (b : Button) : Data :=
  r.object
    [("type", .ofText? b.kind), ("text", .ofText? b.text), ("url", .ofText? b.url),
     (r.name "phoneNumber" "phone_number", .ofText? b.phoneNumber),
     ("example", .ofText? b.sample)]

/-- A set of buttons as a value. -/
def ButtonSet.toData (r : Rendering) (set : ButtonSet) : Data :=
  r.object
    [("enabled", .bool set.enabled), ("items", .list (set.items.map (Button.toData r)))]

/-- A part that may be missing, as a value. -/
def Data.ofPart? {α : Type} (write : α → Data) : Option α → Data
  | some a => write a
  | none => .null

namespace Template

/-- A template as a value, given the value of its body. -/
def toDataWith (r : Rendering) (t : Template) (body : Data) : Data :=
  r.object
    [("id", .ofIdentifier? t.id), ("name", .str t.name), ("language", .str t.language),
     ("category", .str t.category), ("header", .ofPart? (Header.toData r) t.header),
     ("body", body), ("footer", .ofPart? (Footer.toData r) t.footer),
     ("buttons", .ofPart? (ButtonSet.toData r) t.buttons)]

/-- A template as a value. -/
def toData (r : Rendering) (t : Template) : Except Failure Data :=
  match t.body.toData r with
  | .ok body => .ok (t.toDataWith r body)
  | .error e => .error e

end Template

end MessageTemplate
