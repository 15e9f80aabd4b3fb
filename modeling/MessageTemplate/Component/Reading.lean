import MessageTemplate.Component
import MessageTemplate.Template.Reading

/-!
# Reading components

Model of `_parse_header`, `_parse_body`, `_parse_button`, `parse_components` and
`parse_submission` of `whatsapp.components` (`Header.ofComponent`, `Body.ofComponent`,
`Button.ofEntry`, `Template.ofComponents`, `Template.ofSubmission`) and of the validation of
`TemplateSubmission`.

* `Template.ofComponents` — the template that a list of components describes; parts that are not
  in the list come back off, and of two components of one kind the later one counts;
* `Submission.read`, `Template.ofSubmission` — the same for a whole submission.

Components come from outside and may be any values, so reading them fails in several ways: an
entry may have no named parts, a sample may be of a kind that has no entries, a field may be
ill-typed.
-/

set_option autoImplicit false

namespace MessageTemplate

namespace Data

/-- The members of a value that must have named parts. -/
def parts : Data → Except Failure Members
  | .object ms => .ok ms
  | _ => .error .noParts

/-- The entries of a value that is gone through: of a list, the characters of a text, the names
of an object. -/
def entries : Data → Except Failure (List Data)
  | .list items => .ok items
  | .str s => .ok (s.toList.map fun c => .str (String.singleton c))
  | .object ms => .ok (ms.map fun m => .str m.1)
  | _ => .error .wrongKind

/-- The first entry of a list or the first character of a text. -/
def first : Data → Except Failure Data
  | .list (d :: _) => .ok d
  | .list [] => .error .noEntry
  | .str s =>
    match s.toList with
    | c :: _ => .ok (.str (String.singleton c))
    | [] => .error .noEntry
  | .object _ => .error .noMember
  | _ => .error .wrongKind

end Data

namespace Members

/-- The value of a member, or the default where it has none. -/
def getD (ms : Members) (name : String) (default : Data) : Data :=
  (Members.get? ms name).getD default

/-- The value of a member, unless it counts as not given. -/
def given? (ms : Members) (name : String) : Option Data :=
  (Members.get? ms name).filter fun d => !d.isEmptyish

end Members

/-- The result of a reading as the result of an operation. -/
def Reading.result {α : Type} : Reading α → Except Failure α
  | .value a => .ok a
  | .faulty faults => .error (.faulty faults)

/-- The member of the sample object of a component; nothing where none is given. -/
def sampleOf? (ms : Members) (name : String) : Except Failure (Option Data) :=
  match Members.given? ms "example" with
  | none => .ok none
  | some sample =>
    match sample.parts with
    | .ok parts => .ok (Members.given? parts name)
    | .error e => .error e

/-- The first of the samples under a name, or null. -/
def firstSample (ms : Members) (name : String) : Except Failure Data :=
  match sampleOf? ms name with
  | .error e => .error e
  | .ok none => .ok .null
  | .ok (some samples) => samples.first

namespace Header

/-- Whether a media sample is an address and no handle. -/
def isAddress (sample : Data) : Bool :=
  match sample with
  | .str s => "https://".toList.isPrefixOf s.toList || "http://".toList.isPrefixOf s.toList
  | _ => false

/-- A header from the members of its component. -/
def ofComponent (ms : Members) : Except Failure Header :=
  let format := Members.getD ms "format" (.str HeaderFormat.text.word)
  if format.str? = some HeaderFormat.text.word then
    match firstSample ms "header_text" with
    | .error e => .error e
    | .ok sample =>
      (Header.read .noPart (.object
        [("enabled", .bool true), ("format", format), ("text", Members.getD ms "text" (.str "")),
         ("example", sample)])).result
  else
    match firstSample ms "header_handle" with
    | .error e => .error e
    | .ok sample =>
      let slot := if isAddress sample then "media_url" else "media_handle"
      (Header.read .noPart (.object
        [("enabled", .bool true), ("format", format), (slot, sample)])).result

end Header

namespace Body

/-- The texts of the first row of samples. -/
def samplesOf (ms : Members) : Except Failure (List Data) :=
  match sampleOf? ms "body_text" with
  | .error e => .error e
  | .ok none => .ok []
  | .ok (some rows) =>
    match rows.first with
    | .error e => .error e
    | .ok row =>
      match row.entries with
      | .error e => .error e
      | .ok entries => .ok (entries.map fun d => .str d.text)

/-- A body from the members of its component. -/
def ofComponent (ms : Members) : Except Failure Body :=
  match samplesOf ms with
  | .error e => .error e
  | .ok samples =>
    (Body.read .noPart (.object
      [("text", Members.getD ms "text" (.str "")), ("examples", .list samples)])).result

end Body

namespace Footer

/-- A footer from the members of its component. -/
def ofComponent (ms : Members) : Except Failure Footer :=
  (Footer.read .noPart (.object
    [("enabled", .bool true), ("text", Members.getD ms "text" (.str ""))])).result

end Footer

namespace Button

/-- The sample of a button; of a list of samples the first counts. -/
def sampleData (ms : Members) : Data :=
  match Members.getD ms "example" .null with
  | .list (d :: _) => d
  | .list [] => .null
  | d => d

/-- A button from its entry. -/
def ofEntry (d : Data) : Except Failure Button :=
  match d.parts with
  | .error e => .error e
  | .ok ms =>
    (Button.read .noPart (.object
      [("type", Members.getD ms "type" (.str ButtonKind.quickReply.word)),
       ("text", Members.getD ms "text" (.str "")), ("url", Members.getD ms "url" .null),
       ("phone_number", Members.getD ms "phone_number" .null),
       ("example", sampleData ms)])).result

/-- Buttons from their entries, up to the first that fails. -/
def ofEntries : List Data → Except Failure (List Button)
  | [] => .ok []
  | d :: rest =>
    match ofEntry d with
    | .error e => .error e
    | .ok b =>
      match ofEntries rest with
      | .error e => .error e
      | .ok bs => .ok (b :: bs)

end Button

namespace ButtonSet

/-- Buttons from the members of their component. -/
def ofComponent (ms : Members) : Except Failure ButtonSet :=
  match (Members.getD ms "buttons" (.list [])).entries with
  | .error e => .error e
  | .ok entries =>
    match Button.ofEntries entries with
    | .error e => .error e
    | .ok items => .ok ⟨!items.isEmpty, items⟩

end ButtonSet

/-- The parts of a template that components describe. -/
structure Parts where
  header : Header := {}
  body : Body := {}
  footer : Footer := {}
  buttons : ButtonSet := {}
  deriving DecidableEq, Repr, Inhabited

namespace Parts

/-- A capital letter for each letter that has a plain one. The long s counts as an s. -/
def capital (c : Char) : Char :=
  if c = 'ſ' then 'S' else c.toUpper

/-- The kind of a component, whose word may be written in any case. -/
def kindOf? (ms : Members) : Option ComponentKind :=
  let word := String.ofList ((Members.getD ms "type" (.str "")).text.toList.map capital)
  ComponentKind.all.find? fun k => k.word == word

/-- The parts after one more component; a component of no known kind changes nothing. -/
def add (p : Parts) (d : Data) : Except Failure Parts :=
  match d.parts with
  | .error e => .error e
  | .ok ms =>
    match kindOf? ms with
    | some .header => (Header.ofComponent ms).map fun h => { p with header := h }
    | some .body => (Body.ofComponent ms).map fun b => { p with body := b }
    | some .footer => (Footer.ofComponent ms).map fun f => { p with footer := f }
    | some .buttons => (ButtonSet.ofComponent ms).map fun bs => { p with buttons := bs }
    | none => .ok p

/-- The parts after a list of components. -/
def addAll (p : Parts) : List Data → Except Failure Parts
  | [] => .ok p
  | d :: rest =>
    match p.add d with
    | .error e => .error e
    | .ok p => addAll p rest

end Parts

/-- The details of a template as they come with its components. -/
structure DetailData where
  name : Data := .str ""
  language : Data := .str ""
  category : Data := .str ""
  id : Data := .null
  deriving Repr, Inhabited

namespace Template

/-- A template without parts from its details. -/
def ofDetails (details : DetailData) : Except Failure Template :=
  (Template.read (.object
    [("id", details.id), ("name", details.name), ("language", details.language),
     ("category", details.category)])).result

/-- The template that components describe. -/
def ofComponents (components : Data) (details : DetailData := {}) : Except Failure Template :=
  match components.entries with
  | .error e => .error e
  | .ok entries =>
    match ({} : Parts).addAll entries with
    | .error e => .error e
    | .ok p =>
      match ofDetails details with
      | .error e => .error e
      | .ok t =>
        .ok { t with header := some p.header, body := p.body, footer := some p.footer,
                     buttons := some p.buttons }

/-- The template that a submission describes. -/
def ofSubmission (s : Submission) : Except Failure Template :=
  ofComponents (.list s.components)
    { name := .str s.name, language := .str s.language, category := .str s.category }

end Template

namespace Submission

/-- A component of a submission: any object. -/
def readComponent (d : Data) : Reading Data :=
  (Read.dictionary d).map .object

/-- Reads a submission. -/
def read : Data → Reading Submission
  | .object ms =>
    ((((Reading.value Submission.mk).ap
      (Read.required ms "name" Read.text)).ap
      (Read.required ms "language" Read.text)).ap
      (Read.required ms "category" Read.text)).ap
      (Read.required ms "components" (Read.list readComponent))
  | _ => .mismatch (.noPart "TemplateSubmission")

end Submission

end MessageTemplate
