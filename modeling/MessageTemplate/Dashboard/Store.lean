import MessageTemplate.Component.Reading
import MessageTemplate.Dashboard
import MessageTemplate.Validation

/-!
# Templates on the dashboard

Model of `TemplateAPI` of `whatsapp.client`: `list_templates`, `get_template`, `save_draft`,
`submit` and `delete_template` are `templates`, `template`, `saveDraft`, `submit` and
`deleteTemplate`; `_template_from_response` is `Template.ofStored` and `_read_template` is
`readTemplate`.

* `Template.ofStored` — the template that a stored document describes;
* `Dashboard.templates`, `Dashboard.template` — the stored templates, or one of them;
* `Dashboard.saveDraft` — stores a draft, which need not be valid;
* `Dashboard.submit` — hands a valid template in for approval, and stores it before if it is not
  yet stored;
* `Dashboard.deleteTemplate` — deletes a stored template.
-/

set_option autoImplicit false

namespace MessageTemplate

/-! ## Stored documents -/

namespace Template

/-- The object that describes the template in a document: a member of it, or all of it. -/
def storedMembers (d : Data) : Except Failure Members :=
  match (d.get? "template").getD d with
  | .object ms => .ok ms
  | _ => .error (.faulty [⟨[], .noDictionary⟩])

/-- The identifier in a stored document, as text. -/
def storedId (ms : Members) : Option String :=
  match ((Members.get? ms "id").or (Members.get? ms "_id")).getD .null with
  | .null => none
  | d => some d.text

/-- The template that the members of a stored document describe, by its components or by its
parts. -/
def ofStoredMembers (ms : Members) : Except Failure Template :=
  let id := Data.ofText? (storedId ms)
  match Members.get? ms "components" with
  | some components =>
    ofComponents (if components.isEmptyish then .list [] else components)
      { name := Members.getD ms "name" (.str ""), language := Members.getD ms "language" (.str ""),
        category := Members.getD ms "category" (.str ""), id := id }
  | none => (Template.read (.object ((Members.erase ms "_id").set "id" id))).result

/-- The template that a stored document describes. -/
def ofStored (d : Data) : Except Failure Template :=
  match storedMembers d with
  | .ok ms => ofStoredMembers ms
  | .error e => .error e

end Template

/-- Whether a failure to read a document only says that the document holds no template. -/
def Failure.isUnreadable : Failure → Bool
  | .noMember | .noEntry | .tooDeep => false
  | _ => true

namespace Dashboard

/-- The template in the answer of an endpoint. -/
def readTemplate (endpoint : String) (d : Data) : Exchange Template := do
  match Template.ofStored d with
  | .ok t => return t
  | .error e =>
    if e.isUnreadable then
      Exchange.record (.exception "dashboard_invalid_template" [("endpoint", .str endpoint)])
      Exchange.refuse .invalidTemplate
    else Exchange.fail e

/-- The templates in the answer of an endpoint, up to the first that cannot be read. -/
def readTemplates (endpoint : String) : List Data → Exchange (List Template)
  | [] => return []
  | d :: rest => do
    let t ← readTemplate endpoint d
    let ts ← readTemplates endpoint rest
    return t :: ts

/-! ## Endpoints -/

/-- The endpoint of all templates. -/
def allTemplates : String := "templates"

/-- The endpoint of the template with an identifier. -/
def templateEndpoint (id : Data) : String := allTemplates ++ "/" ++ id.text

/-- The name that no filter may have. -/
def reservedFilter : String := "self"

/-- The stored templates that pass the filters. -/
def templates (d : Dashboard) (filters : Members := []) : Exchange (List Template) := do
  if Members.has filters reservedFilter then Exchange.fail .wrongKind
  let payload := if filters.isEmpty then none else some (.object filters)
  let answer ← d.request .get allTemplates payload
  let items ← Exchange.ofExcept ((answer.get? "templates").getD (.list [])).entries
  readTemplates allTemplates items

/-- The stored template with an identifier. -/
def template (d : Dashboard) (id : Data) : Exchange Template := do
  readTemplate (templateEndpoint id) (← d.request .get (templateEndpoint id))

/-- The method and the endpoint that store a template: a new one is added, one with an identifier
is replaced. -/
def savingRoute (t : Template) : Method × String :=
  match t.id with
  | some id => (.put, templateEndpoint id.toData)
  | none => (.post, allTemplates)

/-- What is recorded about a stored or submitted template. -/
def templateContext (id : Option Identifier) (name : String) : Members :=
  [("template_id", .ofIdentifier? id), ("name", .str name)]

/-- Stores a template as a draft. The result is the template as it was stored; it keeps the
identifier when the answer has none. -/
def saveDraft (d : Dashboard) (t : Template) : Exchange Template := do
  let (method, endpoint) := savingRoute t
  let stored ← readTemplate endpoint (← d.request method endpoint (some t.submission.toData))
  let saved := { stored with id := stored.id.or t.id }
  Exchange.record (.event .info "template_draft_saved" (templateContext saved.id saved.name))
  return saved

/-- The refusal of a template that is not valid. -/
def invalid (errors : List Issue) : Refusal :=
  { status := 422, message := "Template validation failed",
    details := .list (errors.map Issue.toData) }

/-- The template under the identifier under which it is stored; one without identifier is stored
first. -/
def ensureSaved (d : Dashboard) (t : Template) : Exchange Template := do
  if t.isPersisted then return t
  else
    let saved ← d.saveDraft t
    return { t with id := saved.id }

/-- Hands a template in for approval. An invalid one is refused without any request. -/
def submit (d : Dashboard) (t : Template) : Exchange Data := do
  let report ← Exchange.ofExcept (t.report .review)
  if report.valid then
    let t ← d.ensureSaved t
    let answer ← d.request .post (templateEndpoint (.ofIdentifier? t.id) ++ "/submit")
    Exchange.record (.event .info "template_submitted" (templateContext t.id t.name))
    return answer
  else Exchange.refuse (invalid report.errors)

/-- Deletes the template with an identifier. -/
def deleteTemplate (d : Dashboard) (id : Data) : Exchange Data :=
  d.request .delete (templateEndpoint id)

end Dashboard

end MessageTemplate
