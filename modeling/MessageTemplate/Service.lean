import MessageTemplate.Component
import MessageTemplate.Preview
import MessageTemplate.Service.Target
import MessageTemplate.Validation

/-!
# The service

Model of `validate_template`, `preview_template` and `template_components` of `api.templates`
(`validate`, `preview`, `components`) and of `health_check` of `main`, behind the routing and the
reading of requests that the framework does for them.

* `ServiceRequest`, `ServiceAnswer` — what the service is asked, and what it answers;
* `Service.answer` — validates a template for a step, composes its preview, or gives its
  submission; a request that does not fit is answered with an error status.

An answer lists every fault of a request, those of the parameters before those of the body. It
quotes the values at fault, so that there is none if such a value cannot be shown.
-/

set_option autoImplicit false

namespace MessageTemplate

/-- What the service is asked. -/
structure ServiceRequest where
  method : String := "POST"
  target : RequestTarget
  /-- The document that was sent along. -/
  content : Option Document := none
  deriving Repr, Inhabited

/-- What the service answers. -/
structure ServiceAnswer where
  status : Nat
  content : Data
  deriving Repr, Inhabited

/-- A request that carries a value; a document cannot show every number. -/
def ServiceRequest.carrying (r : ServiceRequest) (d : Data) : Except Failure ServiceRequest :=
  if d.allFinite then .ok { r with content := some (.value d) } else .error .noFiniteNumber

namespace Service

/-- The version of the service. -/
def version : String := "0.1.0"

/-! ## Answers -/

/-- An answer to a request that fits. -/
def accepted (d : Data) : ServiceAnswer := ⟨200, d⟩

/-- An answer with an error status and its details. -/
def rejected (status : Nat) (detail : Data) : ServiceAnswer :=
  ⟨status, .object [("detail", detail)]⟩

/-- The answer to a request for a path that is known without the slashes at its end. -/
def moved : ServiceAnswer := ⟨307, .null⟩

/-- The answer to a request for something unknown. -/
def notFound : ServiceAnswer := rejected 404 (.str "Not Found")

/-- The answer to a request by another method. -/
def methodNotAllowed : ServiceAnswer := rejected 405 (.str "Method Not Allowed")

/-- The answer to a document that is not even malformed: it has a numeral that is too long, is
nested too deeply, or is no text. -/
def unreadableBody : ServiceAnswer := rejected 400 (.str "There was an error parsing the body")

/-! ## Bodies -/

/-- The member name under which faults of the body are reported. -/
def bodyKey : Key := .name "body"

/-- What is said of a value that should be an object, for any part. -/
def complaint : Complaint := fun _ => .noFields

/-- Reads the body of a request, which must be there. -/
def readBody {α : Type} (read : Data → Reading α) (body : Option Data) : Reading α :=
  match body with
  | none => .faulty [⟨[bodyKey], .missing⟩]
  | some d => (read d).under bodyKey

/-- The value that is at fault: the part of the body at the location, or what lacks a part. -/
def valueAtFault (body : Data) (f : Fault) : Data :=
  let location :=
    match f.mismatch with
    | .missing => f.location.dropLast
    | _ => f.location
  match location with
  | key :: rest => if key = bodyKey then (body.at? rest).getD .null else .null
  | [] => .null

/-- The answer that lists the faults of a request with a body. -/
def faulty (body : Option Data) (faults : List Fault) : Except Failure ServiceAnswer :=
  if faults.all fun f => (valueAtFault (body.getD .null) f).allFinite then
    .ok (rejected 422 (.list (faults.map Fault.toData)))
  else .error .noFiniteNumber

/-- Goes on with the body of a request, if its document can be read. -/
def withBody (r : ServiceRequest) (next : Option Data → Except Failure ServiceAnswer) :
    Except Failure ServiceAnswer :=
  match r.content with
  | none => next none
  | some (.value d) => next (some d)
  | some (.malformed position) => faulty none [⟨[bodyKey, .index position], .brokenDocument⟩]
  | some _ => .ok unreadableBody

/-! ## Operations -/

/-- The name of the parameter that selects the step. -/
def stepParameter : String := "step"

/-- Reads the step number; without one it is the number of the review. -/
def readStep (target : RequestTarget) : Reading Int :=
  match target.parameter? stepParameter with
  | none => .value Step.review.number
  | some s => ((Read.integer (.str s)).under (.name stepParameter)).under (.name "query")

/-- What is said of a number that no step has. -/
def invalidStep : String :=
  "Invalid step. Must be one of: " ++
    ", ".intercalate (Step.all.map fun s => toString s.number)

/-- The report on the template that was sent, which may be malformed, in a step. -/
def validate (r : ServiceRequest) : Except Failure ServiceAnswer :=
  withBody r fun body =>
    match ((Reading.value Prod.mk).ap (readStep r.target)).ap (readBody Read.dictionary body) with
    | .faulty faults => faulty body faults
    | .value (number, ms) =>
      match Step.ofNumber? number with
      | none => .ok (rejected 400 (.str invalidStep))
      | some s => ((Data.object ms).report s).map fun report => accepted report.toData

/-- A template and the values to fill in. -/
def readPreviewRequest : Data → Reading (Template × Option LiveValues)
  | .object ms =>
    ((Reading.value Prod.mk).ap
      (Read.required ms "template" (Template.readWith complaint))).ap
      (Read.field ms ["values"] none (Read.optional (LiveValues.read complaint)))
  | _ => .mismatch .noFields

/-- The preview of the template that was sent. -/
def preview (r : ServiceRequest) : Except Failure ServiceAnswer :=
  withBody r fun body =>
    match readBody readPreviewRequest body with
    | .faulty faults => faulty body faults
    | .value (t, values) => (t.preview values).map fun p => accepted (p.toData .sparse)

/-- What is said of a template that is not valid. -/
def invalidTemplate (errors : List Issue) : Data :=
  .object [("message", .str "Template validation failed"),
    ("errors", .list (errors.map Issue.toData))]

/-- The submission of the template that was sent, which must be valid. -/
def components (r : ServiceRequest) : Except Failure ServiceAnswer :=
  withBody r fun body =>
    match readBody (Template.readWith complaint) body with
    | .faulty faults => faulty body faults
    | .value t =>
      (t.report .review).map fun report =>
        if report.valid then accepted t.submission.toData
        else rejected 422 (invalidTemplate report.errors)

/-- Whether the service works. -/
def health (_ : ServiceRequest) : Except Failure ServiceAnswer :=
  .ok (accepted (.object [("status", .str "healthy"), ("version", .str version)]))

/-! ## Routes -/

/-- The paths of the service, each with its method and its operation. -/
def routes : List (String × String × (ServiceRequest → Except Failure ServiceAnswer)) :=
  [("/health", "GET", health), ("/api/templates/validate", "POST", validate),
   ("/api/templates/preview", "POST", preview),
   ("/api/templates/components", "POST", components)]

/-- The method and the operation of a path. One line break at its end makes no difference. -/
def route? (path : List Char) : Option (String × (ServiceRequest → Except Failure ServiceAnswer)) :=
  routes.lookup (String.ofList (if path.getLast? = some '\n' then path.dropLast else path))

/-- Whether a path is known only without the slashes at its end. -/
def isMoved (path : List Char) : Bool :=
  path.getLast? = some '/' && (route? (path.reverse.dropWhile (· == '/')).reverse).isSome

/-- The answer without its content, if the request asks for the head of the answer only. -/
def headOnly (method : String) (a : ServiceAnswer) : ServiceAnswer :=
  if method = "HEAD" then { a with content := .null } else a

/-- The answer to a request. -/
def answer (r : ServiceRequest) : Except Failure ServiceAnswer :=
  let method := String.ofList (r.method.toList.map Char.toUpper)
  let result : Except Failure ServiceAnswer :=
    let path := r.target.path.toList
    match route? path with
    | some (admitted, operation) =>
      if method = admitted then operation r else .ok methodNotAllowed
    | none => .ok (if isMoved path then moved else notFound)
  result.map (headOnly method)

end Service

end MessageTemplate
