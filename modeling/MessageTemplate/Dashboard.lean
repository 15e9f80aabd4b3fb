import MessageTemplate.Dashboard.Traffic

/-!
# The dashboard

Model of `DashboardClient` of `whatsapp.client` (`connect` is its construction, `headers` is
`_headers`) and of `from_response` of `APIError` (`refusalOf`).

* `Dashboard` — where the dashboard is, and the token that it asks for;
* `Dashboard.request` — sends a request to an endpoint and reads the answer.

An answer with an error status is a refusal, and so is one that holds no document, whatever its
status. A document that is nested too deeply is a failure.
-/

set_option autoImplicit false

namespace MessageTemplate

/-- Where the dashboard is. -/
structure Dashboard where
  address : String
  token : Option String := none
  deriving DecidableEq, Repr, Inhabited

namespace Dashboard

/-- The address of the dashboard unless another is given. -/
def defaultAddress : String := "http://localhost:5000/api"

/-- A text without the slashes at its end. -/
def withoutTrailingSlashes (s : String) : String :=
  String.ofList (s.toList.reverse.dropWhile (· == '/')).reverse

/-- A text without the slashes at its front. -/
def withoutLeadingSlashes (s : String) : String :=
  String.ofList (s.toList.dropWhile (· == '/'))

/-- The dashboard at an address, which must be text, and with a token. Both may count as not
given. -/
def connect (address token : Data) : Except Failure Dashboard :=
  let token := if token.isEmptyish then none else some token.text
  if address.isEmptyish then .ok { address := defaultAddress, token := token }
  else
    match address with
    | .str s => .ok { address := withoutTrailingSlashes s, token := token }
    | _ => .error .noParts

/-- The headers of every request. -/
def headers (d : Dashboard) : List (String × String) :=
  ("Content-Type", "application/json") ::
    (d.token.map fun token => ("Authorization", "Bearer " ++ token)).toList

/-- A request to an endpoint. -/
def requestTo (d : Dashboard) (method : Method) (endpoint : String) (payload : Option Data) :
    Request :=
  { method := method, address := d.address ++ "/" ++ withoutLeadingSlashes endpoint,
    headers := d.headers, payload := payload }

/-! ## Answers -/

/-- The least status of an answer that reports an error. -/
def leastErrorStatus : Int := 400

/-- Whether a request may succeed later after an answer with this status. -/
def isPassing (status : Int) : Bool := [429, 500, 502, 503, 504].contains status

/-- The message where an answer gives none. -/
def noMessage : Data := .str "Unknown error"

/-- The message of an answer that reports an error, from the members of its document. -/
def errorMessage (ms : Members) : String :=
  let reported := (Members.get? ms "error").getD .null
  match reported with
  | .object parts => ((Members.get? parts "message").getD noMessage).text
  | _ =>
    let message := (Members.get? ms "message").getD .null
    if !message.isEmptyish then message.text
    else if !reported.isEmptyish then reported.text
    else noMessage.text

/-- The refusal for an answer that reports an error. -/
def refusalOf (status : Int) (content : Data) : Refusal :=
  let ms : Members := match content with
    | .object ms => ms
    | _ => []
  { status := status, message := errorMessage ms,
    details := (Members.get? ms "errors").getD .null, retryable := isPassing status }

/-- What is recorded about every request. -/
def context (method : Method) (endpoint : String) : Members :=
  [("method", .str method.word), ("endpoint", .str endpoint)]

/-- Takes the content of an answer, unless the answer reports an error. -/
def accept (method : Method) (endpoint : String) (status : Int) (content : Data) :
    Exchange Data := do
  let about := context method endpoint ++ [("status_code", .int status)]
  if leastErrorStatus ≤ status then
    let refusal := refusalOf status content
    Exchange.record
      (.event .warning "dashboard_request_failed" (about ++ [("error", .str refusal.message)]))
    Exchange.refuse refusal
  else
    Exchange.record (.event .debug "dashboard_request_ok" about)
    return content

/-- Ends an exchange without a readable answer. -/
def giveUp (method : Method) (endpoint : String) (event : String) (refusal : Refusal) :
    Exchange Data := do
  Exchange.record (.exception event (context method endpoint))
  Exchange.refuse refusal

/-- Sends a request to an endpoint and reads the answer; an answer without content is null. -/
def request (d : Dashboard) (method : Method) (endpoint : String)
    (payload : Option Data := none) : Exchange Data := do
  match ← Exchange.send (d.requestTo method endpoint payload) with
  | .timeout => giveUp method endpoint "dashboard_request_timeout" .timedOut
  | .unreachable reason => giveUp method endpoint "dashboard_network_error" (.network reason)
  | .invalidAddress reason => Exchange.fail (.invalidAddress reason)
  | .response status none => accept method endpoint status .null
  | .response status (some (.value content)) => accept method endpoint status content
  | .response _ (some .tooDeep) => Exchange.fail .tooDeep
  | .response _ (some _) => giveUp method endpoint "dashboard_invalid_json" .invalidDocument

/-- Sends a request to the endpoint that a value names, which must be text. -/
def requestNamed (d : Dashboard) (method : Method) (endpoint : Data) (payload : Option Data) :
    Exchange Data :=
  match endpoint with
  | .str s => d.request method s payload
  | _ => Exchange.fail .noParts

end Dashboard

end MessageTemplate
