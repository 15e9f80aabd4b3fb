import MessageTemplate.Data.Equality
import MessageTemplate.Json.Reader
import MessageTemplate.Log

/-!
# Traffic with the dashboard

Model of `APIError` of `whatsapp.client` (`Refusal`) and of what `DashboardClient` hands to the
transport and takes from it (`Request`, `Reply`).

* `Request`, `Reply` — what is sent to the dashboard, and what comes of it;
* `Refusal` — why the dashboard gives no result, which is an answer and no failure;
* `Traffic` — the replies still to come, the requests sent and the entries recorded so far;
* `Exchange` — a computation that sends requests, and ends early when it is refused or fails.

Requests and replies go in pairs: the next request takes the next reply.
-/

set_option autoImplicit false

namespace MessageTemplate

/-- How a request is sent. -/
inductive Method where
  | get
  | post
  | put
  | delete
  deriving DecidableEq, Repr, Inhabited

/-- The word for a method. -/
def Method.word : Method → String
  | .get => "GET"
  | .post => "POST"
  | .put => "PUT"
  | .delete => "DELETE"

/-- The member under which a method sends its payload. -/
def Method.payloadMember : Method → String
  | .get => "params"
  | _ => "json"

/-- What is sent to the dashboard. -/
structure Request where
  method : Method
  address : String
  headers : List (String × String)
  payload : Option Data := none
  deriving DecidableEq, Repr, Inhabited

/-- A request as a value. -/
def Request.toData (r : Request) : Data :=
  .object
    ([("method", .str r.method.word), ("url", .str r.address),
      ("headers", .object (r.headers.map fun h => (h.1, .str h.2)))] ++
      (r.payload.map fun p => (r.method.payloadMember, p)).toList)

/-- What comes of a request. -/
inductive Reply where
  /-- An answer with a status; one without content has no document. -/
  | response (status : Int) (content : Option Document)
  | timeout
  /-- The dashboard could not be reached. -/
  | unreachable (reason : String)
  /-- The address could not be read. -/
  | invalidAddress (reason : String)
  deriving Repr, Inhabited

/-- An answer with a text. -/
def Reply.ofText (status : Int) (text : String) : Reply :=
  .response status (if text.isEmpty then none else some (.ofBytes text.toUTF8.toList))

/-- Why the dashboard gives no result. -/
structure Refusal where
  /-- The status of the answer, or a negative number where there was no readable answer. -/
  status : Int
  message : String
  details : Data := .null
  /-- Whether the same request may succeed later. -/
  retryable : Bool := false
  deriving Repr, Inhabited

namespace Refusal

/-- The status of a refusal without a readable answer. -/
def noAnswer : Int := -1

/-- The request took too long. -/
def timedOut : Refusal := { status := noAnswer, message := "Request timed out", retryable := true }

/-- The dashboard could not be reached. -/
def network (reason : String) : Refusal :=
  { status := noAnswer, message := "Network error: " ++ reason, retryable := true }

/-- The answer holds no document. -/
def invalidDocument : Refusal := { status := noAnswer, message := "Invalid JSON in response" }

/-- The document holds no template. -/
def invalidTemplate : Refusal := { status := noAnswer, message := "Invalid template in response" }

/-- A refusal as a value. -/
def toData (r : Refusal) : Data :=
  .object [("status_code", .int r.status), ("message", .str r.message), ("details", r.details),
    ("is_retryable", .bool r.retryable)]

end Refusal

/-- Why an exchange ends early. -/
inductive Interruption where
  | refused (refusal : Refusal)
  | failed (failure : Failure)
  deriving Repr, Inhabited

/-- The replies still to come, the requests sent and the entries recorded so far. -/
structure Traffic where
  pending : List Reply := []
  sent : List Request := []
  log : List Entry := []
  deriving Repr, Inhabited

namespace Traffic

/-- The reason that is given when no reply is left. -/
def silence : String := "no reply scripted"

/-- The traffic after one more entry. -/
def record (t : Traffic) (entries : List Entry) : Traffic := { t with log := t.log ++ entries }

/-- The traffic after one more request, and the reply to it. -/
def send (t : Traffic) (r : Request) : Reply × Traffic :=
  match t.pending with
  | [] => (.unreachable silence, { t with sent := t.sent ++ [r] })
  | reply :: rest => (reply, { t with pending := rest, sent := t.sent ++ [r] })

end Traffic

/-- A computation that sends requests. -/
abbrev Exchange (α : Type) := ExceptT Interruption (StateM Traffic) α

namespace Exchange

/-- What an exchange leads to, with the traffic before and after it. -/
def outcome {α : Type} (x : Exchange α) (t : Traffic) : Except Interruption α × Traffic :=
  StateT.run (ExceptT.run x) t

/-- Records an entry. -/
def record (e : Entry) : Exchange Unit := modify fun t => t.record [e]

/-- Sends a request and takes its reply. -/
def send (r : Request) : Exchange Reply := modifyGet fun t => t.send r

/-- Ends the exchange with a refusal. -/
def refuse {α : Type} (r : Refusal) : Exchange α := throw (.refused r)

/-- Ends the exchange with a failure. -/
def fail {α : Type} (e : Failure) : Exchange α := throw (.failed e)

/-- The result of an operation, as a step of an exchange. -/
def ofExcept {α : Type} : Except Failure α → Exchange α
  | .ok a => pure a
  | .error e => fail e

end Exchange

end MessageTemplate
