import MessageTemplate.Failure
import MessageTemplate.Data.Text
import MessageTemplate.Text.LetterCase

/-!
# Events and errors

Model of `log_event`, `log_exception` and `_format_context` of `core.monitoring` (`announce`,
`announceError`, `contextText`) and of the two recorders that `_build_logger` makes (`Channel`),
without times and without the rotation of files.

* `Entry` — what is recorded about an event or an error: a level and a line of context;
* `Entry.event`, `Entry.exception` — entries of the two channels;
* `Entry.announce` — an event whose level is given by its name;
* `Entry.announceError` — an error with its cause;
* `Log.file`, `Log.console` — the text that the handlers of a channel write.
-/

set_option autoImplicit false

namespace MessageTemplate

/-- How serious an entry is. -/
inductive Level where
  | debug
  | info
  | warning
  | error
  | critical
  deriving DecidableEq, Repr, Inhabited

/-- The word for a level. -/
def Level.word : Level → String
  | .debug => "DEBUG"
  | .info => "INFO"
  | .warning => "WARNING"
  | .error => "ERROR"
  | .critical => "CRITICAL"

/-- Where an entry goes. -/
inductive Channel where
  | events
  | errors
  deriving DecidableEq, Repr, Inhabited

/-- The name of a channel. -/
def Channel.name : Channel → String
  | .events => "templatekit.events"
  | .errors => "templatekit.errors"

/-- What is recorded about an event or an error. -/
structure Entry where
  channel : Channel
  level : Level
  line : String
  /-- What the handlers write behind the line, about the cause of an error. -/
  cause : String := ""
  deriving DecidableEq, Repr, Inhabited

/-- What an error comes from. -/
structure Cause where
  kind : String
  text : String
  deriving DecidableEq, Repr, Inhabited

/-- The lines that are written about a cause. -/
def Cause.lines (c : Cause) : String :=
  "\n" ++ c.kind ++ (if c.text.isEmpty then "" else ": " ++ c.text) ++ "\n"

namespace Entry

/-- The members of a context, each with its value. -/
def contextText (context : Members) : String :=
  " | ".intercalate (context.map fun m => m.1 ++ "=" ++ m.2.text)

/-- A name with its context. -/
def lineOf (name : String) (context : Members) : String :=
  if context.isEmpty then name else name ++ " | " ++ contextText context

/-- An event. -/
def event (level : Level) (name : String) (context : Members) : Entry :=
  { channel := .events, level := level, line := lineOf name context }

/-- An error. -/
def exception (name : String) (context : Members) (cause : String := "") : Entry :=
  { channel := .errors, level := .error, line := lineOf name context, cause := cause }

/-- An entry in short. -/
def summary (e : Entry) : String := e.level.word ++ " " ++ e.line

/-- What the handlers write for an entry. -/
def written (e : Entry) : String :=
  e.level.word ++ " | " ++ e.channel.name ++ " | " ++ e.line ++ e.cause ++ "\n"

/-! ## Levels by name -/

/-- What becomes of an event with a level name. -/
inductive Delivery where
  | at (level : Level)
  /-- Recorded as an error together with the error being handled, of which there is none. -/
  | withCause
  /-- Looked at and dropped. -/
  | dropped
  | refused (failure : Failure)
  deriving DecidableEq, Repr, Inhabited

/-- Level names with a meaning. -/
def namedDeliveries : List (String × Delivery) :=
  [("debug", .at .debug), ("info", .at .info), ("warning", .at .warning), ("warn", .at .warning),
   ("error", .at .error), ("critical", .at .critical), ("fatal", .at .critical),
   ("exception", .withCause), ("filter", .dropped), ("handle", .refused .noParts)]

/-- Names that a recorder uses for its own parts, which cannot record an event. -/
def ownNames : List String :=
  ["name", "level", "parent", "propagate", "handlers", "disabled", "filters", "manager", "root",
   "log", "_log", "_cache"]

/-- A name between double underscores, as everything has it that can be asked for its parts. -/
def reservedName (s : String) : String := "__" ++ s ++ "__"

/-- Reserved names that an event cannot be given to. -/
def reservedParts : List String :=
  ["dict", "dir", "doc", "format", "getstate", "hash", "init_subclass", "module", "new", "reduce",
   "reduce_ex", "repr", "setattr", "sizeof", "str", "weakref"]

/-- Reserved names that look an event up among the parts. -/
def reservedSearches : List String := ["delattr", "getattribute"]

/-- Reserved names that look at an event and do nothing with it. -/
def reservedQuestions : List String :=
  ["class", "eq", "ge", "gt", "le", "lt", "ne", "subclasshook"]

/-- What becomes of an event with a level name in any case; an unknown name stands for
information. -/
def deliveryOf (name : String) : Delivery :=
  let name := String.ofList (Text.lower name.toList)
  let isReserved := fun words : List String => (words.map reservedName).contains name
  match namedDeliveries.lookup name with
  | some d => d
  | none =>
    if ownNames.contains name || isReserved reservedParts then .refused .wrongKind
    else if isReserved reservedSearches then .refused .noParts
    else if isReserved reservedQuestions then .dropped
    else .at .info

/-- The cause that is written where there is none. -/
def noCause (line : String) : String :=
  (if line.toList.getLast? = some '\n' then "" else "\n") ++ "NoneType: None"

/-- An event that is recorded in the way of a delivery. -/
def delivered (d : Delivery) (name : String) (context : Members) : Except Failure (List Entry) :=
  match d with
  | .at level => .ok [event level name context]
  | .withCause =>
    let line := lineOf name context
    .ok [{ channel := .events, level := .error, line := line, cause := noCause line }]
  | .dropped => .ok []
  | .refused e => .error e

/-- The name under which an event is given. -/
def eventMember : String := "event"

/-- The name under which a level is given. -/
def levelMember : String := "level"

/-- An event with a level name. The context may give the level if nothing else does; it may not
name the event. -/
def announce (name : String) (level : Option Data) (context : Members) :
    Except Failure (List Entry) :=
  if Members.has context eventMember then .error .wrongKind
  else
    match level, Members.get? context levelMember with
    | some _, some _ => .error .wrongKind
    | none, none => delivered (.at .info) name context
    | some d, none | none, some d =>
      match d with
      | .str s => delivered (deliveryOf s) name (Members.erase context levelMember)
      | _ => .error .noParts

/-- An error with its cause, or without one. The context may not name the event or its cause. -/
def announceError (name : String) (cause : Option Cause) (context : Members) :
    Except Failure (List Entry) :=
  if Members.has context "message" || Members.has context "exc" then .error .wrongKind
  else .ok [exception name context ((cause.map Cause.lines).getD "")]

end Entry

namespace Log

/-- The entries of a channel. -/
def ofChannel (c : Channel) (entries : List Entry) : List Entry :=
  entries.filter fun e => e.channel = c

/-- What the file of a channel holds. -/
def file (c : Channel) (entries : List Entry) : String :=
  String.join ((ofChannel c entries).map Entry.written)

/-- What the console of a channel shows; details for finding defects are left out. -/
def console (c : Channel) (entries : List Entry) : String :=
  String.join (((ofChannel c entries).filter fun e => e.level != .debug).map Entry.written)

end Log

end MessageTemplate
