import MessageTemplate.Dashboard
import MessageTemplate.Edit
import MessageTemplate.Schema.Reading

/-!
# Settings

Model of `Settings` of `core.config`, without the search for a file of settings (`find_env_file`),
and of what `main` of `run` starts (`Launch`).

* `Settings` — how the service is set up;
* `Settings.read` — the settings that an environment gives, with the defaults for the others;
* `Launch` — what is needed to start the service, and what is said when it starts and stops.
-/

set_option autoImplicit false

namespace MessageTemplate

/-- How the service is set up. -/
structure Settings where
  environment : String := "development"
  debug : Bool := true
  host : String := "0.0.0.0"
  port : Int := 8000
  /-- The origins from which browsers may call the service. -/
  origins : List String := ["*"]
  dashboardAddress : String := Dashboard.defaultAddress
  dashboardToken : Option String := none
  /-- How many seconds the dashboard has for an answer. -/
  timeout : Binary64 := Binary64.ofDecimal false 10 0
  language : String := Template.defaultLanguage
  logFolder : Option String := none
  deriving Repr, Inhabited

namespace Settings

/-- The names of the variables that are read. -/
def names : List String :=
  ["ENV", "DEBUG", "HOST", "PORT", "CORS_ORIGINS", "DASHBOARD_API_URL", "DASHBOARD_API_TOKEN",
   "HTTP_TIMEOUT", "TEMPLATE_DEFAULT_LANGUAGE", "LOG_DIR"]

/-- The variables of an environment, as the members of an object. -/
def membersOf (environment : List (String × String)) : Members :=
  environment.map fun v => (v.1, .str v.2)

/-- The name of the variable that holds a document. -/
def originsName : String := "CORS_ORIGINS"

/-- The variables with the document that one of them holds in place of its text; a null document
counts as absent. -/
def decodeOrigins (ms : Members) : Except Failure Members :=
  match (Members.get? ms originsName).bind Data.str? with
  | none => .ok ms
  | some s =>
    match Document.ofText s with
    | .value .null => .ok (Members.erase ms originsName)
    | .value d => .ok (Members.set ms originsName d)
    | .tooDeep => .error .tooDeep
    | _ => .error .brokenSetting

/-- Text that is there. -/
def readText (d : Data) : Reading (Option String) := (Read.text d).map some

/-- A number of seconds. -/
def readSeconds : Data → Reading Binary64
  | .str s => Read.numberNumeral s
  | _ => .mismatch .unreadableNumber

/-- Reads settings from the variables of an environment. -/
def readMembers (ms : Members) : Reading Settings :=
  let default : Settings := {}
  ((((((((((Reading.value Settings.mk).ap
    (Read.field ms ["ENV"] default.environment Read.text)).ap
    (Read.field ms ["DEBUG"] default.debug Read.truth)).ap
    (Read.field ms ["HOST"] default.host Read.text)).ap
    (Read.field ms ["PORT"] default.port Read.integer)).ap
    (Read.field ms [originsName] default.origins (Read.list Read.text))).ap
    ((Read.field ms ["DASHBOARD_API_URL"] default.dashboardAddress Read.text).map
      Dashboard.withoutTrailingSlashes)).ap
    (Read.field ms ["DASHBOARD_API_TOKEN"] default.dashboardToken readText)).ap
    (Read.field ms ["HTTP_TIMEOUT"] default.timeout readSeconds)).ap
    (Read.field ms ["TEMPLATE_DEFAULT_LANGUAGE"] default.language Read.text)).ap
    (Read.field ms ["LOG_DIR"] default.logFolder readText)

/-- The settings that an environment gives. -/
def read (environment : List (String × String)) : Except Failure Settings :=
  match decodeOrigins (membersOf environment) with
  | .error e => .error e
  | .ok ms =>
    match readMembers ms with
    | .value s => .ok s
    | .faulty faults => .error (.faulty faults)

/-- Settings as a value, under the names of their variables; the folder for logs only if there is
one. -/
def toData (s : Settings) : Data :=
  .object
    ([("ENV", .str s.environment), ("DEBUG", .bool s.debug), ("HOST", .str s.host),
      ("PORT", .int s.port), (originsName, .list (s.origins.map .str)),
      ("DASHBOARD_API_URL", .str s.dashboardAddress),
      ("DASHBOARD_API_TOKEN", .ofText? s.dashboardToken),
      ("HTTP_TIMEOUT", .str s.timeout.text),
      ("TEMPLATE_DEFAULT_LANGUAGE", .str s.language)] ++
      (s.logFolder.map fun folder => ("LOG_DIR", .str folder)).toList)

end Settings

/-- What is needed to start the service. -/
structure Launch where
  host : Data
  port : Data
  debug : Data
  deriving Repr, Inhabited

namespace Launch

/-- The launch under some settings. -/
def ofSettings (s : Settings) : Launch := ⟨.str s.host, .int s.port, .bool s.debug⟩

/-- The launch with some of its settings replaced. -/
def override (l : Launch) (ms : Members) : Launch :=
  { host := (Members.get? ms "HOST").getD l.host
    port := (Members.get? ms "PORT").getD l.port
    debug := (Members.get? ms "DEBUG").getD l.debug }

/-- What is started. -/
def target : String := "templatekit.main:app"

/-- What is said when the service starts. -/
def greeting (l : Launch) : String :=
  "🚀 Starting Template Builder...\n" ++
    "📊 API: http://" ++ l.host.text ++ ":" ++ l.port.text ++ "/docs\n"

/-- What is said when the service is stopped. -/
def farewell : String := "\n\n🛑 Shutting down...\n"

/-- The level of detail of the log. -/
def logLevel (l : Launch) : String := if l.debug.isEmptyish then "info" else "debug"

/-- A launch as a value. -/
def toData (l : Launch) : Data :=
  .object [("target", .str target), ("host", l.host), ("port", l.port), ("reload", l.debug),
    ("log_level", .str l.logLevel)]

end Launch

end MessageTemplate
