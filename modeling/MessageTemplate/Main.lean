import MessageTemplate.Settings

/-!
# The program

Model of `main` of `run`, which starts the service itself; here it only says what would be
started.

* `main` — reads the settings from the environment and says where the service is; faulty settings
  end the program with their faults.
-/

set_option autoImplicit false

open MessageTemplate

/-- The variables of the environment that are settings. -/
def environmentSettings : IO (List (String × String)) :=
  Settings.names.filterMapM fun name => do
    return (← IO.getEnv name).map fun value => (name, value)

/-- What is said about settings that cannot be read. -/
def settingsComplaint : Failure → List String
  | .faulty faults => faults.map fun f => f.location.fieldName ++ ": " ++ f.mismatch.message
  | _ => [Settings.originsName ++ ": " ++ Mismatch.brokenDocument.message]

/-- Reads the settings and starts the service. -/
def main : IO UInt32 := do
  match Settings.read (← environmentSettings) with
  | .ok settings =>
    IO.print (Launch.ofSettings settings).greeting
    return 0
  | .error e =>
    for line in settingsComplaint e do
      IO.eprintln line
    return 1
