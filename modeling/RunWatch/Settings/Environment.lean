import RunWatch.Settings.Config

/-!
# Environment variables

The configuration that variables of the environment give.
-/

namespace RunWatch

/-- Variables by name. -/
abbrev Environment := List (String × String)

namespace Environment

/-- The value of a variable, unless it is blank. -/
def filled? (env : Environment) (key : String) : Option String :=
  (env.lookup key).filter fun v => !Text.blank v

/-- A whole number of seconds, in milliseconds; none if the variable is absent or blank. -/
def seconds? (env : Environment) (key : String) : Except ConfigFault (Option Nat) :=
  match env.filled? key with
  | none => .ok none
  | some v =>
    match Decimal.natBelow Decimal.limit64 (Text.trim v).toList with
    | .ok n => .ok (some (n * 1000))
    | .error fault => .error (.badSeconds key fault)

end Environment

namespace Config

def baseUrlVariable : String := "ORCHESTRATOR_LIVE_BASE_URL"

def tokenVariable : String := "ORCHESTRATOR_LIVE_TOKEN"

def healthWindowVariable : String := "ORCHESTRATOR_LIVE_HEALTH_WINDOW_SECS"

def pollIntervalVariable : String := "ORCHESTRATOR_LIVE_POLL_INTERVAL_SECS"

/-- The configuration of an environment; the first fault counts. -/
def ofEnvironment (env : Environment) : Except ConfigFault Config := do
  let some baseUrl := env.filled? baseUrlVariable | .error (.missingVariable baseUrlVariable)
  let default : Config := { baseUrl }
  let healthWindow ← env.seconds? healthWindowVariable
  let pollInterval ← env.seconds? pollIntervalVariable
  let config := { default with
    bearerToken := env.filled? tokenVariable
    healthWindow := healthWindow.getD default.healthWindow
    pollInterval := pollInterval.getD default.pollInterval }
  config.check
  return config

end Config

end RunWatch
