import RunWatch.Failure

/-!
# Client configuration

Where the server is, how its addresses are formed, and the times that watching goes by. Times are
in milliseconds.
-/

namespace RunWatch

structure Config where
  baseUrl : String
  /-- Where runs are started and resumed. -/
  streamPath : String := "/api/workflows/run"
  /-- Where runs are found by id. -/
  runsPath : String := "/api/runs"
  /-- Whether the status of a run has an address of its own below the run. -/
  statusSuffix : Bool := false
  /-- A stream that is silent for this long counts as stale. -/
  healthWindow : Nat := 15000
  /-- The time between two looks at the stream. -/
  pollInterval : Nat := 5000
  requestTimeout : Nat := 30000
  bearerToken : Option String := none
  deriving DecidableEq, Repr

namespace Config

/-- Finds what is wrong: the address first, then the times. -/
def check (c : Config) : Except ConfigFault Unit :=
  if Text.blank c.baseUrl then .error .emptyBaseUrl
  else if c.pollInterval = 0 then .error .zeroPollInterval
  else if c.healthWindow = 0 then .error .zeroHealthWindow
  else .ok ()

/-! ### Addresses -/

/-- An address below the base, with one slash between them and none at the end. -/
def join (c : Config) (path : String) : String :=
  Text.trimEndSlashes c.baseUrl ++ "/" ++ Text.trimSlashes path

def streamUrl (c : Config) : String :=
  c.join c.streamPath

def runUrl (c : Config) (id : RunId) : String :=
  c.join c.runsPath ++ "/" ++ Text.trimSlashes id.text

def statusUrl (c : Config) (id : RunId) : String :=
  if c.statusSuffix then c.runUrl id ++ "/status" else c.runUrl id

def commandUrl (c : Config) (id : RunId) (command : String) : String :=
  c.runUrl id ++ "/" ++ command

def patchUrl (c : Config) (resource : String) : String :=
  c.join resource ++ "/patch"

end Config

end RunWatch
