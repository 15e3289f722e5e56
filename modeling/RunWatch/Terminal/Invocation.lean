import RunWatch.Settings.Environment
import RunWatch.Terminal.Arguments

/-!
# Invocations

What a command line asks for: the configuration of the client and one task. Options win over
variables of the environment, and those over the default values.
-/

namespace RunWatch.Terminal

/-- The name of the program and its version. -/
def programName : String := "orchestrator-live"

def programVersion : String := "0.1.0"

inductive Task where
  /-- Starts a run and follows it. -/
  | watch (workflow : WorkflowId) (inputs : Option String)
  /-- Fetches the status of a run once. -/
  | status (run : RunId)
  /-- Previews or applies the replacement of a document. -/
  | patch (resource : String) (base : Revision) (file : String) (commit : Bool)
  deriving DecidableEq, Repr

structure Invocation where
  config : Config
  task : Task
  deriving DecidableEq, Repr

/-! ### Commands -/

/-- Whole numbers of seconds are accepted. -/
def refuseSeconds (s : String) : Option Refusal :=
  match Decimal.natBelow Decimal.limit64 s.toList with
  | .ok _ => none
  | .error fault => some (.because fault.message)

def baseUrlOption : OptionSpec :=
  { name := "base-url", valueName := some "BASE_URL", source := some Config.baseUrlVariable }

def tokenOption : OptionSpec :=
  { name := "token", valueName := some "TOKEN", source := some Config.tokenVariable }

def healthWindowOption : OptionSpec :=
  { name := "health-window-secs", valueName := some "HEALTH_WINDOW_SECS", refuse := refuseSeconds
    source := some Config.healthWindowVariable }

def pollIntervalOption : OptionSpec :=
  { name := "poll-interval-secs", valueName := some "POLL_INTERVAL_SECS", refuse := refuseSeconds
    source := some Config.pollIntervalVariable }

def statusSuffixOption : OptionSpec :=
  { name := "status-suffix" }

/-- The program as a whole. -/
def program : CommandSpec where
  options :=
    [baseUrlOption, tokenOption, healthWindowOption, pollIntervalOption, statusSuffixOption]
  subcommands := ["watch", "status", "patch", "help"]
  hasVersion := true

def watchCommand : CommandSpec where
  options := [{ name := "inputs", valueName := some "INPUTS" }]
  positionals := ["WORKFLOW_ID"]

def statusCommand : CommandSpec where
  positionals := ["RUN_ID"]

def patchCommand : CommandSpec where
  options := [
    { name := "base", valueName := some "BASE", required := true },
    { name := "replace", valueName := some "REPLACE", required := true
      refuse := fun v => if v = "" then some .blank else none },
    { name := "apply" }]
  positionals := ["RESOURCE"]

/-! ### Reading -/

/-- What the reading of a command line comes to. -/
inductive Reading where
  | run (i : Invocation)
  /-- The help on the program, or on one of its commands. -/
  | help (command : Option String)
  | version
  | usage (fault : UsageFault)
  deriving DecidableEq, Repr

def Reading.ofStop (command : Option String) : Stop → Reading
  | .usage fault => .usage fault
  | .help => .help command
  | .version => .version

/-- The value of an option: given, or of its variable, or none. -/
def valueOf (env : Environment) (g : Given) (o : OptionSpec) : Except Stop (Option String) :=
  match g.value? o.name, o.source.bind fun v => env.lookup v with
  | some v, _ => .ok (some v)
  | none, some v =>
    match o.fault? v with
    | some fault => .error (.usage fault)
    | none => .ok (some v)
  | none, none => .ok none

/-- A number of seconds, in milliseconds. -/
def milliseconds? (s : String) : Option Nat :=
  (Decimal.natBelow Decimal.limit64 s.toList).toOption.map (· * 1000)

def defaultBaseUrl : String := "http://localhost:8080"

/-- The configuration that the options of the program give. -/
def configOf (env : Environment) (g : Given) : Except Stop Config := do
  let baseUrl ← valueOf env g baseUrlOption
  let token ← valueOf env g tokenOption
  let healthWindow ← valueOf env g healthWindowOption
  let pollInterval ← valueOf env g pollIntervalOption
  let default : Config := { baseUrl := baseUrl.getD defaultBaseUrl }
  return { default with
    healthWindow := (healthWindow.bind milliseconds?).getD default.healthWindow
    pollInterval := (pollInterval.bind milliseconds?).getD default.pollInterval
    statusSuffix := g.has statusSuffixOption.name
    bearerToken := token.filter fun t => !Text.blank t }

/-- The task of a command with its arguments. -/
def taskOf (command : String) (args : List String) : Except Stop Task := do
  if command = "watch" then
    let g ← watchCommand.readAll args
    return .watch ⟨g.positionals.headD ""⟩ (g.value? "inputs")
  else if command = "status" then
    let g ← statusCommand.readAll args
    return .status ⟨g.positionals.headD ""⟩
  else
    let g ← patchCommand.readAll args
    return .patch (g.positionals.headD "") ⟨(g.value? "base").getD ""⟩
      ((g.value? "replace").getD "") (g.has "apply")

/-- The help that the `help` command is asked for. No command has commands of its own. -/
def helpOf : List String → Reading
  | [] => .help none
  | command :: rest =>
    if !program.subcommands.contains command then .usage (.unknownCommand command)
    else match rest with
      | [] => .help (some command)
      | name :: _ => .usage (.unknownCommand name)

/-- Reads the arguments behind the program's name. A command reads its own arguments before the
program looks at what is left of those in front of it. -/
def Reading.ofArguments (env : Environment) (args : List String) : Reading :=
  match program.read {} none args with
  | .error stop => ofStop none stop
  | .ok (g, waiting) =>
    let config : Except Stop Config := do configOf env (← CommandSpec.resolve g waiting)
    match g.sub with
    | some ("help", rest) => helpOf rest
    | some (command, rest) =>
      match taskOf command rest, config with
      | .error stop, _ => ofStop (some command) stop
      | .ok _, .error stop => ofStop none stop
      | .ok task, .ok config => .run { config, task }
    | none =>
      match config with
      | .error stop => ofStop none stop
      | .ok _ => .usage .noCommand

end RunWatch.Terminal
