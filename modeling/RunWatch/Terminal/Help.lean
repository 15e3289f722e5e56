import RunWatch.Terminal.Invocation

/-!
# Help

The texts that tell how the program is used.
-/

namespace RunWatch.Terminal

/-- How far the descriptions of options are indented. -/
def indent : String := "          "

/-- A text whose further lines are indented like its first one. -/
def indented (s : String) : String :=
  ("\n" ++ indent).intercalate ((Text.splitAtChar '\n' s.toList).map String.ofList)

/-- What the help says of the variable of an option: its value, unless that is to stay hidden. -/
def variableNote (env : Environment) (o : OptionSpec) (hidden : Bool) : String :=
  match o.source with
  | none => ""
  | some v =>
    if hidden then " [env: " ++ v ++ "]"
    else " [env: " ++ v ++ "=" ++ indented ((env.lookup v).getD "") ++ "]"

def programHelp (env : Environment) : List String :=
  ["Drive workflow runs and propose document patches",
    "",
    "Usage: " ++ programName ++ " [OPTIONS] <COMMAND>",
    "",
    "Commands:",
    "  watch   Start a run and follow it until it finishes (Ctrl-C cancels it)",
    "  status  Poll a run's status once",
    "  patch   Preview (default) or apply a full-replace patch",
    "  help    Print this message or the help of the given subcommand(s)",
    "",
    "Options:",
    "      --base-url <BASE_URL>",
    "          Workflow server base URL" ++ variableNote env baseUrlOption false ++
      " [default: " ++ defaultBaseUrl ++ "]",
    "      --token <TOKEN>",
    "          Bearer token sent with every request" ++ variableNote env tokenOption true,
    "      --health-window-secs <HEALTH_WINDOW_SECS>",
    "          Seconds a stream may stay silent before polling takes over" ++
      variableNote env healthWindowOption false ++ " [default: 15]",
    "      --poll-interval-secs <POLL_INTERVAL_SECS>",
    "          Seconds between watchdog ticks" ++ variableNote env pollIntervalOption false ++
      " [default: 5]",
    "      --status-suffix",
    "          Poll \x60<runs>/<id>/status\x60 instead of \x60<runs>/<id>\x60",
    "  -h, --help",
    "          Print help",
    "  -V, --version",
    "          Print version"]

def watchHelp : List String :=
  ["Start a run and follow it until it finishes (Ctrl-C cancels it)",
    "",
    "Usage: " ++ programName ++ " watch [OPTIONS] <WORKFLOW_ID>",
    "",
    "Arguments:",
    "  <WORKFLOW_ID>  ",
    "",
    "Options:",
    "      --inputs <INPUTS>  Run inputs as a JSON document",
    "  -h, --help             Print help"]

def statusHelp : List String :=
  ["Poll a run's status once",
    "",
    "Usage: " ++ programName ++ " status <RUN_ID>",
    "",
    "Arguments:",
    "  <RUN_ID>  ",
    "",
    "Options:",
    "  -h, --help  Print help"]

def patchHelp : List String :=
  ["Preview (default) or apply a full-replace patch",
    "",
    "Usage: " ++ programName ++ " patch [OPTIONS] --base <BASE> --replace <REPLACE> <RESOURCE>",
    "",
    "Arguments:",
    "  <RESOURCE>  Resource path, e.g. \x60api/workflows/<id>\x60",
    "",
    "Options:",
    "      --base <BASE>        Revision the new content was written against",
    "      --replace <REPLACE>  File holding the new document body",
    "      --apply              Commit instead of dry-running",
    "  -h, --help               Print help"]

def helpHelp : List String :=
  ["Print this message or the help of the given subcommand(s)",
    "",
    "Usage: " ++ programName ++ " help [COMMAND]...",
    "",
    "Arguments:",
    "  [COMMAND]...  Print help for the subcommand(s)"]

/-- The help on the program or on one of its commands. -/
def helpText (env : Environment) (command : Option String) : String :=
  "\n".intercalate <| match command with
    | some "watch" => watchHelp
    | some "status" => statusHelp
    | some "patch" => patchHelp
    | some "help" => helpHelp
    | _ => programHelp env

end RunWatch.Terminal
