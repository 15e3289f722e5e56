import RunWatch.Control.Registry
import RunWatch.Http.Client
import RunWatch.Rehearsal.Files
import RunWatch.Rehearsal.WebServer
import RunWatch.Terminal.Program

/-!
# Rehearsing the program

Runs the program against a scripted web server and a directory of files, and keeps what it prints.
-/

namespace RunWatch.Rehearsal

open Http Terminal

/-- The surroundings of the program. -/
structure Console where
  server : WebServer := {}
  files : Files := {}
  output : List String := []
  errors : List String := []

namespace Console

/-- A text as lines on a stream, without their endings. -/
def lines (text : String) : List String :=
  (Text.splitAtChar '\n' text.toList).map fun line =>
    String.ofList (if line.getLast? = some '\r' then line.dropLast else line)

def print (c : Console) (text : String) : Console :=
  { c with output := c.output ++ lines text }

def complain (c : Console) (text : String) : Console :=
  { c with errors := c.errors ++ lines text }

def readFile (c : Console) (path : String) : Option (List UInt8) :=
  c.files.read path

/-- Creates an empty file unless it exists, and says whether that succeeded. -/
def create (c : Console) (directory file : String) : Console × Bool :=
  match c.files.create directory file with
  | some files => ({ c with files }, true)
  | none => (c, false)

def exchange (proxies : Proxies) (c : Console) (r : Request) : Console × Reply :=
  let (server, reply) := c.server.exchange proxies r
  ({ c with server }, reply)

end Console

/-! ### Watching -/

/-- A watched run. -/
structure WatchScene where
  proxies : Proxies
  console : Console
  controller : Controller
  latest : Latest
  watcher : Watcher := .opening

namespace WatchScene

/-- Shows the watcher what the controller has published, and fetches what it asks for. -/
def carryOut (config : Config) (now : Nat) (s : WatchScene) : WatchScene :=
  let (controller, effects) := s.controller.takeOutbox
  let (watcher, seen) := s.watcher.look (s.latest.take effects)
  let s := { s with
    controller
    latest := s.latest.take effects
    watcher
    console := seen.foldl Console.print s.console }
  effects.foldl
    (fun s e => match e with
      | .fetch watchdog run =>
        let (console, result) := fetch (Console.exchange s.proxies) config run s.console
        { s with
          console
          controller := s.controller.step now (.message (.polled watchdog result)) }
      | _ => s) s

/-- One message and what follows from it. -/
def receive (config : Config) (now : Nat) (s : WatchScene) (m : Message) : WatchScene :=
  let s := { s with controller := s.controller.step now (.message m) }
  carryOut config now (carryOut config now s)

/-- The watchdog ticks until the run is over, a number of times at most. -/
def poll (config : Config) (now : Nat) (s : WatchScene) : (ticks : Nat) → WatchScene
  | 0 => s
  | ticks + 1 =>
    if s.watcher = .ended then s
    else
      let now := now + config.pollInterval
      poll config now (s.receive config now (.tick s.controller.watchdog)) ticks

/-- The number of ticks after which the script has nothing more to say. -/
def patience (config : Config) (s : WatchScene) : Nat :=
  config.healthWindow / config.pollInterval + s.console.server.responses.length + 2

/-- The steps of the run, and the exit status. -/
def finish (s : WatchScene) : Console × Nat :=
  let state := s.controller.lastState
  ((finalLines state).foldl Console.print s.console, watchStatus state)

end WatchScene

/-- Starts a run, lets all of its stream arrive at once, and polls if that does not end it. A fresh
controller refuses to start nothing but a blank workflow. -/
def watch (proxies : Proxies) (config : Config) (workflow : WorkflowId)
    (inputs : Option Json.Value) (c : Console) : Console × Nat :=
  let fresh : Controller := { times := config.watchTimes }
  let (controller, effects) := (fresh.step 0 (.command (.start workflow inputs))).takeOutbox
  match effects with
  | [.openStream stream request] =>
    let (c, opening) := openStream (Console.exchange proxies) config request c
    let controller := controller.step 0 (.opened (opening.map fun _ => ()))
    match opening with
    | .error failure => (c.complain (failureLine failure.message), 1)
    | .ok reader =>
      let s : WatchScene := { proxies, console := c, controller, latest := ⟨{}, 0⟩ }
      let s := (reader.run none).2.2.foldl
        (fun s signal => s.receive config 0 (.signal stream signal)) (s.carryOut config 0)
      (s.poll config 0 (s.patience config)).finish
  | _ => (c.complain (failureLine (ClientFailure.input .blankWorkflow).message), 1)

/-! ### Programs -/

/-- Runs a program to its exit. -/
def run : Program → Console → Console × Nat
  | .exit status, c => (c, status)
  | .print text next, c => run next (c.print text)
  | .complain text next, c => run next (c.complain text)
  | .createLog directory file next, c =>
    run (next (c.create directory file).2) (c.create directory file).1
  | .readFile path next, c => run (next (c.readFile path)) c
  | .exchange proxies r next, c => run (next (c.exchange proxies r).2) (c.exchange proxies r).1
  | .watch proxies config workflow inputs, c => watch proxies config workflow inputs c

end RunWatch.Rehearsal
