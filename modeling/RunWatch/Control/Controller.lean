import RunWatch.Run.State
import RunWatch.Settings.Config
import RunWatch.Stream.Reader
import RunWatch.Stream.Request

/-!
# Run controllers

A controller owns one run: its state, its stream, and the watchdog that polls the server when the
stream falls silent. Commands, the answers to its requests, and messages reach it one at a time.
Each makes it put effects into its outbox, which its surroundings carry out in order.
Streams and watchdogs are numbered, so that messages of old ones are told from those of the present.
-/

namespace RunWatch

/-- The times that a controller goes by, in milliseconds. -/
structure WatchTimes where
  healthWindow : Nat
  pollInterval : Nat
  deriving DecidableEq, Repr

def Config.watchTimes (c : Config) : WatchTimes :=
  ⟨c.healthWindow, c.pollInterval⟩

/-- What a controller shows of itself. -/
structure RunView where
  state : RunState := RunState.idle
  canStart : Bool := true
  canPause : Bool := false
  canResume : Bool := false
  /-- A stream is open. -/
  streaming : Bool := false
  /-- The watchdog is armed. -/
  polling : Bool := false
  deriving DecidableEq

/-- What a controller asks of its surroundings. -/
inductive Effect where
  /-- Open a stream, whose signals carry the number. The controller waits for the answer. -/
  | openStream (stream : Nat) (request : StreamRequest)
  | cancelStream (stream : Nat)
  /-- Send a one-shot command. The controller waits for the answer. -/
  | send (command : RunCommand) (run : RunId)
  /-- Start a timer, whose ticks carry the number. -/
  | armTimer (watchdog : Nat)
  | stopTimer (watchdog : Nat)
  /-- Fetch a snapshot; the result carries the number of the watchdog. -/
  | fetch (watchdog : Nat) (run : RunId)
  | abortFetch (watchdog : Nat)
  /-- Answer the command at hand. -/
  | reply (result : Except ClientFailure Unit)
  /-- Show a new view. -/
  | publish (view : RunView)
  deriving DecidableEq

/-- What reaches a controller from its own streams, timers and fetches. -/
inductive Message where
  | signal (stream : Nat) (s : StreamSignal)
  | tick (watchdog : Nat)
  | polled (watchdog : Nat) (result : Except PollFailure RunSnapshot)
  deriving DecidableEq

inductive Command where
  | start (workflow : WorkflowId) (inputs : Option Json.Value)
  | pause
  | resume
  | cancel
  deriving DecidableEq

structure Controller where
  times : WatchTimes
  state : RunState := RunState.idle
  /-- The stream with the present number is open. -/
  streaming : Bool := false
  /-- The number of the open stream, or of the next one. -/
  stream : Nat := 0
  /-- The watchdog with the present number is armed. -/
  armed : Bool := false
  watchdog : Nat := 0
  /-- A fetch is out. -/
  fetching : Bool := false
  /-- When the stream was opened or its last frame was handled. -/
  lastFrame : Nat := 0
  /-- The command whose request is out. -/
  awaiting : Option RunCommand := none
  /-- The controller has shut down. -/
  closed : Bool := false
  /-- The last view that was published. -/
  view : RunView := {}
  outbox : List Effect := []
  deriving DecidableEq

namespace Controller

/-! ### Views -/

def canStart (c : Controller) : Bool :=
  c.state.canStart && !c.streaming

/-- The view of the present state. -/
def present (c : Controller) : RunView where
  state := c.state
  canStart := c.canStart
  canPause := c.state.canPause
  canResume := c.state.canResume
  streaming := c.streaming
  polling := c.armed

def emit (e : Effect) (c : Controller) : Controller :=
  { c with outbox := c.outbox ++ [e] }

/-- Shows the present view, if it is new. -/
def publish (c : Controller) : Controller :=
  if c.view = c.present then c else ({ c with view := c.present }).emit (.publish c.present)

/-! ### Stream and watchdog -/

/-- Cancels the stream if there is one. Its number is used up in any case. -/
def closeStream (c : Controller) : Controller :=
  let c := if c.streaming then c.emit (.cancelStream c.stream) else c
  { c with streaming := false, stream := c.stream + 1 }

/-- Stops the timer and the fetch if there are any. The number is used up in any case. -/
def stopWatchdog (c : Controller) : Controller :=
  let c := if c.armed then c.emit (.stopTimer c.watchdog) else c
  let c := if c.fetching then c.emit (.abortFetch c.watchdog) else c
  { c with armed := false, fetching := false, watchdog := c.watchdog + 1 }

def armWatchdog (c : Controller) : Controller :=
  let c := c.stopWatchdog
  ({ c with armed := true }).emit (.armTimer c.watchdog)

/-- Asks for a stream in place of the present one. -/
def openStream (command : RunCommand) (request : StreamRequest) (c : Controller) : Controller :=
  let c := c.closeStream
  ({ c with awaiting := some command }).emit (.openStream c.stream request)

/-- Asks the server to carry out a command. -/
def request (command : RunCommand) (run : RunId) (c : Controller) : Controller :=
  ({ c with awaiting := some command }).emit (.send command run)

/-- Takes a changed state with its consequences. -/
def settle (x : RunState × Transition) (c : Controller) : Controller :=
  let c := { c with state := x.1 }
  let c := if x.2.closeStream then c.closeStream else c
  if x.2.changed && x.1.isTerminal then c.closeStream.stopWatchdog else c

/-! ### Commands -/

/-- Answers the command at hand and shows the outcome. -/
def reply (result : Except ClientFailure Unit) (c : Controller) : Controller :=
  publish (({ c with awaiting := none }).emit (.reply result))

def refuse (command : RunCommand) (c : Controller) : Controller :=
  c.reply (.error (.refused command c.state.phase))

def start (workflow : WorkflowId) (inputs : Option Json.Value) (c : Controller) : Controller :=
  if c.canStart = false then c.refuse .start
  else if Text.blank workflow.text then c.reply (.error (.input .blankWorkflow))
  else
    let c := c.stopWatchdog
    ({ c with state := RunState.placeholder workflow }).openStream .start (.start workflow inputs)

def pause (c : Controller) : Controller :=
  if c.state.canPause = false then c.refuse .pause
  else match c.state.id with
    | none => c.reply (.error (.command .unconfirmed))
    | some run => c.request .pause run

def resume (c : Controller) : Controller :=
  match c.state.canResume, c.state.workflowId, c.state.id with
  | true, some workflow, some run => c.openStream .resume (.resume workflow run)
  | _, _, _ => c.refuse .resume

/-- A run that the server has not confirmed is cancelled without asking it. -/
def cancel (c : Controller) : Controller :=
  if c.state.isTerminal || (!c.streaming && c.state.id.isNone) then c.refuse .cancel
  else match c.state.id with
    | none => (c.settle c.state.cancel).reply (.ok ())
    | some run => c.request .cancel run

def command : Command → Controller → Controller
  | .start workflow inputs => start workflow inputs
  | .pause => pause
  | .resume => resume
  | .cancel => cancel

/-! ### Answers to requests -/

/-- The stream is open. -/
def install (now : Nat) (c : Controller) : Controller :=
  { c with streaming := true, lastFrame := now }

/-- The answer to a request for a stream. -/
def opened (now : Nat) (result : Except StreamFailure Unit) (c : Controller) : Controller :=
  match c.awaiting, result with
  | some .start, .ok () => ((c.install now).armWatchdog).reply (.ok ())
  | some .start, .error failure =>
    ({ c with state := c.state.noteError failure.message }).reply (.error (.stream failure))
  | some .resume, .ok () =>
    (((c.install now).settle c.state.markResumed).armWatchdog).reply (.ok ())
  | some .resume, .error failure => c.reply (.error (.stream failure))
  | _, _ => c

/-- The answer to a one-shot command. -/
def acknowledged (result : Except ClientFailure Unit) (c : Controller) : Controller :=
  match c.awaiting, result with
  | some .pause, .ok () => (c.settle (c.state.applyEvent .paused)).reply (.ok ())
  | some .cancel, .ok () => (c.settle (c.state.applyEvent .cancelled)).reply (.ok ())
  | some .pause, .error failure => c.reply (.error failure)
  | some .cancel, .error failure => c.reply (.error failure)
  | _, _ => c

/-! ### Messages -/

/-- A run without an id cannot be polled, so a lost stream ends it. -/
def failUnconfirmed (message : String) (c : Controller) : Controller :=
  if c.state.id.isSome || c.state.isTerminal then c
  else
    let c := c.stopWatchdog
    c.settle (c.state.fail message)

def endedUnconfirmed : String := "stream ended before the server confirmed a run id"

def failedUnconfirmed (failure : StreamFailure) : String :=
  "stream failed before the server confirmed a run id: " ++ failure.message

/-- A signal of the open stream. -/
def signal (now : Nat) (s : StreamSignal) (c : Controller) : Controller :=
  match s with
  | .frame f =>
    let c := { c with lastFrame := now }
    match RunEvent.ofFrame? f with
    | some e => c.settle (c.state.applyEvent e)
    | none => c
  | .closed => c.closeStream.failUnconfirmed endedUnconfirmed
  | .failed failure => c.closeStream.failUnconfirmed (failedUnconfirmed failure)

/-- The stream is there and not yet stale. -/
def healthy (now : Nat) (c : Controller) : Bool :=
  c.streaming && now - c.lastFrame < c.times.healthWindow

/-- A tick of the armed watchdog: fetches a snapshot if nothing else tells how the run goes. -/
def tick (now : Nat) (c : Controller) : Controller :=
  if c.state.isTerminal then c.stopWatchdog
  else if c.fetching || c.healthy now then c
  else match c.state.id with
    | none => c
    | some run => ({ c with fetching := true }).emit (.fetch c.watchdog run)

def goneRecord : String := "run record no longer exists"

/-- The result of the fetch. -/
def polled (result : Except PollFailure RunSnapshot) (c : Controller) : Controller :=
  let c := { c with fetching := false }
  match result with
  | .ok snapshot => c.settle (c.state.applySnapshot snapshot)
  | .error (.notFound _) =>
    let c := c.stopWatchdog
    c.settle (c.state.fail goneRecord)
  | .error _ => c

/-- Whether a message is of the present stream or watchdog. -/
def concerns (c : Controller) : Message → Bool
  | .signal stream _ => stream == c.stream && c.streaming
  | .tick watchdog => watchdog == c.watchdog && c.armed
  | .polled watchdog _ => watchdog == c.watchdog

/-- Takes a message; one of an old stream or watchdog does nothing. -/
def message (now : Nat) (m : Message) (c : Controller) : Controller :=
  if c.concerns m = false then c
  else publish (match m with
    | .signal _ s => c.signal now s
    | .tick _ => c.tick now
    | .polled _ result => c.polled result)

/-! ### Steps -/

/-- Gives up everything that runs. -/
def shutDown (c : Controller) : Controller :=
  let c := (c.closeStream.stopWatchdog).publish
  { c with closed := true }

/-- Everything that can reach a controller. -/
inductive Input where
  | command (c : Command)
  | opened (result : Except StreamFailure Unit)
  | acknowledged (result : Except ClientFailure Unit)
  | message (m : Message)
  /-- A shutdown, or the end of the last handle. -/
  | shutDown
  deriving DecidableEq

/-- Takes an input. A controller that awaits an answer takes only that; a closed one takes
nothing. -/
def step (now : Nat) (c : Controller) (input : Input) : Controller :=
  if c.closed then c
  else match c.awaiting, input with
    | none, .command cmd => c.command cmd
    | none, .message m => c.message now m
    | none, .shutDown => c.shutDown
    | some _, .opened result => c.opened now result
    | some _, .acknowledged result => c.acknowledged result
    | _, _ => c

/-- Hands over the effects. -/
def takeOutbox (c : Controller) : Controller × List Effect :=
  ({ c with outbox := [] }, c.outbox)

end Controller

end RunWatch
