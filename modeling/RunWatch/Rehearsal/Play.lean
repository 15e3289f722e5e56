import RunWatch.Rehearsal.World

/-!
# Playing actions

Actions on named controllers of a world, what each of them results in, and what is to be seen of the
controller afterwards.
-/

namespace RunWatch.Rehearsal

inductive Action where
  /-- Nothing, but everything comes to rest. -/
  | rest
  | command (c : Command)
  | shutDown
  | waitTerminal (timeout : Nat)
  /-- Makes a new controller and starts a run on it. -/
  | startRun (workflow : WorkflowId) (inputs : Option Json.Value)
  | fetchRun (run : RunId)
  /-- Drops the handle. -/
  | drop
  | queueOpens (scripts : List OpenScript)
  | queueFetches (scripts : List FetchScript)
  | queueCommands (scripts : List CommandScript)
  /-- Chunks arrive on a stream, the latest one if no number is given. -/
  | chunks (stream : Option Nat) (bytes : List (List UInt8))
  | endStream (stream : Option Nat)
  | failStream (stream : Option Nat) (failure : StreamFailure)
  | advance (duration : Nat)
  | insert
  | get
  | remove
  | summary
  | find (run : RunId)
  | retire

inductive Result where
  | nothing
  | done
  | failed (failure : ClientFailure)
  | timeout
  | noHandle
  | noStream
  | state (s : RunState)
  | snapshot (s : RunSnapshot)
  | replaced (b : Bool)
  | tracked (b : Bool)
  | removed (b : Bool)
  | summary (s : RegistrySummary)
  /-- The name of the seat with a handle on the controller, if one was found. -/
  | found (name : Option (Option String))
  | retired (states : List RunState)

/-- What is to be seen of a controller. -/
structure Sight where
  time : Nat
  log : List Entry
  openStreams : List Nat
  changed : Bool
  closed : Bool
  view : RunView
  held : Bool

/-- What an action comes to; a command without a handle shows nothing else. -/
structure Report where
  result : Result
  sight : Option Sight

namespace World

def seat (w : World) (name : String) : Seat :=
  (w.seats.lookup name).getD { key := RunKey.fresh 0 }

/-- Takes a seat at a name, with an idle controller. -/
def ensureSeat (name : String) (w : World) : World :=
  if (w.seats.lookup name).isSome then w
  else
    let (w, key) := w.addController name
    { w with seats := w.seats ++ [(name, { key })] }

def controller (w : World) (key : RunKey) : Controller :=
  (w.fleet.get? key).getD { times := w.times, closed := true }

/-- Gives a controller a command and waits for the answer. -/
def ask (key : RunKey) (c : Command) (w : World) : World × Except ClientFailure Unit :=
  if (w.controller key).closed then (w, .error .closed)
  else
    let w := { w with working := some key, reply := none }
    let w := (w.stepController key (.command c)).waitFor fun w => w.reply.isSome
    ({ w with working := none, reply := none }, w.reply.getD (.error .closed))

def answer : Except ClientFailure Unit → Result
  | .ok () => .done
  | .error failure => .failed failure

/-- Waits until the run of a controller is over, but not beyond a deadline. -/
def awaitTerminal (key : RunKey) (timeout : Nat) (w : World) : World × Result :=
  let isOver (w : World) := (w.controller key).view.state.isTerminal
  let deadline := w.now + timeout
  let w := w.leap (fun w => isOver w || (w.controller key).closed) (deadline - 1)
  if isOver w then (w, .state (w.controller key).view.state)
  else if (w.controller key).closed then (w, .failed .closed)
  else (w.restAt deadline, .timeout)

/-- Starts a run on a new controller, which takes the seat if it succeeds. -/
def startRun (name : String) (workflow : WorkflowId) (inputs : Option Json.Value) (w : World) :
    World × Result :=
  let (w, key) := w.addController name
  let (w, result) := w.ask key (.start workflow inputs)
  match result with
  | .ok () => (w.modifySeat name fun s => { s with key, held := true }, .done)
  | .error failure => (w, .failed failure)

/-- Fetches a snapshot without a controller. -/
def fetchRun (name : String) (run : RunId) (w : World) : World × Result :=
  let (script, server) := (w.server name).takeFetch
  let w := { (w.modifyServer name fun _ => server.note w.now (.fetch run)) with fetched := none }
  let w := (w.setAlarm script.delay (.fetched script.result)).waitFor fun w => w.fetched.isSome
  match w.fetched with
  | some (.ok s) => (w, .snapshot s)
  | some (.error failure) => (w, .failed (.poll failure))
  | none => (w, .failed .closed)

/-- Does something to a stream: the one with a number, or the latest. -/
def onStream (name : String) (stream : Option Nat) (f : Reader → Reader) (w : World) :
    World × Result :=
  let count := (w.server name).lines.length
  let n := stream.getD (count - 1)
  if n < count then (w.modifyServer name fun s => s.modifyLine n f, .nothing) else (w, .noStream)

/-- Does something that needs the handle. -/
def withHandle (name : String) (f : RunKey → World → World × Result) (w : World) : World × Result :=
  if (w.seat name).held then f (w.seat name).key w else (w, .noHandle)

/-- The name of a seat with a handle on a controller. -/
def nameOf? (w : World) (key : RunKey) : Option String :=
  (w.seats.find? fun (_, s) => s.key == key && s.held).map Prod.fst

def actWithHandle (name : String) : Action → World → World × Result
  | .command c => withHandle name fun key w =>
    let (w, result) := w.ask key c
    (w, answer result)
  | .shutDown => withHandle name fun key w =>
    if (w.controller key).closed then (w, .failed .closed)
    else
      let w := w.stepController key .shutDown
      (w, .state (w.controller key).state)
  | .waitTerminal timeout => withHandle name fun key w => w.awaitTerminal key timeout
  | .insert => withHandle name fun key w =>
    ({ w with registry := w.registry.insert key }, .replaced (w.registry.tracks key))
  | .get => withHandle name fun key w => (w, .tracked (w.registry.tracks key))
  | .remove => withHandle name fun key w =>
    ({ w with registry := w.registry.remove key }, .removed (w.registry.tracks key))
  | _ => fun w => (w, .nothing)

/-- Plays an action on a name. -/
def act (name : String) (a : Action) (w : World) : World × Result :=
  match a with
  | .rest => (w, .nothing)
  | .startRun workflow inputs => w.startRun name workflow inputs
  | .fetchRun run => w.fetchRun name run
  | .drop => (w.modifySeat name fun s => { s with held := false }, .nothing)
  | .queueOpens scripts =>
    (w.modifyServer name fun s => { s with opens := s.opens ++ scripts }, .nothing)
  | .queueFetches scripts =>
    (w.modifyServer name fun s => { s with fetches := s.fetches ++ scripts }, .nothing)
  | .queueCommands scripts =>
    (w.modifyServer name fun s => { s with commands := s.commands ++ scripts }, .nothing)
  | .chunks stream bytes =>
    w.onStream name stream fun r => bytes.foldl (fun r b => r.receive { item := .chunk b }) r
  | .endStream stream => w.onStream name stream Reader.finish
  | .failStream stream failure =>
    w.onStream name stream fun r => r.receive { item := .failure failure }
  | .advance duration => (w.advanceTo (w.now + duration), .nothing)
  | .summary => (w, .summary (w.registry.summary w.fleet))
  | .find run =>
    (w, .found ((w.registry.find? w.fleet run).map w.nameOf?))
  | .retire =>
    let (registry, fleet, states) := w.registry.retire w.fleet
    ({ w with registry, fleet }, .retired states)
  | a => w.actWithHandle name a

/-- An action that shows nothing but its result if the handle is gone. -/
def isShort : Action → Bool
  | .command _ | .shutDown | .waitTerminal _ => true
  | _ => false

/-- What is to be seen of the controller at a name. -/
def sight (name : String) (w : World) : Sight :=
  let s := w.seat name
  let c := w.controller s.key
  { time := w.now
    log := s.server.log
    openStreams := s.server.openLines
    changed := w.news.contains s.key && !c.closed
    closed := c.closed
    view := c.view
    held := s.held }

/-- Forgets what has been seen of a name. -/
def forget (name : String) (w : World) : World :=
  let key := (w.seat name).key
  { w.modifyServer name fun s => { s with log := [] } with news := w.news.filter (· ≠ key) }

/-- Plays an action on a name, lets everything come to rest, and reports. -/
def play (name : String) (a : Action) (w : World) : World × Report :=
  let w := w.ensureSeat name
  let (w, result) := w.act name a
  let w := w.restAt w.now
  match result, isShort a with
  | .noHandle, true => (w, ⟨.noHandle, none⟩)
  | _, _ => (w.forget name, ⟨result, some (w.sight name)⟩)

end World

/-- Plays actions in a fresh world. A configuration at fault makes no controller. -/
def rehearse (config : Config) (actions : List (String × Action)) :
    Except ConfigFault (World × List Report) :=
  let start : World := { times := config.watchTimes }
  if actions = [] then .ok (start, [])
  else do
    config.check
    return actions.foldl
      (fun (w, reports) (name, a) =>
        let (w, report) := w.play name a
        (w, reports ++ [report]))
      (start, [])

end RunWatch.Rehearsal
