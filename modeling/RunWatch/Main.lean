import RunWatch.Control.Registry
import RunWatch.Http.Streams
import RunWatch.Http.Wire
import RunWatch.Terminal.Program
import Std.Async.DNS
import Std.Async.Signal
import Std.Async.TCP
import Std.Sync.Channel

/-!
# The command line

Runs the program: carries out its steps on the terminal, on files, and over the network.
-/

namespace RunWatch.Terminal

open Http Std.Async

/-! ### Waiting -/

/-- The time between two looks at something that is waited for, in milliseconds. -/
def glance : UInt32 := 5

/-- Waits for a result for as long as it is wanted. -/
partial def await {α : Type} (wanted : IO Bool) (x : Async α) : IO α := do
  let task ← x.asTask
  let rec wait : IO α := do
    if ← IO.hasFinished task then task.block
    else if ← wanted then
      IO.sleep glance
      wait
    else throw (IO.userError "timed out")
  wait

/-- Something is wanted until a time has passed. -/
def within (limit : Nat) : IO (IO Bool) := do
  let deadline := (← IO.monoMsNow) + limit
  return do return (← IO.monoMsNow) < deadline

/-- Sleeps for a time, or until it is not wanted any more. -/
partial def sleep (wanted : IO Bool) (duration : Nat) : IO Unit := do
  let waiting ← within duration
  let rec wait : IO Unit := do
    if (← waiting) && (← wanted) then
      IO.sleep glance
      wait
  wait

/-! ### The network -/

abbrev Socket := TCP.Socket.Client

/-- A socket connected to the first address of a host that takes the connection. -/
def connect (wanted : IO Bool) (r : Route) : IO Socket := do
  let found ← await wanted (DNS.getAddrInfo r.host.lookupText (toString r.port))
  let mut failure := IO.userError "no address"
  for ip in found do
    try
      let socket ← TCP.Socket.Client.mk
      let port := UInt16.ofNat r.port
      await wanted (socket.connect (match ip with
        | .v4 addr => .v4 ⟨addr, port⟩
        | .v6 addr => .v6 ⟨addr, port⟩))
      return socket
    catch e => failure := e
  throw failure

/-- How many bytes are asked for at once. -/
def portion : UInt64 := 65536

/-- The next bytes of a response; none at the end of the connection. -/
def receive? (wanted : IO Bool) (socket : Socket) (r : Wire.Receiver) :
    IO (Option (Wire.Receiver × List UInt8)) := do
  match ← await wanted (socket.recv? portion) with
  | some bytes => return some (r.feed bytes.data.toList)
  | none => return none

/-- What is said of bytes that are no response. -/
def noResponse : String := "what came back is no response"

/-- Sends a request and waits for the head of the response. Gives the bytes of the body that have
come with it. -/
partial def call (wanted : IO Bool) (proxies : Proxies) (r : Request) :
    IO (Except String (Socket × Wire.Receiver × List UInt8)) := do
  match r.address? with
  | none => return .error "the request cannot be sent"
  | some a =>
    let route := proxies.route a
    if !route.plain then return .error "secure connections are not supported"
    try
      let socket ← connect wanted route
      await wanted (socket.send ⟨(Wire.requestBytes route a r).toArray⟩)
      let rec head (receiver : Wire.Receiver) (body : List UInt8) :
          IO (Except String (Socket × Wire.Receiver × List UInt8)) := do
        if receiver.head.isSome then return .ok (socket, receiver, body)
        if receiver.isOver then return .error noResponse
        match ← receive? wanted socket receiver with
        | some (receiver, more) => head receiver (body ++ more)
        | none => return .error noResponse
      head {} []
    catch e => return .error (toString e)

/-- The response with all of its body that arrives. -/
partial def rest (wanted : IO Bool) (socket : Socket) (receiver : Wire.Receiver)
    (body : List UInt8) : IO Reply := do
  let whole (complete : Bool) : Reply :=
    match receiver.response? body with
    | some response => .ok { response with complete := response.complete && complete }
    | none => .error noResponse
  if receiver.isOver then return whole true
  match ← (receive? wanted socket receiver).toBaseIO with
  | .ok (some (receiver, more)) => rest wanted socket receiver (body ++ more)
  | .ok none => return whole true
  | .error _ => return whole false

/-- An exchange for as long as it is wanted. -/
def exchange (wanted : IO Bool) (proxies : Proxies) (r : Request) : IO Reply := do
  match ← call wanted proxies r with
  | .ok (socket, receiver, body) => rest wanted socket receiver body
  | .error reason => return .error reason

/-! ### Watching -/

/-- What may happen while a run is watched. -/
inductive Happening where
  | message (m : Message)
  | interrupted

/-- A watch that is going on. -/
structure Watch where
  config : Config
  proxies : Proxies
  channel : Std.CloseableChannel Happening
  /-- When the watch began, in milliseconds. -/
  began : Nat
  /-- The watchdog whose timer runs. -/
  timer : IO.Ref (Option Nat)
  /-- The stream that is read. -/
  reading : IO.Ref (Option Nat)
  /-- The watch has ended. -/
  finished : IO.Ref Bool

namespace Watch

def now (w : Watch) : IO Nat := do
  return (← IO.monoMsNow) - w.began

def post (w : Watch) (h : Happening) : IO Unit := do
  discard (w.channel.trySend h)

/-- A stream is wanted while it is the one that is read. -/
def wantsStream (w : Watch) (stream : Nat) : IO Bool := do
  return (← w.reading.get) == some stream

/-- A timer is wanted while it is the one that runs. -/
def wantsTimer (w : Watch) (watchdog : Nat) : IO Bool := do
  return (← w.timer.get) == some watchdog

/-- An exchange is wanted for a time while the watch goes on. -/
def wantsReply (w : Watch) : IO (IO Bool) := do
  let waiting ← within w.config.requestTimeout
  return do return (← waiting) && !(← w.finished.get)

/-- The reader of a stream once the connection has ended. -/
def ended (receiver : Wire.Receiver) (reader : Reader) : Reader :=
  if receiver.endsWell then reader.finish
  else reader.receive { item := .failure (.read Response.brokenOff) }

/-- Lets a reader run and passes its signals on. -/
def pass (w : Watch) (stream : Nat) (reader : Reader) : IO Reader := do
  let reader := if ← w.wantsStream stream then reader else reader.cancel
  let (reader, _, signals) := reader.run none
  for s in signals do
    w.post (.message (.signal stream s))
  return reader

/-- Reads a stream until it is over or no longer wanted. -/
partial def read (w : Watch) (stream : Nat) (socket : Socket) (receiver : Wire.Receiver)
    (body : List UInt8) (reader : Reader) : IO Unit := do
  let reader := reader.receive { item := .chunk body }
  let reader ← w.pass stream (if receiver.isOver then ended receiver reader else reader)
  if reader.isOver then return
  match ← (receive? (w.wantsStream stream) socket receiver).toBaseIO with
  | .ok (some (receiver, more)) => w.read stream socket receiver more reader
  | .ok none => discard (w.pass stream (ended receiver reader))
  | .error e =>
    discard (w.pass stream (reader.receive { item := .failure (.read (toString e)) }))

/-- Opens a stream and has it read. -/
def openStream (w : Watch) (stream : Nat) (request : StreamRequest) :
    IO (Except StreamFailure Unit) := do
  let wanted ← w.wantsReply
  match ← call wanted w.proxies (openRequest w.config request) with
  | .error reason => return (readOpening (.error reason)).map fun _ => ()
  | .ok (socket, receiver, body) =>
    let head : Reply :=
      match receiver.response? [] with
      | some response => .ok response
      | none => .error noResponse
    match readOpening head with
    | .ok _ =>
      w.reading.set (some stream)
      discard (IO.asTask (w.read stream socket receiver body {}) .dedicated)
      return .ok ()
    | .error _ => return (readOpening (← rest wanted socket receiver body)).map fun _ => ()

/-- Ticks until the timer is stopped. -/
partial def tick (w : Watch) (watchdog : Nat) : IO Unit := do
  sleep (w.wantsTimer watchdog) w.config.pollInterval
  if ← w.wantsTimer watchdog then
    w.post (.message (.tick watchdog))
    w.tick watchdog

/-- Carries out an effect. One that the controller waits for gives the input with its answer, and a
reply gives its result. -/
def perform (w : Watch) : Effect → IO (Option Controller.Input × Option (Except ClientFailure Unit))
  | .openStream stream request => do
    return (some (.opened (← w.openStream stream request)), none)
  | .send command run => do
    let reply ← exchange (← w.wantsReply) w.proxies (commandRequest w.config command run)
    return (some (.acknowledged (readAcknowledgement command reply)), none)
  | .cancelStream _ => do w.reading.set none; return (none, none)
  | .armTimer watchdog => do
    w.timer.set (some watchdog)
    discard (IO.asTask (w.tick watchdog) .dedicated)
    return (none, none)
  | .stopTimer _ => do w.timer.set none; return (none, none)
  | .fetch watchdog run => do
    let fetch := do
      let reply ← exchange (← w.wantsReply) w.proxies (fetchRequest w.config run)
      w.post (.message (.polled watchdog (readSnapshot run reply)))
    discard (IO.asTask fetch .dedicated)
    return (none, none)
  | .abortFetch _ => return (none, none)
  | .reply result => return (none, some result)
  | .publish _ => return (none, none)

/-- Gives a controller an input and carries out what it asks for, until it asks for nothing more. -/
partial def give (w : Watch) (c : Controller) (latest : Latest) (input : Controller.Input) :
    IO (Controller × Latest × Option (Except ClientFailure Unit)) := do
  let (c, effects) := (c.step (← w.now) input).takeOutbox
  let mut now := (c, latest.take effects, none)
  for e in effects do
    let (answer, result) ← w.perform e
    if result.isSome then now := (now.1, now.2.1, result)
    if let some input := answer then
      now ← w.give now.1 now.2.1 input
  return now

/-- Waits for something to happen. -/
partial def next (w : Watch) (interrupt : AsyncTask Int) : IO Happening := do
  match ← w.channel.tryRecv with
  | some h => return h
  | none =>
    if ← IO.hasFinished interrupt then return .interrupted
    IO.sleep glance
    w.next interrupt

/-- Listens for the next interrupt. -/
def listen : IO (AsyncTask Int) := do
  (← Signal.Waiter.mk .sigint false).wait

/-- Prints views until the run is over. An interrupt cancels the run; if that fails, it ends the
watch. -/
partial def follow (w : Watch) (interrupt : AsyncTask Int) (c : Controller) (latest : Latest)
    (watcher : Watcher) : IO Controller := do
  let (watcher, lines) := watcher.look latest
  for line in lines do
    IO.println line
  if watcher = .ended then return c
  match ← w.next interrupt with
  | .message m =>
    let (c, latest, _) ← w.give c latest (.message m)
    w.follow interrupt c latest watcher
  | .interrupted =>
    let (c, latest, reply) ← w.give c latest (.command .cancel)
    match reply with
    | some (.error _) => return c
    | _ => w.follow (← listen) c latest watcher

end Watch

/-- Starts a run, follows it to its end, and prints its steps. -/
def watchRun (proxies : Proxies) (config : Config) (workflow : WorkflowId)
    (inputs : Option Json.Value) : IO Nat := do
  let w : Watch :=
    { config, proxies, channel := ← Std.CloseableChannel.new, began := ← IO.monoMsNow
      timer := ← IO.mkRef none, reading := ← IO.mkRef none, finished := ← IO.mkRef false }
  let interrupt ← Watch.listen
  let (c, latest, reply) ←
    w.give { times := config.watchTimes } ⟨{}, 0⟩ (.command (.start workflow inputs))
  let status ← match reply with
    | some (.error failure) =>
      IO.eprintln (failureLine failure.message)
      pure 1
    | _ =>
      let c ← w.follow interrupt c latest .opening
      let state := c.lastState
      for line in finalLines state do
        IO.println line
      pure (watchStatus state)
  w.finished.set true
  w.timer.set none
  w.reading.set none
  return status

/-! ### The program -/

def createLog (directory file : String) : IO Bool := do
  try
    IO.FS.createDirAll directory
    discard (IO.FS.Handle.mk (directory ++ "/" ++ file) .append)
    return true
  catch _ => return false

def readFile? (path : String) : IO (Option (List UInt8)) := do
  try return some (← IO.FS.readBinFile path).data.toList
  catch _ => return none

/-- The time that requests outside of a watch may take. -/
def requestLimit : Nat := 30000

/-- Carries out a program. -/
def carryOut : Program → IO Nat
  | .exit status => return status
  | .print text next => do IO.println text; carryOut next
  | .complain text next => do IO.eprintln text; carryOut next
  | .createLog directory file next => do carryOut (next (← createLog directory file))
  | .readFile path next => do carryOut (next (← readFile? path))
  | .exchange proxies r next => do
    carryOut (next (← exchange (← within requestLimit) proxies r))
  | .watch proxies config workflow inputs => watchRun proxies config workflow inputs

/-- The variables that the program looks at. -/
def consulted : List String :=
  [Config.baseUrlVariable, Config.tokenVariable, Config.healthWindowVariable,
    Config.pollIntervalVariable, LogSettings.switchVariable, LogSettings.levelVariable,
    LogSettings.fileVariable, LogSettings.sharedVariable] ++ Proxies.variableNames

def environment : IO Environment :=
  consulted.filterMapM fun name => do
    return (← IO.getEnv name).map (name, ·)

end RunWatch.Terminal

def main (args : List String) : IO UInt32 := do
  let status ← RunWatch.Terminal.carryOut
    (RunWatch.Terminal.Program.main (← RunWatch.Terminal.environment) args)
  return UInt32.ofNat status
