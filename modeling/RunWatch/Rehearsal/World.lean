import RunWatch.Control.Registry
import RunWatch.Rehearsal.Server

/-!
# Worlds

Controllers and scripted servers on a virtual clock. The clock stands still while anything has
something to do; then it leaps to the next alarm. Alarms that are due together ring in the order in
which they were set.
-/

namespace RunWatch.Rehearsal

/-- What an alarm does when it rings. -/
inductive Ring where
  /-- A watchdog ticks. -/
  | tick (key : RunKey) (watchdog : Nat)
  /-- A server answers a request for a stream. -/
  | opened (key : RunKey) (stream : Nat) (script : OpenScript)
  | acknowledged (key : RunKey) (result : Except ClientFailure Unit)
  | polled (key : RunKey) (watchdog : Nat) (result : Except PollFailure RunSnapshot)
  /-- A server answers a fetch that no controller made. -/
  | fetched (result : Except PollFailure RunSnapshot)

structure Alarm where
  time : Nat
  ring : Ring

/-- A fetch that is asked for but not yet begun. -/
structure PendingFetch where
  key : RunKey
  watchdog : Nat
  run : RunId

/-- A controller's place: where it came from, and the handle on it. -/
structure Seat where
  key : RunKey
  server : Server := {}
  /-- The handle still exists. -/
  held : Bool := true

structure World where
  times : WatchTimes
  now : Nat := 0
  fleet : Fleet := {}
  registry : Registry := {}
  /-- Seats by name. -/
  seats : List (String × Seat) := []
  /-- The name of the seat that a controller was made at. -/
  homes : List (RunKey × String) := []
  /-- Messages on their way, the oldest first. -/
  mail : List (RunKey × Message) := []
  alarms : List Alarm := []
  pending : List PendingFetch := []
  /-- The controller that a command is waiting for. -/
  working : Option RunKey := none
  reply : Option (Except ClientFailure Unit) := none
  fetched : Option (Except PollFailure RunSnapshot) := none
  /-- The controllers that have published since they were last looked at. -/
  news : List RunKey := []

namespace World

/-! ### Parts -/

def modifySeat (name : String) (f : Seat → Seat) (w : World) : World :=
  { w with seats := w.seats.map fun (n, s) => (n, if n = name then f s else s) }

def modifyServer (name : String) (f : Server → Server) (w : World) : World :=
  w.modifySeat name fun s => { s with server := f s.server }

def server (w : World) (name : String) : Server :=
  (w.seats.lookup name).elim {} Seat.server

def home (w : World) (key : RunKey) : String :=
  (w.homes.lookup key).getD ""

def stepController (key : RunKey) (input : Controller.Input) (w : World) : World :=
  { w with fleet := w.fleet.modify key fun c => c.step w.now input }

def setAlarm (delay : Nat) (ring : Ring) (w : World) : World :=
  { w with alarms := w.alarms ++ [⟨w.now + delay, ring⟩] }

def post (key : RunKey) (m : Message) (w : World) : World :=
  { w with mail := w.mail ++ [(key, m)] }

/-- Makes a controller at a seat. -/
def addController (name : String) (w : World) : World × RunKey :=
  let key := RunKey.fresh w.fleet.controllers.length
  ({ w with
      fleet := w.fleet.add key { times := w.times }
      homes := w.homes ++ [(key, name)] }, key)

/-! ### Effects -/

/-- The alarm is the timer of a watchdog. -/
def Ring.isTick (key : RunKey) (watchdog : Nat) : Ring → Bool
  | .tick k n => k == key && n == watchdog
  | _ => false

/-- The alarm is the answer to a fetch of a watchdog. -/
def Ring.isPolled (key : RunKey) (watchdog : Nat) : Ring → Bool
  | .polled k n _ => k == key && n == watchdog
  | _ => false

/-- Carries out an effect of a controller. -/
def perform (key : RunKey) (w : World) : Effect → World
  | .openStream stream request =>
    let (script, server) := (w.server (w.home key)).takeOpen
    (w.modifyServer (w.home key) fun _ => server.note w.now (.openStream request)).setAlarm
      script.delay (.opened key stream script)
  | .cancelStream stream => w.modifyServer (w.home key) (Server.cancelLine key stream)
  | .send command run =>
    let (script, server) := (w.server (w.home key)).takeCommand
    (w.modifyServer (w.home key) fun _ => server.note w.now (.command command run)).setAlarm
      script.delay (.acknowledged key script.result)
  | .armTimer watchdog => w.setAlarm w.times.pollInterval (.tick key watchdog)
  | .stopTimer watchdog =>
    { w with alarms := w.alarms.filter fun a => !Ring.isTick key watchdog a.ring }
  | .fetch watchdog run => { w with pending := w.pending ++ [⟨key, watchdog, run⟩] }
  | .abortFetch watchdog =>
    { w with
      pending := w.pending.filter fun p => !(p.key == key && p.watchdog == watchdog)
      alarms := w.alarms.filter fun a => !Ring.isPolled key watchdog a.ring }
  | .reply result => if w.working = some key then { w with reply := some result } else w
  | .publish _ => { w with news := key :: w.news }

/-- Carries out the effects of all controllers. -/
def performAll (w : World) : World :=
  w.fleet.controllers.foldl
    (fun w (key, c) =>
      let emptied := w.fleet.modify key fun c => { c with outbox := [] }
      c.outbox.foldl (perform key) { w with fleet := emptied })
    w

/-- Begins the fetches that controllers have asked for. -/
def beginFetches (w : World) : World :=
  w.pending.foldl
    (fun w p =>
      let (script, server) := (w.server (w.home p.key)).takeFetch
      (w.modifyServer (w.home p.key) fun _ => server.note w.now (.fetch p.run)).setAlarm
        script.delay (.polled p.key p.watchdog script.result))
    { w with pending := [] }

/-! ### Rounds -/

/-- An alarm rings. A timer sets itself again at once. -/
def ring (w : World) (a : Alarm) : World :=
  match a.ring with
  | .tick key watchdog =>
    (w.post key (.tick watchdog)).setAlarm w.times.pollInterval (.tick key watchdog)
  | .opened key stream script =>
    match script.rejection with
    | some failure => w.stepController key (.opened (.error failure))
    | none =>
      (w.modifyServer (w.home key) (Server.addLine key stream script)).stepController key
        (.opened (.ok ()))
  | .acknowledged key result => w.stepController key (.acknowledged result)
  | .polled key watchdog result => w.post key (.polled watchdog result)
  | .fetched result => { w with fetched := some result }

/-- Rings the alarms that are due. -/
def ringDue (w : World) : World :=
  (w.alarms.filter fun a => a.time ≤ w.now).foldl ring
    { w with alarms := w.alarms.filter fun a => w.now < a.time }

/-- Lets the readers of all streams run. -/
def runReaders (w : World) : World :=
  let ran := w.seats.map fun (name, s) => (name, s, s.server.runLines)
  { w with
    seats := ran.map fun (name, s, r) => (name, { s with server := r.1 })
    mail := w.mail ++ ran.flatMap fun (_, _, r) => r.2 }

/-- A message reaches its controller, or waits while the controller waits. -/
def deliver (w : World) (letter : RunKey × Message) : World :=
  match w.fleet.get? letter.1 with
  | some c =>
    if c.awaiting.isSome then w.post letter.1 letter.2
    else w.stepController letter.1 (.message letter.2)
  | none => w

def deliverAll (w : World) : World :=
  w.mail.foldl deliver { w with mail := [] }

/-- Everything that has something to do does it once. -/
def round (w : World) : World :=
  beginFetches (performAll (deliverAll (runReaders (ringDue w))))

/-- Somebody still holds a handle on the controller. -/
def isHeld (w : World) (key : RunKey) : Bool :=
  w.registry.tracks key || w.working == some key ||
    w.seats.any fun (_, s) => s.key == key && s.held

/-- Controllers that nobody holds shut down. -/
def reap (w : World) : World :=
  w.fleet.controllers.foldl
    (fun w (key, _) => if w.isHeld key then w else w.stepController key .shutDown) w

/-- The number of rounds after which nothing is left to do: a message may lead to a fetch, its
result to the end of a stream, and that to one last signal. -/
def roundsToRest : Nat := 6

/-- Lets everything come to rest. -/
def settle (w : World) : World :=
  Nat.repeat round roundsToRest (performAll (reap w))

/-! ### Time -/

/-- The world comes to rest at a moment. -/
def restAt (time : Nat) (w : World) : World :=
  { settle { w with now := time } with now := time }

/-- When the next alarm rings. -/
def nextAlarm? (w : World) : Option Nat :=
  (w.alarms.map Alarm.time).min?

/-- Leaps from alarm to alarm, up to and including a moment, until something holds. -/
def leap (until? : World → Bool) (target : Nat) (w : World) : World :=
  if until? w then w
  else match w.nextAlarm? with
    | none => w
    | some t =>
      if _h : w.now < t ∧ t ≤ target then leap until? target (w.restAt t) else w
termination_by target - w.now
decreasing_by
  simp only [restAt]
  omega

/-- Lets time pass up to and including a moment. -/
def advanceTo (target : Nat) (w : World) : World :=
  restAt target (w.leap (fun _ => false) target)

/-- The last moment at which an alarm rings. -/
def horizon (w : World) : Nat :=
  ((w.alarms.map Alarm.time).max?).getD w.now

/-- Lets time pass until something holds, which an alarm that is set brings about. -/
def waitFor (until? : World → Bool) (w : World) : World :=
  let w := w.restAt w.now
  w.leap until? w.horizon

end World

end RunWatch.Rehearsal
