import RunWatch.Control.Controller

/-!
# Controllers in operation

A controller together with the streams, timers and fetches that it has set going. Each of these may
send messages at any time, also after it has been given up; a message is on its way for as long as
it likes, and messages overtake each other. Senders are told apart by their place in the order in
which they were set going, not by the numbers that their messages carry.
-/

namespace RunWatch

structure Fetch where
  watchdog : Nat
  run : RunId
  /-- How often the watchdog had been armed or stopped by then. -/
  turn : Nat
  deriving DecidableEq

/-- What a controller has set going, the oldest first. -/
structure Activity where
  /-- The numbers of the streams that were asked for, the refused ones included. -/
  streams : List Nat := []
  /-- The place of the stream that is open. -/
  open? : Option Nat := none
  timers : List Nat := []
  /-- The place of the timer that runs. -/
  armed? : Option Nat := none
  turn : Nat := 0
  fetches : List Fetch := []
  deriving DecidableEq

/-- A message on its way. -/
structure Letter where
  /-- The place of the sender among the streams, the timers or the fetches. -/
  sender : Nat
  message : Message
  deriving DecidableEq

namespace Activity

def perform (a : Activity) : Effect → Activity
  | .openStream stream _ => { a with streams := a.streams ++ [stream] }
  | .cancelStream _ => { a with open? := none }
  | .armTimer watchdog =>
    { a with
      timers := a.timers ++ [watchdog]
      armed? := some a.timers.length
      turn := a.turn + 1 }
  | .stopTimer _ => { a with armed? := none, turn := a.turn + 1 }
  | .fetch watchdog run => { a with fetches := a.fetches ++ [⟨watchdog, run, a.turn⟩] }
  | .send .. | .abortFetch _ | .reply _ | .publish _ => a

def performAll (a : Activity) (effects : List Effect) : Activity :=
  effects.foldl perform a

/-- The stream that was asked for last is open. -/
def accept (a : Activity) : Activity :=
  { a with open? := some (a.streams.length - 1) }

/-- The letter comes from a stream that is not the open one, from a timer that is not the armed
one, or from a fetch that began before the watchdog was last armed or stopped. -/
def isPast (a : Activity) (l : Letter) : Bool :=
  match l.message with
  | .signal .. => a.open? != some l.sender
  | .tick _ => a.armed? != some l.sender
  | .polled .. => (a.fetches[l.sender]?).all fun f => f.turn < a.turn

end Activity

/-- A controller, what it has set going, and the messages on their way to it. -/
structure Operation where
  controller : Controller
  now : Nat := 0
  activity : Activity := {}
  mail : List Letter := []

namespace Operation

/-- What may happen next. The sender of a message is given by its place, as is a letter to be
delivered. -/
inductive Event where
  | command (c : Command)
  | shutDown
  | streamAnswer (result : Except StreamFailure Unit)
  | commandAnswer (result : Except ClientFailure Unit)
  | signal (place : Nat) (s : StreamSignal)
  | tick (place : Nat)
  | fetched (place : Nat) (result : Except PollFailure RunSnapshot)
  | deliver (place : Nat)
  | wait (duration : Nat)
  deriving DecidableEq

/-- The controller takes an input, and its effects are carried out. -/
def take (input : Controller.Input) (o : Operation) : Operation :=
  let (controller, effects) := (o.controller.step o.now input).takeOutbox
  { o with controller, activity := o.activity.performAll effects }

def awaitsStream (c : Controller) : Bool :=
  c.awaiting == some .start || c.awaiting == some .resume

def answerStream (result : Except StreamFailure Unit) (o : Operation) : Operation :=
  if awaitsStream o.controller then
    match result with
    | .ok () => take (.opened (.ok ())) { o with activity := o.activity.accept }
    | .error failure => take (.opened (.error failure)) o
  else o

/-- Sends a letter, if there is such a sender. -/
def send (sender : Nat) (message? : Option Message) (o : Operation) : Operation :=
  match message? with
  | some message => { o with mail := o.mail ++ [⟨sender, message⟩] }
  | none => o

/-- The letter at a place of the mail arrives, unless the controller waits for an answer. -/
def deliver (place : Nat) (o : Operation) : Operation :=
  match o.controller.awaiting, o.mail[place]? with
  | none, some l => take (.message l.message) { o with mail := o.mail.eraseIdx place }
  | _, _ => o

def step (o : Operation) : Event → Operation
  | .command c => o.take (.command c)
  | .shutDown => o.take .shutDown
  | .streamAnswer result => o.answerStream result
  | .commandAnswer result => o.take (.acknowledged result)
  | .signal place s => o.send place ((o.activity.streams[place]?).map fun n => .signal n s)
  | .tick place => o.send place ((o.activity.timers[place]?).map .tick)
  | .fetched place result =>
    o.send place ((o.activity.fetches[place]?).map fun f => .polled f.watchdog result)
  | .deliver place => o.deliver place
  | .wait duration => { o with now := o.now + duration }

/-- A fresh controller after some events. -/
def after (times : WatchTimes) (events : List Event) : Operation :=
  events.foldl step { controller := { times } }

end Operation

end RunWatch
