import RunWatch.Control.Operation

/-!
# Traffic of a controller

What goes out of a controller on an event: the calls that reach the server, and the answers to
commands.
-/

namespace RunWatch

/-- A call of the opener of streams or of the server's interface for runs. -/
inductive Call where
  | openStream (request : StreamRequest)
  | send (command : RunCommand) (run : RunId)
  | fetch (run : RunId)
  deriving DecidableEq

namespace Effect

def call? : Effect → Option Call
  | .openStream _ request => some (.openStream request)
  | .send command run => some (.send command run)
  | .fetch _ run => some (.fetch run)
  | _ => none

def reply? : Effect → Option (Except ClientFailure Unit)
  | .reply result => some result
  | _ => none

end Effect

namespace Operation

/-- What the controller takes on an event, if it comes to that. -/
def input? (o : Operation) : Event → Option Controller.Input
  | .command c => some (.command c)
  | .shutDown => some .shutDown
  | .streamAnswer result => if awaitsStream o.controller then some (.opened result) else none
  | .commandAnswer result => some (.acknowledged result)
  | .deliver place =>
    match o.controller.awaiting, o.mail[place]? with
    | none, some l => some (.message l.message)
    | _, _ => none
  | .signal .. | .tick _ | .fetched .. | .wait _ => none

/-- What the controller puts out on an event. -/
def effects (o : Operation) (e : Event) : List Effect :=
  match o.input? e with
  | some input => (o.controller.step o.now input).outbox
  | none => []

def calls (o : Operation) (e : Event) : List Call :=
  (o.effects e).filterMap Effect.call?

def replies (o : Operation) (e : Event) : List (Except ClientFailure Unit) :=
  (o.effects e).filterMap Effect.reply?

/-- The first answer to a command in the course of some events, and where it leaves the operation. -/
def outcome? (o : Operation) : List Event → Option (Except ClientFailure Unit × Operation)
  | [] => none
  | e :: events =>
    match o.replies e with
    | result :: _ => some (result, o.step e)
    | [] => outcome? (o.step e) events

end Operation

end RunWatch
