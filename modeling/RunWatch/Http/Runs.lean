import RunWatch.Http.Exchange
import RunWatch.Run.Snapshot

/-!
# Runs over HTTP

Status fetches and one-shot commands.
-/

namespace RunWatch.Http

/-! ### Status fetches -/

def fetchRequest (c : Config) (run : RunId) : Request :=
  request c .get (c.statusUrl run)

/-- The statuses that say that there is no such run. -/
def isGone (status : Nat) : Bool :=
  status == 404 || status == 410

/-- What is said of a body that is no snapshot. -/
def noSnapshot : String := "the body is no snapshot"

/-- The snapshot that a fetch brings back. -/
def readSnapshot (run : RunId) : Reply → Except PollFailure RunSnapshot
  | .error reason => .error (.transient reason)
  | .ok response =>
    if isGone response.status then .error (.notFound run)
    else if response.isSuccess = false then .error (.transient response.failure)
    else match response.text? with
      | .error reason => .error (.transient reason)
      | .ok body =>
        match RunSnapshot.ofBody? body with
        | some snapshot => .ok snapshot
        | none => .error (.malformed noSnapshot)

/-! ### Commands -/

def commandRequest (c : Config) (command : RunCommand) (run : RunId) : Request :=
  request c .post (c.commandUrl run command.text)

/-- Whether the server has carried out a command. -/
def readAcknowledgement (command : RunCommand) : Reply → Except ClientFailure Unit
  | .error reason => .error (.command (.notSent command reason))
  | .ok response =>
    if response.isSuccess then .ok () else .error (.command (.rejected command response.failure))

end RunWatch.Http
