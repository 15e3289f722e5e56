import RunWatch.Decimal.Numeral
import RunWatch.Identity
import RunWatch.Run.Phase

/-!
# Failures

Every cause of a failure with its message. A cause that the client finds itself is a constructor;
what a server or a connection reports comes as a text.
-/

namespace RunWatch

/-- Results can be compared if failures and values can. -/
instance instDecidableEqResult {ε α : Type} [DecidableEq ε] [DecidableEq α] :
    DecidableEq (Except ε α)
  | .ok a, .ok b => decidable_of_iff (a = b) ⟨congrArg _, fun h => by injection h⟩
  | .error a, .error b => decidable_of_iff (a = b) ⟨congrArg _, fun h => by injection h⟩
  | .ok _, .error _ => isFalse nofun
  | .error _, .ok _ => isFalse nofun

/-- Commands that a run's controller may refuse. -/
inductive RunCommand where
  | start
  | pause
  | resume
  | cancel
  deriving DecidableEq, Repr

def RunCommand.text : RunCommand → String
  | .start => "start"
  | .pause => "pause"
  | .resume => "resume"
  | .cancel => "cancel"

/-! ### Streams -/

inductive StreamFailure where
  /-- The request could not be sent. -/
  | connect (reason : String)
  /-- The server answered with a failure status. -/
  | rejected (status : Nat) (reason : String)
  /-- The answer was not an event stream. -/
  | protocol (reason : String)
  /-- The connection failed in the middle of the stream. -/
  | read (reason : String)
  deriving DecidableEq, Repr

def StreamFailure.message : StreamFailure → String
  | .connect reason => "connection failed: " ++ reason
  | .rejected status reason => s!"stream rejected ({status}): " ++ reason
  | .protocol reason => "stream protocol error: " ++ reason
  | .read reason => "stream read failed: " ++ reason

/-! ### Status fetches -/

inductive PollFailure where
  /-- There is no such run any more. -/
  | notFound (id : RunId)
  | transient (reason : String)
  /-- The snapshot could not be read. -/
  | malformed (reason : String)
  deriving DecidableEq, Repr

namespace PollFailure

def message : PollFailure → String
  | .notFound id => "run " ++ id.text ++ " not found"
  | .transient reason => "transient poll failure: " ++ reason
  | .malformed reason => "malformed run snapshot: " ++ reason

/-- The next fetch may succeed. -/
def isRetryable : PollFailure → Bool
  | .notFound _ => false
  | _ => true

end PollFailure

/-! ### Patches -/

/-- Why a patch must not reach the server. -/
inductive PatchFault where
  | noBase
  | noOperations
  | noLocation (index : Nat)
  | noContent (index : Nat)
  | other (reason : String)
  deriving DecidableEq, Repr

def PatchFault.message : PatchFault → String
  | .noBase => "base revision is empty"
  | .noOperations => "patch has no operations"
  | .noLocation index => s!"operation {index}: structural edit has no location"
  | .noContent index => s!"operation {index}: full replace content is empty"
  | .other reason => reason

/-- What was unexpected in the answer to a patch. -/
inductive AnswerFault where
  | noRevision
  | noReason
  | unreadable (reason : String)
  | other (reason : String)
  deriving DecidableEq, Repr

def AnswerFault.message : AnswerFault → String
  | .noRevision => "apply succeeded without a new revision"
  | .noReason => "apply failed without a reason"
  | .unreadable reason => "unreadable patch response: " ++ reason
  | .other reason => reason

inductive PatchFailure where
  /-- Refused before anything was sent. -/
  | malformed (fault : PatchFault)
  /-- The server's checks failed. -/
  | invalid (errors : List String)
  /-- The base was stale and could not be brought up to date. -/
  | conflict (reason : String)
  | transport (reason : String)
  | protocol (fault : AnswerFault)
  deriving DecidableEq, Repr

namespace PatchFailure

def message : PatchFailure → String
  | .malformed fault => "malformed patch: " ++ fault.message
  | .invalid errors => "patch validation failed: " ++ "; ".intercalate errors
  | .conflict reason => reason
  | .transport reason => "patch transport error: " ++ reason
  | .protocol fault => "patch protocol error: " ++ fault.message

/-- The conflict that no rebase can resolve. -/
def unresolved : PatchFailure :=
  .conflict "someone else changed this document, please retry"

end PatchFailure

/-! ### The client -/

inductive ConfigFault where
  | emptyBaseUrl
  | zeroPollInterval
  | zeroHealthWindow
  | missingVariable (key : String)
  | badSeconds (key : String) (fault : Decimal.NumeralFault)
  | other (reason : String)
  deriving DecidableEq, Repr

def ConfigFault.message : ConfigFault → String
  | .emptyBaseUrl => "base_url must not be empty"
  | .zeroPollInterval => "poll_interval must be greater than 0"
  | .zeroHealthWindow => "health_window must be greater than 0"
  | .missingVariable key => "missing " ++ key
  | .badSeconds key fault => "invalid " ++ key ++ ": " ++ fault.message
  | .other reason => reason

/-- What is wrong with the input of a command. -/
inductive InputFault where
  | blankWorkflow
  | inputsNotJson
  | other (reason : String)
  deriving DecidableEq, Repr

def InputFault.message : InputFault → String
  | .blankWorkflow => "workflow id must not be empty"
  | .inputsNotJson => "--inputs is not valid JSON"
  | .other reason => reason

/-- Why a one-shot command failed. -/
inductive CommandFault where
  | unconfirmed
  | notSent (command : RunCommand) (reason : String)
  | rejected (command : RunCommand) (reason : String)
  | other (reason : String)
  deriving DecidableEq, Repr

def CommandFault.message : CommandFault → String
  | .unconfirmed => "run id not confirmed by the server yet"
  | .notSent command reason => command.text ++ " request failed: " ++ reason
  | .rejected command reason => command.text ++ " rejected: " ++ reason
  | .other reason => reason

inductive ClientFailure where
  | config (fault : ConfigFault)
  | input (fault : InputFault)
  /-- The command is not allowed in the present phase. -/
  | refused (command : RunCommand) (phase : RunPhase)
  | stream (failure : StreamFailure)
  | poll (failure : PollFailure)
  | patch (failure : PatchFailure)
  | command (fault : CommandFault)
  /-- The controller runs no longer. -/
  | closed
  deriving DecidableEq, Repr

def ClientFailure.message : ClientFailure → String
  | .config fault => "config error: " ++ fault.message
  | .input fault => "validation error: " ++ fault.message
  | .refused c phase => "cannot " ++ c.text ++ " while run is " ++ phase.text
  | .stream failure => failure.message
  | .poll failure => failure.message
  | .patch failure => failure.message
  | .command fault => "run command failed: " ++ fault.message
  | .closed => "run controller is no longer running"

end RunWatch
