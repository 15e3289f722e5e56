import RunWatch.Http.Patches
import RunWatch.Http.Runs
import RunWatch.Http.Streams

/-!
# Clients

What a client does over a means of exchange: each call sends what it has to send and reads what
comes back. A client whose configuration is at fault sends nothing.
-/

namespace RunWatch.Http

/-- A means of exchange, with a state of its own. -/
abbrev Exchange (σ : Type) := σ → Request → σ × Reply

variable {σ : Type}

/-! ### Single calls -/

def fetch (exchange : Exchange σ) (c : Config) (run : RunId) (server : σ) :
    σ × Except PollFailure RunSnapshot :=
  let (server, reply) := exchange server (fetchRequest c run)
  (server, readSnapshot run reply)

def sendCommand (exchange : Exchange σ) (c : Config) (command : RunCommand) (run : RunId)
    (server : σ) : σ × Except ClientFailure Unit :=
  let (server, reply) := exchange server (commandRequest c command run)
  (server, readAcknowledgement command reply)

/-- Opens a stream; gives a reader to which the whole body has come. -/
def openStream (exchange : Exchange σ) (c : Config) (r : StreamRequest) (server : σ) :
    σ × Except StreamFailure Reader :=
  let (server, reply) := exchange server (openRequest c r)
  (server, (readOpening reply).map Response.reader)

/-- The patch endpoint of a document. -/
def submit (exchange : Exchange σ) (c : Config) (resource : String) (server : σ) (s : Submission) :
    σ × PatchAnswer :=
  let (server, reply) := exchange server (patchRequest c resource s)
  (server, readVerdict reply)

/-! ### Calls of a checked client -/

/-- A call that is made only if the configuration is sound. -/
def checked {α : Type} (c : Config) (call : σ → σ × Except ClientFailure α) (server : σ) :
    σ × Except ClientFailure α :=
  match c.check with
  | .error fault => (server, .error (.config fault))
  | .ok () => call server

def fetchRun (exchange : Exchange σ) (c : Config) (run : RunId) :
    σ → σ × Except ClientFailure RunSnapshot :=
  checked c fun server =>
    let (server, result) := fetch exchange c run server
    (server, result.mapError ClientFailure.poll)

/-- Leads a dialogue with the patch endpoint of a document. -/
def converse {α : Type} (exchange : Exchange σ) (c : Config) (resource : String)
    (d : Dialogue α) : σ → σ × Except ClientFailure α :=
  checked c fun server =>
    let (server, result) := d.serve (submit exchange c resource) server
    (server, result.mapError ClientFailure.patch)

end RunWatch.Http
