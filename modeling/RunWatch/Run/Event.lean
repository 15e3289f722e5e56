import RunWatch.Frame.Group
import RunWatch.Identity

/-!
# Run events

The events of a run, read from frames. A kind that is not known stays as it came; a known kind
whose payload has another shape is no event.
-/

namespace RunWatch

inductive RunEvent where
  /-- A step started; the first one confirms the run id. -/
  | start (runId : Option RunId) (node : Option String)
  | progress (progress : Option Float) (node : Option String)
  /-- A step finished. -/
  | complete (node : String) (output : Option Json.Value)
  /-- A step, or without a node the run, reported an error. -/
  | error (node : Option String) (error : String)
  /-- The server finished driving the run. -/
  | finished (status : Option String)
  | paused
  | cancelled
  /-- A kind that is not known. -/
  | unknown (kind : String) (payload : Json.Value)
  deriving DecidableEq

namespace RunEvent

open Json

variable {α : Type} [Source α]

def readStart? (x : α) : Option RunEvent := do
  let given ← fields? [
    { name := "run_id", trailing := true },
    { name := "node_id", aliases := ["node", "current_node"], trailing := true }] x
  return .start (← optional? RunId.read? given "run_id") (← optional? string? given "node_id")

def readProgress? (x : α) : Option RunEvent := do
  let given ← fields? [
    { name := "progress", trailing := true },
    { name := "node_id", aliases := ["node", "current_node"], trailing := true }] x
  return .progress (← optional? float? given "progress") (← optional? string? given "node_id")

def readComplete? (x : α) : Option RunEvent := do
  let given ← fields? [
    { name := "node_id", aliases := ["node"] },
    { name := "output", trailing := true }] x
  return .complete (← required? string? given "node_id")
    (← optional? Source.value? given "output")

def readError? (x : α) : Option RunEvent := do
  let given ← fields? [
    { name := "node_id", aliases := ["node"], trailing := true },
    { name := "error", aliases := ["message"] }] x
  return .error (← optional? string? given "node_id") (← required? string? given "error")

def readFinished? (x : α) : Option RunEvent := do
  let given ← fields? [{ name := "status", trailing := true }] x
  return .finished (← optional? string? given "status")

/-- The event of a frame, unless the payload of a known kind has another shape. -/
def ofFrame? (f : Frame) : Option RunEvent :=
  if f.kind = "start" ∨ f.kind = "node_start" then readStart? f.payload
  else if f.kind = "progress" then readProgress? f.payload
  else if f.kind = "complete" ∨ f.kind = "node_complete" then readComplete? f.payload
  else if f.kind = "error" ∨ f.kind = "node_error" then readError? f.payload
  else if f.kind = "run_finished" ∨ f.kind = "finished" ∨ f.kind = "done" then
    readFinished? f.payload
  else if f.kind = "paused" then some .paused
  else if f.kind = "cancelled" ∨ f.kind = "canceled" then some .cancelled
  else some (.unknown f.kind f.payload)

/-- The signals that end a run. -/
def isTerminal : RunEvent → Bool
  | .finished _ => true
  | .cancelled => true
  | _ => false

end RunEvent

end RunWatch
