import RunWatch.Identity

/-!
# Status snapshots

What the server says of a run at one moment. The common spellings of a status are one.
-/

namespace RunWatch

/-- The status of a run as the server reports it. -/
inductive RunStatus where
  | pending
  | running
  | paused
  | succeeded
  | failed
  | cancelled
  | other (text : String)
  deriving DecidableEq, Repr

namespace RunStatus

def isTerminal : RunStatus → Bool
  | .succeeded | .failed | .cancelled => true
  | _ => false

/-- The accepted spellings, in lower case. -/
def spellings : List (String × RunStatus) :=
  [("pending", .pending), ("queued", .pending), ("created", .pending),
    ("running", .running), ("in_progress", .running), ("started", .running),
    ("paused", .paused),
    ("succeeded", .succeeded), ("success", .succeeded), ("completed", .succeeded),
    ("complete", .succeeded), ("done", .succeeded),
    ("failed", .failed), ("failure", .failed), ("error", .failed),
    ("cancelled", .cancelled), ("canceled", .cancelled)]

/-- Reads a status, blanks at the ends and case aside. -/
def ofText (s : String) : RunStatus :=
  let word := Text.lowerAscii (Text.trim s)
  (spellings.lookup word).getD (.other word)

end RunStatus

/-- The answer to one status fetch. -/
structure RunSnapshot where
  status : RunStatus
  progress : Option Float := none
  currentNode : Option String := none
  error : Option String := none
  runId : Option RunId := none
  workflowId : Option WorkflowId := none
  deriving DecidableEq

namespace RunSnapshot

open Json

def read? {α : Type} [Source α] (x : α) : Option RunSnapshot := do
  let given ← fields? [
    { name := "status" },
    { name := "progress", trailing := true },
    { name := "current_node", trailing := true },
    { name := "error", trailing := true },
    { name := "run_id", aliases := ["id"], trailing := true },
    { name := "workflow_id", trailing := true }] x
  return {
    status := RunStatus.ofText (← required? string? given "status")
    progress := ← optional? float? given "progress"
    currentNode := ← optional? string? given "current_node"
    error := ← optional? string? given "error"
    runId := ← optional? RunId.read? given "run_id"
    workflowId := ← optional? WorkflowId.read? given "workflow_id" }

/-- Reads the body of an answer. -/
def ofBody? (body : String) : Option RunSnapshot :=
  (Nested.ofString? body).bind read?

end RunSnapshot

end RunWatch
