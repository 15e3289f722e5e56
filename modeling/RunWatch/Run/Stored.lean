import RunWatch.Run.State

/-!
# Stored states

A run state as a JSON value, and back.
-/

namespace RunWatch

open Json

namespace StepRecord

def toValue (r : StepRecord) : Value :=
  .ofMembers [
    ("node_id", .text r.node),
    ("status", .text r.status.text),
    ("origin", .text r.origin.text),
    ("error", orNull .text r.error),
    ("output", orNull id r.output)]

def read? {α : Type} [Source α] (x : α) : Option StepRecord := do
  let given ← fields? [
    { name := "node_id" }, { name := "status" }, { name := "origin" }, { name := "error" },
    { name := "output" }] x
  return {
    node := ← required? string? given "node_id"
    status := ← (required? name? given "status").bind StepStatus.ofText?
    origin := ← (required? name? given "origin").bind StepOrigin.ofText?
    error := ← optional? string? given "error"
    output := ← optional? Source.value? given "output" }

end StepRecord

namespace RunState

def toValue (s : RunState) : Value :=
  .ofMembers [
    ("id", orNull RunId.toValue s.id),
    ("workflow_id", orNull WorkflowId.toValue s.workflowId),
    ("phase", .text s.phase.text),
    ("progress", orNull Value.ofFloat s.progress),
    ("current_step", orNull .text s.currentStep),
    ("error", orNull .text s.error),
    ("steps", .array (s.steps.map StepRecord.toValue))]

def read? {α : Type} [Source α] (x : α) : Option RunState := do
  let given ← fields? [
    { name := "id" }, { name := "workflow_id" }, { name := "phase" }, { name := "progress" },
    { name := "current_step" }, { name := "error" }, { name := "steps" }] x
  return {
    id := ← optional? RunId.read? given "id"
    workflowId := ← optional? WorkflowId.read? given "workflow_id"
    phase := ← (required? name? given "phase").bind RunPhase.ofText?
    progress := ← optional? float? given "progress"
    currentStep := ← optional? string? given "current_step"
    error := ← optional? string? given "error"
    steps := ← (required? items? given "steps").bind (each? StepRecord.read?) }

/-- Reads a stored state from its text. -/
def ofString? (s : String) : Option RunState :=
  (Nested.ofString? s).bind read?

end RunState

end RunWatch
