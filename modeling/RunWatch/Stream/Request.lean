import RunWatch.Identity
import RunWatch.Json.Printer

/-!
# Stream requests

The body of the request that opens a stream.
-/

namespace RunWatch

open Json

inductive StreamRequest where
  /-- Starts a run. Inputs that are `null` are sent, absent ones are not. -/
  | start (workflow : WorkflowId) (inputs : Option Value)
  /-- Attaches to a run that was paused. -/
  | resume (workflow : WorkflowId) (run : RunId)
  deriving DecidableEq

def StreamRequest.toValue : StreamRequest → Value
  | .start workflow inputs =>
    .ofMembers (("workflow_id", workflow.toValue) ::
      (inputs.map fun v => ("inputs", v)).toList)
  | .resume workflow run =>
    .ofMembers [("workflow_id", workflow.toValue), ("resume", .bool true), ("run_id", run.toValue)]

end RunWatch
