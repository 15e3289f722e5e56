import RunWatch.Http.Exchange
import RunWatch.Patch.Dialogue

/-!
# Patches over HTTP

The patch endpoint of a document. A failure status is an answer like any other if its body says
something about the patch.
-/

namespace RunWatch

open Json

def Submission.toValue (s : Submission) : Value :=
  .ofMembers [("base_revision", s.patch.base.toValue),
    ("patch_ops", .array (s.patch.operations.map PatchOp.toValue)), ("dry_run", .bool s.dryRun)]

namespace Http

def patchRequest (c : Config) (resource : String) (s : Submission) : Request :=
  { request c .post (c.patchUrl resource) with body := some s.toValue }

/-- What is said of a body that is no verdict. -/
def noVerdict : String := "the body is no verdict"

/-- The answer that a submission brings back. -/
def readVerdict : Reply → PatchAnswer
  | .error reason => .error (.transport reason)
  | .ok response =>
    match response.text? with
    | .error reason => .error (.transport reason)
    | .ok body =>
      match Verdict.ofBody? body with
      | some v =>
        if response.isSuccess || v.speaks then .ok v else .error (.transport response.failure)
      | none =>
        if response.isSuccess then .error (.protocol (.unreadable noVerdict))
        else .error (.transport response.failure)

end Http

end RunWatch
