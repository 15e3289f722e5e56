import RunWatch.Patch.Editors

/-!
# Sessions and what they are told

A session makes its calls one after the other, and an endpoint of any kind answers their
submissions. An answer reports a revision of the document if it refuses a stale base and names the
current revision, or if it confirms a write.
-/

namespace RunWatch

/-- The revision that an answer to a submission reports. -/
def Submission.reported? (s : Submission) : PatchAnswer → Option Revision
  | .error _ => none
  | .ok v =>
    if v.isMismatch then v.usableRevision?
    else if v.success && !s.dryRun then v.newRevision
    else none

/-- A call of a session, and the answers that are there for its submissions. -/
structure Round where
  call : EditCall
  answers : List PatchAnswer

namespace Round

variable (r : Round) (s : EditSession)

def transcript : Transcript EditOutcome :=
  (s.call r.call).run r.answers

/-- The submissions that have been answered, with their answers. -/
def exchanges : List (Submission × PatchAnswer) :=
  (r.transcript s).submitted.zip r.answers

/-- The revisions that the endpoint reports in the course of the call. -/
def reports : List Revision :=
  (r.exchanges s).filterMap fun x => x.1.reported? x.2

/-- The session after the call. -/
def next : EditSession :=
  s.afterCall (r.transcript s).result

/-- The call has followed a mismatch, and has failed then. -/
def cutShort : Bool :=
  (r.transcript s).submitted.length == 2 && !(r.transcript s).result.isOk

end Round

namespace EditSession

/-- The session after some calls. -/
def after (s : EditSession) (rounds : List Round) : EditSession :=
  rounds.foldl (fun s r => r.next s) s

/-- What the endpoint reports to a session in some calls. -/
def reports (s : EditSession) : List Round → List Revision
  | [] => []
  | r :: rounds => r.reports s ++ reports (r.next s) rounds

/-- What the endpoint reports in those of the calls that are not cut short. -/
def heeded (s : EditSession) : List Round → List Revision
  | [] => []
  | r :: rounds => (if r.cutShort s then [] else r.reports s) ++ heeded (r.next s) rounds

end EditSession

/-- The latest of some revisions, or the opening one. -/
def Revision.latest (opening : Revision) (reports : List Revision) : Revision :=
  reports.getLast?.getD opening

end RunWatch
