import RunWatch.Patch.Proposal
import RunWatch.Patch.Verdict

/-!
# Dialogues with the patch endpoint

A preview or an apply submits a patch, waits for the answer and goes on. `preview` and `apply` are
such dialogues; an endpoint of any kind may answer them.
-/

namespace RunWatch

open Json

/-- What is sent to the patch endpoint. -/
structure Submission where
  patch : Proposal
  dryRun : Bool
  deriving DecidableEq

/-- What comes back: an answer, or a failure to get one. -/
abbrev PatchAnswer := Except PatchFailure Verdict

/-- A dialogue ends with a result, or submits and goes on with the answer. -/
inductive Dialogue (α : Type) where
  | done (result : Except PatchFailure α)
  | submit (s : Submission) (next : PatchAnswer → Dialogue α)

/-- What a dialogue has said and left over once it is done. -/
structure Transcript (α : Type) where
  result : Except PatchFailure α
  submitted : List Submission := []
  unused : List PatchAnswer := []

namespace Dialogue

variable {α β : Type}

/-- Changes the result. -/
def map (f : α → β) : Dialogue α → Dialogue β
  | .done r => .done (r.map f)
  | .submit s next => .submit s fun a => (next a).map f

/-- The failure when no answer is left. -/
def noAnswer : PatchFailure := .transport "no response queued"

/-- Answers the submissions of a dialogue from a queue. -/
def run : Dialogue α → List PatchAnswer → Transcript α
  | .done r, answers => { result := r, unused := answers }
  | .submit s next, [] =>
    let t := run (next (.error noAnswer)) []
    { t with submitted := s :: t.submitted }
  | .submit s next, a :: answers =>
    let t := run (next a) answers
    { t with submitted := s :: t.submitted }

/-- Lets an endpoint with a state of its own answer. -/
def serve {σ : Type} (endpoint : σ → Submission → σ × PatchAnswer) : Dialogue α → σ →
    σ × Except PatchFailure α
  | .done r, server => (server, r)
  | .submit s next, server => serve endpoint (next (endpoint server s).2) (endpoint server s).1

end Dialogue

/-! ### Outcomes -/

/-- The outcome of a dry run. -/
structure Preview where
  diff : Option Value
  valid : Bool
  error : Option String
  validationErrors : List String
  /-- The revision that the preview was made against. -/
  base : Revision
  /-- The stale revision that the preview was moved off. -/
  rebasedFrom : Option Revision
  deriving DecidableEq

/-- The outcome of an apply that did not fail. -/
inductive Applied where
  | committed (newRevision : Revision) (diff : Option Value)
  /-- Nothing was written; the preview shows the patch on the current revision. -/
  | rebased (preview : Preview)
  deriving DecidableEq

/-- The preview that an answer to a dry run gives. -/
def Preview.ofVerdict (v : Verdict) (base : Revision) (rebasedFrom : Option Revision) :
    Preview where
  diff := v.diff
  valid := match v.validation with
    | some validation => validation.valid
    | none => v.success && v.error.isNone
  error := v.error
  validationErrors := v.validationErrors
  base
  rebasedFrom

namespace Proposal

/-- The revision to move to after a mismatch: usable, and not the base again. -/
def successor (p : Proposal) (v : Verdict) : Except PatchFailure Revision :=
  match v.usableRevision? with
  | some current => if current = p.base then .error .unresolved else .ok current
  | none => .error .unresolved

/-- A dry run on the current revision, after a mismatch on the base. -/
def previewRebased (p : Proposal) (current : Revision) : Dialogue Preview :=
  .submit ⟨p.rebase current, true⟩ fun answer => .done do
    let v ← answer
    if v.isMismatch then .error .unresolved
    else .ok (Preview.ofVerdict v current (some p.base))

/-- Follows a mismatch once. -/
def follow (p : Proposal) (v : Verdict) : Dialogue Preview :=
  match p.successor v with
  | .error failure => .done (.error failure)
  | .ok current => p.previewRebased current

/-- A dry run; a stale base is followed once. -/
def preview (p : Proposal) : Dialogue Preview :=
  match p.check with
  | .error fault => .done (.error (.malformed fault))
  | .ok () => .submit ⟨p, true⟩ fun answer =>
    match answer with
    | .error failure => .done (.error failure)
    | .ok v =>
      if v.isMismatch then p.follow v else .done (.ok (Preview.ofVerdict v p.base none))

/-- What an answer to a write, other than a mismatch, comes to. -/
def conclude (v : Verdict) : Except PatchFailure Applied :=
  if v.success then
    match v.newRevision with
    | some r => .ok (.committed r v.diff)
    | none => .error (.protocol .noRevision)
  else if v.validationErrors = [] then
    match v.error with
    | some e => .error (.invalid [e])
    | none => .error (.protocol .noReason)
  else .error (.invalid v.validationErrors)

/-- The write. It is sent once; a stale base turns it into a preview. -/
def apply (p : Proposal) : Dialogue Applied :=
  match p.check with
  | .error fault => .done (.error (.malformed fault))
  | .ok () => .submit ⟨p, false⟩ fun answer =>
    match answer with
    | .error failure => .done (.error failure)
    | .ok v => if v.isMismatch then (p.follow v).map .rebased else .done (conclude v)

end Proposal

end RunWatch
