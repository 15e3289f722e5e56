import RunWatch.Patch.Dialogue

/-!
# Edit sessions

One proposer's session over a document. Every patch of the session is based on its revision, which
moves with each outcome.
-/

namespace RunWatch

structure EditSession where
  resource : String
  revision : Revision
  deriving DecidableEq, Repr

namespace EditSession

/-- A patch on the session's revision. -/
def propose (s : EditSession) (operations : List PatchOp) : Proposal :=
  ⟨s.revision, operations⟩

/-- The revision that an apply leaves a session on. -/
def revisionAfter : Applied → Revision
  | .committed r _ => r
  | .rebased preview => preview.base

/-- The session after a preview. -/
def afterPreview (s : EditSession) : Except PatchFailure Preview → EditSession
  | .ok preview => { s with revision := preview.base }
  | .error _ => s

/-- The session after an apply. -/
def afterApply (s : EditSession) : Except PatchFailure Applied → EditSession
  | .ok outcome => { s with revision := revisionAfter outcome }
  | .error _ => s

end EditSession

end RunWatch
