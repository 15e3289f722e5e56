import RunWatch.Patch.EditSession

/-!
# Editors of one document

Any number of edit sessions over one document at a compare-and-swap endpoint. A submission whose
base is not the current revision is told so; a dry run on the current revision changes nothing; a
write on it installs a fresh revision. Each session makes its calls one after the other, and the
submissions of different sessions interleave in any order. What an answer says beyond the rules of
the endpoint is left open.
-/

namespace RunWatch

/-- The revisions that a document has had, the current one first. -/
structure Document where
  current : Revision
  earlier : List Revision := []
  deriving DecidableEq, Repr

namespace Document

/-- The document has had the revision. -/
def held (d : Document) (r : Revision) : Prop :=
  r = d.current ∨ r ∈ d.earlier

instance (d : Document) (r : Revision) : Decidable (d.held r) :=
  inferInstanceAs (Decidable (r = d.current ∨ r ∈ d.earlier))

/-- What a compare-and-swap endpoint may do with a submission. -/
inductive Answers (d : Document) (s : Submission) : Document → PatchAnswer → Prop where
  | stale (v : Verdict) (base : s.patch.base ≠ d.current) (refused : v.success = false)
    (reason : v.error = some Verdict.staleBase) (told : v.currentRevision = some d.current) :
    Answers d s d (.ok v)
  | rehearsed (v : Verdict) (base : s.patch.base = d.current) (dry : s.dryRun = true)
    (accepted : v.success = true) : Answers d s d (.ok v)
  | written (v : Verdict) (r : Revision) (base : s.patch.base = d.current)
    (real : s.dryRun = false) (fresh : ¬d.held r) (accepted : v.success = true)
    (told : v.newRevision = some r) : Answers d s ⟨r, d.current :: d.earlier⟩ (.ok v)

/-- A revision that was replaced, and the one that replaced it. -/
structure Commit where
  base : Revision
  installed : Revision
  deriving DecidableEq, Repr

/-- What a change of the document commits. -/
def commits (d d' : Document) : List Commit :=
  if d' = d then [] else [⟨d.current, d'.current⟩]

end Document

inductive EditCall where
  | preview (operations : List PatchOp)
  | apply (operations : List PatchOp)

inductive EditOutcome where
  | previewed (preview : Preview)
  | applied (outcome : Applied)

namespace EditSession

def call (s : EditSession) : EditCall → Dialogue EditOutcome
  | .preview operations => (s.propose operations).preview.map .previewed
  | .apply operations => (s.propose operations).apply.map .applied

def afterCall (s : EditSession) : Except PatchFailure EditOutcome → EditSession
  | .ok (.previewed preview) => s.afterPreview (.ok preview)
  | .ok (.applied outcome) => s.afterApply (.ok outcome)
  | .error _ => s

end EditSession

/-- A call under way. -/
structure Errand where
  call : EditCall
  /-- The revision of the session when the call began. -/
  began : Revision
  rest : Dialogue EditOutcome
  /-- What its submissions have committed. -/
  commits : List Document.Commit := []
  /-- The revision that was current when its last submission was answered. -/
  seen : Option Revision := none

structure Editor where
  session : EditSession
  errand? : Option Errand := none

/-- A call that has returned. -/
structure Returned where
  errand : Errand
  result : Except PatchFailure EditOutcome
  /-- The session right after it. -/
  session : EditSession

/-- A document and its editors. -/
structure Editing where
  document : Document
  editors : List Editor := []
  returned : List Returned := []

namespace Editing

def setEditor (place : Nat) (editor : Editor) (e : Editing) : Editing :=
  { e with editors := e.editors.set place editor }

inductive Step (e : Editing) : Editing → Prop where
  /-- A session is opened on a revision that the document has had. -/
  | open_ (session : EditSession) (held : e.document.held session.revision) :
    Step e { e with editors := e.editors ++ [{ session }] }
  | begin (place : Nat) (session : EditSession) (call : EditCall)
    (idle : e.editors[place]? = some { session }) :
    Step e (setEditor place
      ⟨session, some { call, began := session.revision, rest := session.call call }⟩ e)
  /-- The endpoint answers the submission of a call. -/
  | submit (place : Nat) (session : EditSession) (errand : Errand) (s : Submission)
    (next : PatchAnswer → Dialogue EditOutcome) (document : Document) (answer : PatchAnswer)
    (busy : e.editors[place]? = some ⟨session, some errand⟩) (asks : errand.rest = .submit s next)
    (answers : e.document.Answers s document answer) :
    Step e (setEditor place
      ⟨session, some { errand with
        rest := next answer
        commits := errand.commits ++ e.document.commits document
        seen := some e.document.current }⟩
      { e with document })
  | finish (place : Nat) (session : EditSession) (errand : Errand)
    (result : Except PatchFailure EditOutcome)
    (busy : e.editors[place]? = some ⟨session, some errand⟩) (done : errand.rest = .done result) :
    Step e (setEditor place { session := session.afterCall result }
      { e with returned := e.returned ++ [⟨errand, result, session.afterCall result⟩] })

/-- What a document without editors can come to. -/
inductive Reachable : Editing → Prop where
  | initial (document : Document) : Reachable { document }
  | step {e e' : Editing} (reachable : Reachable e) (step : e.Step e') : Reachable e'

end Editing

end RunWatch
