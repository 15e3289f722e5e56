import RunWatch.Identity
import RunWatch.Json.Printer

/-!
# Verdicts on a patch

The answer of the patch endpoint, to dry runs and real writes alike.
-/

namespace RunWatch

open Json

/-- The outcome of the server's checks. -/
structure Validation where
  valid : Bool := false
  errors : List String := []
  deriving DecidableEq, Repr

/-- The answer to a submitted patch. -/
structure Verdict where
  success : Bool := false
  newRevision : Option Revision := none
  diff : Option Value := none
  validation : Option Validation := none
  error : Option String := none
  currentRevision : Option Revision := none
  deriving DecidableEq

/-- The text of a validation error: itself, its message, or its compact JSON. -/
def validationMessage (v : Value) : String :=
  match v with
  | .text s => s
  | v => (v.get? "message" |>.bind Value.text?).getD v.compact

namespace Validation

variable {α : Type} [Source α]

def errors? (x : α) : Option (List String) := do
  return (← each? Source.value? (← items? x)).map validationMessage

def read? (x : α) : Option Validation := do
  let given ← fields? [
    { name := "valid", trailing := true },
    { name := "errors", trailing := true }] x
  return {
    valid := ← defaulted? bool? false given "valid"
    errors := ← defaulted? errors? [] given "errors" }

end Validation

namespace Verdict

def read? {α : Type} [Source α] (x : α) : Option Verdict := do
  let given ← fields? [
    { name := "success", trailing := true },
    { name := "new_revision", trailing := true },
    { name := "diff", trailing := true },
    { name := "validation", trailing := true },
    { name := "error", trailing := true },
    { name := "current_revision", trailing := true }] x
  return {
    success := ← defaulted? bool? false given "success"
    newRevision := ← optional? Revision.read? given "new_revision"
    diff := ← optional? Source.value? given "diff"
    validation := ← optional? Validation.read? given "validation"
    error := ← optional? string? given "error"
    currentRevision := ← optional? Revision.read? given "current_revision" }

/-- Reads the body of an answer. -/
def ofBody? (body : String) : Option Verdict :=
  (Nested.ofString? body).bind read?

/-- The error code of a stale base. -/
def staleBase : String := "revision_mismatch"

/-- The base of the patch was not the current revision. -/
def isMismatch (v : Verdict) : Bool :=
  !v.success && v.error == some staleBase

/-- The current revision, if it is given and not blank. -/
def usableRevision? (v : Verdict) : Option Revision :=
  v.currentRevision.filter fun r => !Text.blank r.text

/-- The answer says something about the patch itself. -/
def speaks (v : Verdict) : Bool :=
  v.error.isSome || v.validation.isSome || v.currentRevision.isSome

def validationErrors (v : Verdict) : List String :=
  (v.validation.map Validation.errors).getD []

end Verdict

end RunWatch
