import RunWatch.Failure

/-!
# Proposed patches

A patch is a list of operations on top of one revision of a document. `Proposal.check` finds the
patches that must not reach the server.
-/

namespace RunWatch

open Json

/-- One edit of a document. -/
inductive PatchOp where
  /-- Replaces what stands at a location. -/
  | edit (location : String) (content : Value)
  /-- Replaces the whole document. -/
  | replace (content : String)
  deriving DecidableEq

namespace PatchOp

def toValue : PatchOp → Value
  | .edit location content =>
    .ofMembers [("op", .text "structural_edit"), ("location", .text location),
      ("content", content)]
  | .replace content => .ofMembers [("op", .text "full_replace"), ("content", .text content)]

variable {α : Type} [Source α]

/-- The tag and the other fields: members beside `op`, or the items after the first one. -/
def tagged? (x : α) : Option (String × Layer α) := do
  match ← Source.layer? x with
  | .array (t :: items) => return (← string? t, .array items)
  | .object members =>
    match members.partition (fun m => m.1 == "op") with
    | ([(_, t)], rest) => return (← string? t, .object rest)
    | _ => none
  | _ => none

def given? (fields : List Field) : Layer α → Option (List (String × α))
  | .array items => alignItems fields items
  | .object members => pickMembers members fields
  | _ => none

/-- Reads an operation. The whole of it must be readable, fields that do not count included. -/
def read? (x : α) : Option PatchOp := do
  let _ ← Source.value? x
  let (tag, layer) ← tagged? x
  if tag = "structural_edit" then
    let given ← given? [{ name := "location" }, { name := "content" }] layer
    return .edit (← required? string? given "location") (← required? Source.value? given "content")
  else if tag = "full_replace" then
    let given ← given? [{ name := "content" }] layer
    return .replace (← required? string? given "content")
  else none

/-- What is wrong with the operation at an index. -/
def check (index : Nat) : PatchOp → Except PatchFault Unit
  | .edit location _ => if Text.blank location then .error (.noLocation index) else .ok ()
  | .replace content => if Text.blank content then .error (.noContent index) else .ok ()

def checkAll : (index : Nat) → List PatchOp → Except PatchFault Unit
  | _, [] => .ok ()
  | index, op :: ops => do
    op.check index
    checkAll (index + 1) ops

end PatchOp

/-- Operations to apply on top of a revision. -/
structure Proposal where
  base : Revision
  operations : List PatchOp
  deriving DecidableEq

namespace Proposal

def toValue (p : Proposal) : Value :=
  .ofMembers [("base_revision", p.base.toValue),
    ("operations", .array (p.operations.map PatchOp.toValue))]

def read? {α : Type} [Source α] (x : α) : Option Proposal := do
  let given ← fields? [{ name := "base_revision" }, { name := "operations" }] x
  return {
    base := ← required? Revision.read? given "base_revision"
    operations := ← (required? items? given "operations").bind (each? PatchOp.read?) }

def ofString? (s : String) : Option Proposal :=
  (Nested.ofString? s).bind read?

/-- Finds what is wrong with a patch: the base first, then the operations in order. -/
def check (p : Proposal) : Except PatchFault Unit :=
  if Text.blank p.base.text then .error .noBase
  else if p.operations = [] then .error .noOperations
  else PatchOp.checkAll 0 p.operations

/-- The same operations on another revision. -/
def rebase (p : Proposal) (base : Revision) : Proposal :=
  { p with base }

end Proposal

end RunWatch
