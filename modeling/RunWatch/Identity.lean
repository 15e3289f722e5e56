import RunWatch.Json.Record
import RunWatch.Text.Blank

/-!
# Identifiers

Texts that name things on the server, and the key by which a client knows a run before the server
has named it.
-/

namespace RunWatch

/-- The server's name of one run. -/
structure RunId where
  text : String
  deriving DecidableEq, Repr

/-- The name of a workflow that runs execute. -/
structure WorkflowId where
  text : String
  deriving DecidableEq, Repr

/-- A mark of one stored state of a document. Equal marks mean equal documents. -/
structure Revision where
  text : String
  deriving DecidableEq, Repr

namespace RunId

def toValue (id : RunId) : Json.Value := .text id.text

def read? {α : Type} [Json.Source α] (x : α) : Option RunId :=
  (Json.string? x).map RunId.mk

end RunId

namespace WorkflowId

def toValue (id : WorkflowId) : Json.Value := .text id.text

def read? {α : Type} [Json.Source α] (x : α) : Option WorkflowId :=
  (Json.string? x).map WorkflowId.mk

end WorkflowId

namespace Revision

def toValue (r : Revision) : Json.Value := .text r.text

def read? {α : Type} [Json.Source α] (x : α) : Option Revision :=
  (Json.string? x).map Revision.mk

end Revision

/-! ### Run keys -/

/-- The key of a tracked run, 128 bits. -/
structure RunKey where
  bits : BitVec 128
  deriving DecidableEq, Repr

namespace RunKey

/-- The `n`th key of a process. -/
def fresh (n : Nat) : RunKey := ⟨BitVec.ofNat 128 n⟩

/-- Cuts digits into groups of the given lengths. -/
def group : List Nat → List Char → List (List Char)
  | [], _ => []
  | n :: ns, cs => cs.take n :: group ns (cs.drop n)

/-- Hexadecimal digits in groups of 8, 4, 4, 4 and 12 with hyphens between them. -/
def text (k : RunKey) : String :=
  String.ofList (['-'].intercalate (group [8, 4, 4, 4, 12] (Text.hexDigits 32 k.bits.toNat)))

def ofDigits? (cs : List Char) : Option RunKey :=
  if cs.length = 32 then (Text.hexNumber? cs).map fun n => ⟨BitVec.ofNat 128 n⟩ else none

/-- Reads digits with hyphens in their four places. -/
def ofGroups? (cs : List Char) : Option RunKey :=
  let hyphens := [8, 13, 18, 23]
  if cs.length = 36 ∧ hyphens.all (fun i => cs[i]? = some '-') then
    ofDigits? (cs.take 8 ++ (cs.drop 9).take 4 ++ (cs.drop 14).take 4 ++ (cs.drop 19).take 4 ++
      cs.drop 24)
  else none

/-- Reads a key: bare digits, grouped digits, grouped digits in braces or after `urn:uuid:` in
any case. -/
def ofString? (s : String) : Option RunKey :=
  let cs := s.toList
  if cs.length = 32 then ofDigits? cs
  else if cs.length = 36 then ofGroups? cs
  else if cs.length = 38 then
    if cs.head? = some '\x7b' ∧ cs.getLast? = some '\x7d' then ofGroups? (cs.drop 1).dropLast
    else none
  else if Text.lowerAscii (String.ofList (cs.take 9)) = "urn:uuid:" then ofGroups? (cs.drop 9)
  else none

def read? {α : Type} [Json.Source α] (x : α) : Option RunKey :=
  (Json.string? x).bind ofString?

end RunKey

end RunWatch
