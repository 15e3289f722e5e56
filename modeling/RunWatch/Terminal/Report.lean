import RunWatch.Control.Controller
import RunWatch.Decimal.Places
import RunWatch.Json.Printer
import RunWatch.Patch.Dialogue
import RunWatch.Text.Printable

/-!
# Reports

The lines that the program prints about runs and patches.
-/

namespace RunWatch.Terminal

/-! ### Runs -/

/-- A percentage with one place. -/
def percentage (x : Float) : String :=
  String.ofList (Decimal.fixed 1 x) ++ "%"

/-- The progress of a run in seven columns. -/
def progressColumn : Option Float → String
  | some x => String.ofList (Decimal.padStart 5 (Decimal.fixed 1 x)) ++ "%"
  | none => "    - "

/-- The line for a view. -/
def viewLine (v : RunView) : String :=
  let s := v.state
  "[" ++ s.phase.text ++ "] " ++ progressColumn s.progress ++
    " run=" ++ s.id.elim "?" RunId.text ++ " step=" ++ s.currentStep.getD "-" ++
    (if !v.streaming && !s.isTerminal then " (polling)" else "") ++
    s.error.elim "" (" error=" ++ ·)

/-- The line for a step of a run that is over. -/
def stepLine (r : StepRecord) : String :=
  "  " ++ String.ofList (Decimal.padEnd 24 r.node.toList) ++ " " ++ r.status.label ++
    " (" ++ r.origin.label ++ ")" ++ r.error.elim "" (": " ++ ·)

/-- A character inside quotes: quotes, backslashes and what cannot be printed are escaped. -/
def quotedChar (c : Char) : List Char :=
  match c with
  | '"' => ['\\', '"']
  | '\\' => ['\\', '\\']
  | '\n' => ['\\', 'n']
  | '\r' => ['\\', 'r']
  | '\t' => ['\\', 't']
  | '\x00' => ['\\', '0']
  | c =>
    if Text.isPrintable c then [c]
    else ['\\', 'u', '\x7b'] ++ Nat.toDigits 16 c.toNat ++ ['\x7d']

def quotedWord (s : String) : String :=
  String.ofList ('"' :: s.toList.flatMap quotedChar ++ ['"'])

/-- The line that tells why the program failed. -/
def failureLine (message : String) : String :=
  "Error: " ++ quotedWord message

/-- A status as a heading. -/
def statusLabel : RunStatus → String
  | .pending => "Pending"
  | .running => "Running"
  | .paused => "Paused"
  | .succeeded => "Succeeded"
  | .failed => "Failed"
  | .cancelled => "Cancelled"
  | .other text => "Other(" ++ quotedWord text ++ ")"

def snapshotLines (s : RunSnapshot) : List String :=
  ("status:   " ++ statusLabel s.status) ::
    ((s.progress.map fun x => "progress: " ++ percentage x).toList ++
      (s.currentNode.map ("step:     " ++ ·)).toList ++
      (s.error.map ("error:    " ++ ·)).toList)

/-! ### Patches -/

/-- A diff as it is shown: a text as it is, any other value indented. -/
def diffText : Option Json.Value → String
  | some (.text s) => s
  | some v => v.indented
  | none => "(no diff)"

def errorLine (e : String) : String :=
  "  - " ++ e

def previewLines (p : Preview) : List String :=
  (p.rebasedFrom.map fun r =>
      "document changed since " ++ r.text ++ "; preview rebased onto " ++ p.base.text).toList ++
    diffText p.diff ::
    (if p.valid then []
    else "invalid:" :: (p.validationErrors.map errorLine ++ (p.error.map errorLine).toList))

def committedLines (r : Revision) (diff : Option Json.Value) : List String :=
  [diffText diff, "applied, new revision " ++ r.text]

def notAppliedLine (p : Preview) : String :=
  "not applied; re-run with --base " ++ p.base.text ++ " to commit"

end RunWatch.Terminal
