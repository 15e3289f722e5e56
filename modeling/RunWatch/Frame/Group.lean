import RunWatch.Json.Tree
import RunWatch.Text.Blank
import RunWatch.Text.Utf8

/-!
# Frames

A frame is what one group of lines of an event stream says: a kind and a JSON payload. Lines of a
group set its fields; `Frame.ofFields?` says which groups make no frame.
-/

namespace RunWatch

/-- One unit of an event stream. -/
structure Frame where
  kind : String
  payload : Json.Value
  deriving DecidableEq

namespace Frame

/-- What the lines of a group have set: the last event name, and the data lines. -/
structure Fields where
  event : Option String := none
  data : List (List Char) := []
  deriving DecidableEq, Repr

/-- Drops one leading blank. -/
def dropBlank : List Char → List Char
  | ' ' :: cs => cs
  | cs => cs

/-- One line. Empty lines, comments and other fields set nothing. -/
def Fields.line (f : Fields) (cs : List Char) : Fields :=
  match Text.after? "event:".toList cs with
  | some rest => { f with event := some (Text.trim (String.ofList rest)) }
  | none =>
    match Text.after? "data:".toList cs with
    | some rest => { f with data := f.data ++ [dropBlank rest] }
    | none => f

def Fields.ofLines (lines : List (List Char)) : Fields :=
  lines.foldl Fields.line {}

/-- The kind that a payload names itself: its `type`, or its `event` if it has no `type`. -/
def kindOf? (payload : Json.Value) : Option String :=
  (payload.get? "type" <|> payload.get? "event").bind Json.Value.text?

/-- The kind of a frame without any name. -/
def defaultKind : String := "message"

/-- The data that ends a stream by convention and says nothing. -/
def doneMark : String := "[DONE]"

/-- The frame of a group, unless its data is absent, blank, the done mark or not JSON. -/
def ofFields? (f : Fields) : Option Frame :=
  if f.data = [] then none
  else
    let data := Text.trim (String.ofList (['\n'].intercalate f.data))
    if data = "" ∨ data = doneMark then none
    else (Json.Value.ofString? data).map fun payload =>
      let kind := kindOf? payload <|> f.event.filter (· ≠ "")
      { kind := kind.getD defaultKind, payload }

/-- The frame of a group of lines. -/
def ofLines? (lines : List (List Char)) : Option Frame :=
  ofFields? (Fields.ofLines lines)

/-- The frame of the bytes between two blank lines. -/
def ofBytes? (bytes : List UInt8) : Option Frame :=
  ofLines? (Text.splitAtChar '\n' (Text.Utf8.decode bytes))

end Frame

end RunWatch
