import RunWatch.Frame.Group

/-!
# The line format

The event-stream format told line by line. Line endings become line feeds, line feeds end lines,
an empty line ends a group, and a group makes at most one frame. Each line is decoded on its own,
so `Line.read` is the only place where bytes become characters.
-/

namespace RunWatch.Frame.Lines

/-- Every line ending as a line feed. -/
def fold : (afterReturn : Bool) → List UInt8 → List UInt8
  | _, [] => []
  | afterReturn, b :: bytes =>
    if b = 13 then 10 :: fold true bytes
    else if b = 10 ∧ afterReturn = true then fold false bytes
    else b :: fold false bytes

/-- The lines that a line feed ends, and the rest. -/
def cut : List UInt8 → List (List UInt8) × List UInt8
  | [] => ([], [])
  | b :: bytes =>
    let (lines, rest) := cut bytes
    if b = 10 then ([] :: lines, rest)
    else match lines with
      | [] => ([], b :: rest)
      | line :: lines => ((b :: line) :: lines, rest)

/-- The groups that an empty line ends; lines after the last one belong to no group yet. -/
def groups (gathered : List (List UInt8)) : List (List UInt8) → List (List (List UInt8))
  | [] => []
  | [] :: lines => gathered :: groups [] lines
  | line :: lines => groups (gathered ++ [line]) lines

/-! ### What a group says -/

/-- What one line says. -/
inductive Line where
  | comment
  | name (text : List Char)
  | data (text : List Char)
  | unknown
  deriving DecidableEq, Repr

namespace Line

def read (bytes : List UInt8) : Line :=
  match Text.Utf8.decode bytes with
  | [] => .unknown
  | c :: cs =>
    if c = ':' then .comment
    else match Text.after? "event:".toList (c :: cs) with
      | some rest => .name rest
      | none =>
        match Text.after? "data:".toList (c :: cs) with
        | some rest => .data (dropBlank rest)
        | none => .unknown

def name? : Line → Option (List Char)
  | .name text => some text
  | _ => none

def data? : Line → Option (List Char)
  | .data text => some text
  | _ => none

end Line

/-- The name that the last name line gives. -/
def name? (lines : List Line) : Option String :=
  (lines.filterMap Line.name?).getLast?.map fun text => Text.trim (String.ofList text)

/-- The data lines as one text. -/
def data (lines : List Line) : String :=
  Text.trim (String.ofList (['\n'].intercalate (lines.filterMap Line.data?)))

/-- The frame of a group, unless its data is blank, the done mark or not JSON. -/
def frame? (group : List (List UInt8)) : Option Frame :=
  let lines := group.map Line.read
  if data lines = "" ∨ data lines = doneMark then none
  else (Json.Value.ofString? (data lines)).map fun payload =>
    let kind := kindOf? payload <|> (name? lines).filter (· ≠ "")
    { kind := kind.getD defaultKind, payload }

/-- The frames of bytes whose line endings are folded. -/
def framesOf (folded : List UInt8) : List Frame :=
  (groups [] (cut folded).1).filterMap frame?

/-- The frames of a byte string. -/
def frames (bytes : List UInt8) : List Frame :=
  framesOf (fold false bytes)

/-- The bytes end with an empty line, so no group of theirs goes on in what follows. -/
def EndsGroup (bytes : List UInt8) : Prop :=
  (cut (fold false bytes)).2 = [] ∧ ∀ line ∈ (cut (fold false bytes)).1.getLast?, line = []

instance (bytes : List UInt8) : Decidable (EndsGroup bytes) :=
  inferInstanceAs (Decidable (_ ∧ _))

end RunWatch.Frame.Lines
