import RunWatch.Text.Utf8

/-!
# Escape sequences

Texts for a place that is no terminal: the sequences that steer one are left out, and so are single
controls other than white space.
-/

namespace RunWatch.Text.Escapes

/-- Where the reading of a byte finds itself. -/
inductive Stage where
  /-- Outside of any sequence. -/
  | ground
  /-- Behind an escape. -/
  | escape
  /-- Behind an escape and a byte that calls for more. -/
  | escapeTail
  /-- In a control sequence. -/
  | control
  /-- In a command to the system. -/
  | command
  /-- In any other string. -/
  | string
  /-- In a character, of which so many bytes are missing. -/
  | char (missing : Nat)
  deriving DecidableEq, Repr

/-- A control that white space consists of. -/
def isSpace (b : UInt8) : Bool :=
  b == 0x09 || b == 0x0A || b == 0x0C || b == 0x0D

/-- A byte outside of any sequence: where it leads, and whether it stays. -/
def onGround (b : UInt8) : Stage × Bool :=
  if b = 0x1B then (.escape, false)
  else if b < 0x20 then (.ground, isSpace b)
  else if b < 0x7F then (.ground, true)
  else if 0xC2 ≤ b && b ≤ 0xDF then (.char 1, true)
  else if 0xE0 ≤ b && b ≤ 0xEF then (.char 2, true)
  else if 0xF0 ≤ b && b ≤ 0xF4 then (.char 3, true)
  else (.ground, false)

/-- Where the first byte behind an escape leads. -/
def behindEscape (b : UInt8) : Stage :=
  if b = 0x5B then .control
  else if b = 0x5D then .command
  else if b = 0x50 || b = 0x58 || b = 0x5E || b = 0x5F then .string
  else if 0x20 ≤ b && b ≤ 0x2F then .escapeTail
  else if 0x30 ≤ b && b ≤ 0x7E then .ground
  else .escape

/-- One byte: where it leads, and whether it stays. White space inside a sequence breaks it off. -/
def step (s : Stage) (b : UInt8) : Stage × Bool :=
  match s with
  | .ground => onGround b
  | .char 0 | .char 1 => (.ground, true)
  | .char (n + 2) => (.char (n + 1), true)
  | s =>
    if b = 0x1B then (.escape, false)
    else if b = 0x18 || b = 0x1A then (.ground, false)
    else match s with
      | .command => (if b = 0x07 then .ground else .command, false)
      | .string => (if b = 0x9C then .ground else .string, false)
      | s =>
        if isSpace b then (.ground, true)
        else match s with
          | .escape => (behindEscape b, false)
          | .escapeTail => (if 0x30 ≤ b && b ≤ 0x7E then .ground else .escapeTail, false)
          | _ => (if 0x40 ≤ b && b ≤ 0x7E then .ground else .control, false)

/-- The bytes that stay. -/
def shown (s : Stage) : List UInt8 → List UInt8
  | [] => []
  | b :: bytes =>
    let (s, stays) := step s b
    if stays then b :: shown s bytes else shown s bytes

/-- A text without escape sequences. -/
def leaveOut (s : String) : String :=
  Utf8.decodeText (shown .ground (Utf8.encode s))

end RunWatch.Text.Escapes
