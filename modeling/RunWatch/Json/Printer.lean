import RunWatch.Decimal.Shortest
import RunWatch.Json.Value
import RunWatch.Text.Hex

/-!
# Printing JSON

The compact text of a value, on one line without blanks, and the indented text with two blanks a
level. Members come in the order of the value, that is by ascending key.
-/

namespace RunWatch.Json

/-- The written form of a character inside a string. -/
def escapeChar (c : Char) : List Char :=
  match c with
  | '"' => ['\\', '"']
  | '\\' => ['\\', '\\']
  | '\x08' => ['\\', 'b']
  | '\x0c' => ['\\', 'f']
  | '\n' => ['\\', 'n']
  | '\r' => ['\\', 'r']
  | '\t' => ['\\', 't']
  | c =>
    if c.toNat < 0x20 then '\\' :: 'u' :: Text.hexDigits 4 c.toNat else [c]

def quoted (s : String) : List Char :=
  '"' :: s.toList.flatMap escapeChar ++ ['"']

def intText (n : Int) : List Char :=
  if n < 0 then '-' :: Decimal.digits n.natAbs else Decimal.digits n.natAbs

def Number.write : Number → List Char
  | .int n => intText n
  | .double x => ((Decimal.jsonStyle.text? x).getD "null").toList

mutual

/-- The compact text. -/
def Value.write : Value → List Char
  | .null => "null".toList
  | .bool true => "true".toList
  | .bool false => "false".toList
  | .number n => n.write
  | .text s => quoted s
  | .array items => '[' :: writeItems items ++ [']']
  | .object members => '\x7b' :: writeMembers members ++ ['\x7d']

def writeItems : List Value → List Char
  | [] => []
  | [v] => v.write
  | v :: vs => v.write ++ ',' :: writeItems vs

def writeMembers : List (String × Value) → List Char
  | [] => []
  | [(k, v)] => quoted k ++ ':' :: v.write
  | (k, v) :: rest => quoted k ++ ':' :: v.write ++ ',' :: writeMembers rest

end

def Value.compact (v : Value) : String :=
  String.ofList v.write

/-- A new line at a level of indentation. -/
def newLine (level : Nat) : List Char :=
  '\n' :: List.replicate (2 * level) ' '

mutual

/-- The indented text at a level; an empty array or object stays on one line. -/
def Value.indent (level : Nat) : Value → List Char
  | .array (v :: vs) =>
    '[' :: indentItems (level + 1) (v :: vs) ++ newLine level ++ [']']
  | .object ((k, v) :: rest) =>
    '\x7b' :: indentMembers (level + 1) ((k, v) :: rest) ++ newLine level ++ ['\x7d']
  | v => v.write

def indentItems (level : Nat) : List Value → List Char
  | [] => []
  | [v] => newLine level ++ v.indent level
  | v :: vs => newLine level ++ v.indent level ++ ',' :: indentItems level vs

def indentMembers (level : Nat) : List (String × Value) → List Char
  | [] => []
  | [(k, v)] => newLine level ++ quoted k ++ ':' :: ' ' :: v.indent level
  | (k, v) :: rest =>
    newLine level ++ quoted k ++ ':' :: ' ' :: v.indent level ++ ',' :: indentMembers level rest

end

def Value.indented (v : Value) : String :=
  String.ofList (v.indent 0)

end RunWatch.Json
