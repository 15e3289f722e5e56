import RunWatch.Settings.Environment
import RunWatch.Text.Alphanumeric
import RunWatch.Text.Utf8

/-!
# Environment files

A file of lines `NAME=value` that adds variables to an environment. Values may be quoted, and may
name other variables behind a dollar sign. A variable that is set already keeps its value; the first
line that cannot be read ends the reading, and a value that no variable can have spoils all.
-/

namespace RunWatch.Terminal.DotEnv

/-! ### Lines -/

/-- Whether a line goes on behind a line feed. -/
inductive Span where
  | plain
  | blank
  | escape
  | strong
  | strongEscape
  | weak
  | weakEscape
  | comment
  deriving DecidableEq, Repr

/-- One character of a line. -/
def Span.step (s : Span) (c : Char) : Span :=
  match s with
  | .blank =>
    if c = '#' then .comment
    else if c = '\\' then .escape
    else if c = '"' then .weak
    else if c = '\'' then .strong
    else .plain
  | .plain =>
    if Text.isBlank c ∧ c ≠ '\n' ∧ c ≠ '\r' then .blank
    else if c = '\\' then .escape
    else if c = '"' then .weak
    else if c = '\'' then .strong
    else .plain
  | .escape => .plain
  | .weak => if c = '\\' then .weakEscape else if c = '"' then .plain else .weak
  | .weakEscape => .weak
  | .strong => if c = '\\' then .strongEscape else if c = '\'' then .plain else .strong
  | .strongEscape => .strong
  | .comment => .comment

/-- The state after a line feed at the latest, and the characters before a comment. -/
def Span.run (s : Span) : List Char → Span × List Char
  | [] => (s, [])
  | c :: cs =>
    let t := s.step c
    if t = .comment then (.comment, [])
    else
      let (t, kept) := t.run cs
      (t, c :: kept)

/-- The bytes up to and including each line feed. -/
def physicalLines : List UInt8 → List (List UInt8)
  | [] => []
  | b :: bytes =>
    if b = 10 then [b] :: physicalLines bytes
    else match physicalLines bytes with
      | [] => [[b]]
      | line :: rest => (b :: line) :: rest

/-- Drops a line ending. -/
def chomp (cs : List Char) : List Char :=
  match cs.reverse with
  | '\n' :: '\r' :: rest => rest.reverse
  | '\n' :: rest => rest.reverse
  | _ => cs

/-- The text of a line, unless its bytes are none. -/
def lineText? (bytes : List UInt8) : Option (List Char) :=
  if Text.Utf8.valid bytes then some (Text.Utf8.decode bytes) else none

/-- Joins the lines that belong together. A line that is no text, or a value that is still open at
the end, gives none and ends the list. -/
def logicalLines (held : List Char) (s : Span) : List (List UInt8) → List (Option (List Char))
  | [] => if s = .plain then [] else [none]
  | bytes :: rest =>
    match lineText? bytes with
    | none => [none]
    | some line =>
      if ((held ++ line).dropWhile Text.isBlank).head? = some '#' then
        some [] :: logicalLines [] .plain rest
      else
        let (t, kept) := s.run line
        if t = .plain then some (chomp (held ++ line)) :: logicalLines [] .plain rest
        else if t = .comment then some (held ++ kept) :: logicalLines [] .plain rest
        else logicalLines (held ++ line) t rest

/-! ### Values -/

/-- A variable named inside a value. -/
inductive Naming where
  | no
  /-- Behind a dollar sign. -/
  | bare
  /-- Between braces. -/
  | braced
  deriving DecidableEq, Repr

structure Scan where
  output : List Char := []
  strong : Bool := false
  weak : Bool := false
  escaped : Bool := false
  /-- Only blanks and a comment may follow. -/
  atEnd : Bool := false
  /-- A comment has begun. -/
  inComment : Bool := false
  naming : Naming := .no
  name : List Char := []

/-- Puts the value of the named variable into the output. -/
def Scan.substitute (look : String → String) (s : Scan) : Scan :=
  { s with output := s.output ++ (look (String.ofList s.name)).toList, name := [] }

def Scan.push (c : Char) (s : Scan) : Scan :=
  { s with output := s.output ++ [c] }

/-- A character inside a named variable. -/
def Scan.inName (look : String → String) (s : Scan) (c : Char) : Scan :=
  if Text.isAlphanumeric c then { s with name := s.name ++ [c] }
  else match s.naming with
    | .no => s
    | .bare =>
      if c = '\x7b' ∧ s.name = [] then { s with naming := .braced }
      else if c = '$' then s.substitute look
      else { (s.substitute look).push c with naming := .no }
    | .braced =>
      if c = '\x7d' then { s.substitute look with naming := .no }
      else { s with name := s.name ++ [c] }

/-- One character of a value. -/
def Scan.step? (look : String → String) (s : Scan) (c : Char) : Option Scan :=
  if s.inComment then some s
  else if s.atEnd then
    if c = ' ' ∨ c = '\t' then some s
    else if c = '#' then some { s with inComment := true }
    else none
  else if s.escaped then
    if ['\\', '\'', '"', '$', ' '].contains c then some { s.push c with escaped := false }
    else if c = 'n' then some { s.push '\n' with escaped := false }
    else none
  else if s.strong then
    if c = '\'' then some { s with strong := false } else some (s.push c)
  else if s.naming ≠ .no then some (s.inName look c)
  else if c = '$' then some { s with naming := .bare }
  else if s.weak then
    if c = '"' then some { s with weak := false }
    else if c = '\\' then some { s with escaped := true }
    else some (s.push c)
  else if c = '\'' then some { s with strong := true }
  else if c = '"' then some { s with weak := true }
  else if c = '\\' then some { s with escaped := true }
  else if c = ' ' ∨ c = '\t' then some { s with atEnd := true }
  else some (s.push c)

/-- Reads a value; quotes and braces must be closed. -/
def value? (look : String → String) (cs : List Char) : Option String := do
  let s ← cs.foldlM (Scan.step? look) {}
  if s.naming = .braced ∨ s.strong ∨ s.weak then none
  else return String.ofList (s.substitute look).output

/-! ### Assignments -/

def isKeyStart (c : Char) : Bool :=
  c.isAlpha || c == '_'

def isKeyChar (c : Char) : Bool :=
  c.isAlphanum || c == '_' || c == '.'

/-- Reads a name off the front. -/
def key? (cs : List Char) : Option (String × List Char) :=
  if cs.head?.any isKeyStart then
    some (String.ofList (cs.takeWhile isKeyChar), cs.dropWhile isKeyChar)
  else none

def skipBlanks (cs : List Char) : List Char :=
  cs.dropWhile Text.isBlank

/-- Reads a name and the equals sign behind it, with `export` in front or not. -/
def assigned? (cs : List Char) : Option (String × List Char) := do
  let (key, rest) ← key? cs
  match skipBlanks rest with
  | '=' :: rest => some (key, rest)
  | rest =>
    if key = "export" then
      let (key, rest) ← key? rest
      match skipBlanks rest with
      | '=' :: rest => some (key, rest)
      | _ => none
    else none

/-- A line says nothing. -/
def isEmptyLine (cs : List Char) : Bool :=
  cs.isEmpty || cs.head? == some '#'

/-- What a line assigns, if anything. -/
def line? (look : String → String) (cs : List Char) : Option (Option (String × String)) :=
  let cs := skipBlanks (Text.trimEndBy Text.isBlank cs)
  if isEmptyLine cs then some none
  else do
    let (key, rest) ← assigned? cs
    let rest := skipBlanks rest
    if isEmptyLine rest then return some (key, "")
    else return some (key, ← value? look rest)

/-- A value that a variable can have. -/
def isStorable (v : String) : Bool :=
  v.toList.all (· ≠ '\x00')

/-- Adds the lines of a file to an environment. `assigned` holds what the file has assigned. None if
a value cannot be stored. -/
def loadLines (assigned : Environment) (env : Environment) :
    List (Option (List Char)) → Option Environment
  | [] => some env
  | none :: _ => some env
  | some cs :: rest =>
    let look (name : String) := (env.lookup name <|> assigned.lookup name).getD ""
    match line? look cs with
    | none => some env
    | some none => loadLines assigned env rest
    | some (some (key, v)) =>
      if (env.lookup key).isSome then loadLines ((key, v) :: assigned) env rest
      else if isStorable v then loadLines ((key, v) :: assigned) (env ++ [(key, v)]) rest
      else none

/-- The bytes behind the mark that some editors put in front of a text. -/
def withoutMark : List UInt8 → List UInt8
  | 0xEF :: 0xBB :: 0xBF :: bytes => bytes
  | bytes => bytes

/-- The environment with the variables of a file added, if all of them can be stored. -/
def load (bytes : List UInt8) (env : Environment) : Option Environment :=
  loadLines [] env (logicalLines [] .plain (physicalLines (withoutMark bytes)))

end RunWatch.Terminal.DotEnv
