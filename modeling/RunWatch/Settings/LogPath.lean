import RunWatch.Text.Blank

/-!
# Log file paths

The directory and the file of a path. Repeated slashes, slashes at the end and parts that are a
single dot, save the first part of a relative path, do not count.
-/

namespace RunWatch.LogPath

/-- Where in the text a part begins, with the part. -/
structure Part where
  start : Nat
  name : List Char
  deriving DecidableEq, Repr

/-- The parts from a position on. -/
def partsFrom (start : Nat) : List (List Char) → List Part
  | [] => []
  | name :: rest => ⟨start, name⟩ :: partsFrom (start + name.length + 1) rest

/-- The part says something: it is neither empty nor a dot behind another part. -/
def Part.counts (p : Part) : Bool :=
  p.name ≠ [] && (p.name ≠ ['.'] || p.start == 0)

/-- The parts of a path that count. -/
def parts (path : List Char) : List Part :=
  (partsFrom 0 (Text.splitAtChar '/' path)).filter Part.counts

def isAbsolute (path : List Char) : Bool :=
  path.head? == some '/'

/-- The text of a path before its last part; none of a path without parts. -/
def parent? (path : List Char) : Option (List Char) :=
  match (parts path).reverse with
  | [] => none
  | [_] => some (if isAbsolute path then ['/'] else [])
  | _ :: p :: _ => some (path.take (p.start + p.name.length))

/-- The last part, if it names something inside its directory. -/
def file? (path : List Char) : Option (List Char) :=
  ((parts path).getLast?.map Part.name).filter fun name => name ≠ ['.'] ∧ name ≠ ['.', '.']

def defaultFile : String := "orchestrator-live.logs.jsonl"

/-- The directory and the file that records go to. -/
def split (path : String) : String × String :=
  let cs := path.toList
  (((parent? cs).filter (· ≠ [])).elim "." String.ofList, (file? cs).elim defaultFile String.ofList)

end RunWatch.LogPath
