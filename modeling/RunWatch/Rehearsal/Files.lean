import RunWatch.Text.Blank

/-!
# Files

A directory of files, and where paths lead in it. Every part of a path but the last one has to be a
directory, and a part or a path that is too long leads nowhere.
-/

namespace RunWatch.Rehearsal

structure Files where
  /-- Files by the parts of their paths. -/
  files : List (List String × List UInt8) := []
  /-- Directories other than those that hold files. -/
  directories : List (List String) := []
  deriving DecidableEq, Repr

namespace Files

/-- The most bytes in a part of a path. -/
def longestPart : Nat := 255

/-- The most bytes in a path. -/
def longestPath : Nat := 4095

/-- The parts between the slashes of a path. -/
def parts (path : String) : List String :=
  (Text.splitAtChar '/' path.toList).map String.ofList

/-- A part that leads nowhere else. -/
def isIdle (part : String) : Bool :=
  part == "" || part == "."

/-- A directory with the given files. -/
def ofList (files : List (String × List UInt8)) : Files where
  files := files.map fun (name, bytes) => ((parts name).filter fun part => !isIdle part, bytes)

def isFile (t : Files) (path : List String) : Bool :=
  (t.files.lookup path).isSome

def isDirectory (t : Files) (path : List String) : Bool :=
  path == [] || t.directories.contains path ||
    t.files.any fun (name, _) => path.isPrefixOf name && path ≠ name

/-! ### Paths -/

/-- Where a path leads. -/
inductive Place where
  | file (path : List String)
  | directory (path : List String)
  /-- Nothing is there yet, but the directory that would hold it is. -/
  | missing (path : List String)
  /-- The file that is always empty. -/
  | nullDevice
  /-- Anywhere else outside of the directory. -/
  | outside
  deriving DecidableEq, Repr

/-- Follows the parts of a path from a directory. -/
def follow (t : Files) (here : List String) : List String → Option Place
  | [] => some (.directory here)
  | part :: rest =>
    if isIdle part then t.follow here rest
    else if part = ".." then
      if here = [] then some .outside else t.follow here.dropLast rest
    else if part.utf8ByteSize > longestPart then none
    else if t.isDirectory (here ++ [part]) then t.follow (here ++ [part]) rest
    else if rest ≠ [] then none
    else if t.isFile (here ++ [part]) then some (.file (here ++ [part]))
    else some (.missing (here ++ [part]))

def nullDevice : List String := ["dev", "null"]

/-- Where an absolute path leads; nothing is below the null device. -/
def followOutside (parts : List String) : Option Place :=
  let parts := parts.filter fun part => !isIdle part
  if parts = nullDevice then some .nullDevice
  else if nullDevice.isPrefixOf parts then none
  else some .outside

def isAbsolute (path : String) : Bool :=
  path.toList.head? == some '/'

def place? (t : Files) (path : String) : Option Place :=
  if path = "" ∨ path.utf8ByteSize > longestPath then none
  else if isAbsolute path then followOutside (parts path)
  else t.follow [] (parts path)

/-! ### Reading and writing -/

/-- The content of the file at a path. -/
def read (t : Files) (path : String) : Option (List UInt8) :=
  match t.place? path with
  | some (.file path) => t.files.lookup path
  | some .nullDevice => some []
  | _ => none

/-- Opens the file at a path for more to be written, an empty one if there is none. -/
def openToAppend (t : Files) (path : String) : Option Files :=
  match t.place? path with
  | some (.file _) | some .nullDevice | some .outside => some t
  | some (.missing path) => some { t with files := t.files ++ [(path, [])] }
  | some (.directory _) | none => none

/-- Makes the directories that are missing on the way along some parts. -/
def makeAlong (t : Files) (here : List String) : List String → Option Files
  | [] => some t
  | part :: rest =>
    if isIdle part then t.makeAlong here rest
    else if part = ".." then
      if here = [] then some t else t.makeAlong here.dropLast rest
    else if part.utf8ByteSize > longestPart ∨ t.isFile (here ++ [part]) then none
    else makeAlong { t with directories := (here ++ [part]) :: t.directories } (here ++ [part]) rest

/-- Makes a directory and all that it lies in. -/
def makeDirectories (t : Files) (path : String) : Option Files :=
  if path.utf8ByteSize > longestPath then none
  else if isAbsolute path then (followOutside (parts path)).map fun _ => t
  else t.makeAlong [] (parts path)

/-- Creates an empty file in a directory that need not exist, unless there is one already. -/
def create (t : Files) (directory file : String) : Option Files :=
  ((t.makeDirectories directory).getD t).openToAppend (directory ++ "/" ++ file)

end Files

end RunWatch.Rehearsal
