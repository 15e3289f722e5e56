import RunWatch.Json.Tree

/-!
# Records

A record is read from an object by the names of its fields, or from an array by their order. The
source is a value, or the tree of a text; both are seen through `Source`.
`Record.fields?` refuses a field that is given twice, under its name or another accepted one.
-/

namespace RunWatch.Json

/-- The outermost layer of a source. -/
inductive Layer (α : Type) where
  | null
  | bool (b : Bool)
  | number (n : Number)
  | text (s : String)
  | array (items : List α)
  | object (members : List (String × α))

/-- What records are read from. -/
class Source (α : Type) where
  /-- The outermost layer, if it is readable. -/
  layer? : α → Option (Layer α)
  /-- The whole as a value, if it is readable. -/
  value? : α → Option Value

instance : Source Value where
  layer?
    | .null => some .null
    | .bool b => some (.bool b)
    | .number n => some (.number n)
    | .text s => some (.text s)
    | .array items => some (.array items)
    | .object members => some (.object members)
  value? v := some v

/-- A tree inside a text, under `depth` arrays and objects. -/
structure Nested where
  depth : Nat
  tree : Tree

def Nested.below (n : Nested) (t : Tree) : Nested :=
  ⟨n.depth + 1, t⟩

/-- Names all members; one unreadable key spoils the object. -/
def Nested.members? (n : Nested) : List (Option String × Tree) → Option (List (String × Nested))
  | [] => some []
  | (k, t) :: rest => do return (← k, n.below t) :: (← n.members? rest)

instance : Source Nested where
  layer? n :=
    match n.tree with
    | .null => some .null
    | .bool b => some (.bool b)
    | .number l => l.number?.map .number
    | .text s => s.map .text
    | .array items => some (.array (items.map n.below))
    | .object members => (n.members? members).map .object
  value? n := n.tree.value? (maxDepth - n.depth)

/-- The source that a text is. -/
def Nested.ofString? (s : String) : Option Nested :=
  (Tree.ofChars? s.toList).map (⟨0, ·⟩)

/-! ### Fields -/

/-- A field of a record, in the order of an array. -/
structure Field where
  name : String
  aliases : List String := []
  /-- An array may end before this field. -/
  trailing : Bool := false

def Field.accepts (f : Field) (key : String) : Bool :=
  key == f.name || f.aliases.contains key

variable {α : Type} [Source α]

/-- The one member that gives the field, or none; two are refused. -/
def Field.find? (f : Field) (members : List (String × α)) : Option (Option α) :=
  match members.filter (fun m => f.accepts m.1) with
  | [] => some none
  | [m] => some (some m.2)
  | _ => none

/-- The items of an array against the fields: a field without an item must be allowed to be
missing, an item without a field is refused. -/
def alignItems : List Field → List α → Option (List (String × α))
  | [], [] => some []
  | [], _ :: _ => none
  | f :: fs, [] => if f.trailing then alignItems fs ([] : List α) else none
  | f :: fs, x :: xs => (alignItems fs xs).map ((f.name, x) :: ·)

/-- The fields that an object gives. -/
def pickMembers (members : List (String × α)) : List Field → Option (List (String × α))
  | [] => some []
  | f :: fs => do
    let found ← f.find? members
    let rest ← pickMembers members fs
    match found with
    | none => return rest
    | some x => return (f.name, x) :: rest

/-- The fields of a record that its source gives. -/
def fields? (fields : List Field) (x : α) : Option (List (String × α)) := do
  match ← Source.layer? x with
  | .array items => alignItems fields items
  | .object members => pickMembers members fields
  | _ => none

/-! ### Kinds of fields -/

def bool? (x : α) : Option Bool := do
  match ← Source.layer? x with
  | .bool b => some b
  | _ => none

def string? (x : α) : Option String := do
  match ← Source.layer? x with
  | .text s => some s
  | _ => none

def float? (x : α) : Option Float := do
  match ← Source.layer? x with
  | .number n => some n.toFloat
  | _ => none

def items? (x : α) : Option (List α) := do
  match ← Source.layer? x with
  | .array items => some items
  | _ => none

/-- One of several names: a string, or an object that maps the name to `null`. -/
def name? (x : α) : Option String := do
  match ← Source.layer? x with
  | .text s => some s
  | .object [(k, v)] =>
    match ← Source.layer? v with
    | .null => some k
    | _ => none
  | _ => none

/-- `null` is none. -/
def nullable? {β : Type} (read : α → Option β) (x : α) : Option (Option β) := do
  match ← Source.layer? x with
  | .null => some none
  | _ => (read x).map some

/-- All items, or nothing. -/
def each? {β : Type} (read : α → Option β) : List α → Option (List β)
  | [] => some []
  | x :: xs => do return (← read x) :: (← each? read xs)

/-- A field that must be given. -/
def required? {β : Type} (read : α → Option β) (given : List (String × α)) (name : String) :
    Option β :=
  (given.lookup name).bind read

/-- A field that is none when it is missing or `null`. -/
def optional? {β : Type} (read : α → Option β) (given : List (String × α)) (name : String) :
    Option (Option β) :=
  match given.lookup name with
  | none => some none
  | some x => nullable? read x

/-- A field that has a value of its own when it is missing. -/
def defaulted? {β : Type} (read : α → Option β) (fallback : β) (given : List (String × α))
    (name : String) : Option β :=
  match given.lookup name with
  | none => some fallback
  | some x => read x

end RunWatch.Json
