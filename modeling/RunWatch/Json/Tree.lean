import RunWatch.Json.Token
import RunWatch.Json.Value

/-!
# JSON trees

The tree that a text spells out, before it is given a value: numbers are literals, and an object
keeps every member that was written. Tokens build the tree on a stack, to any depth.
`Tree.value?` gives a tree its value, down to a greatest depth.
-/

namespace RunWatch.Json

inductive Tree where
  | null
  | bool (b : Bool)
  | number (l : Literal)
  | text (s : Option String)
  | array (items : List Tree)
  | object (members : List (Option String × Tree))
  deriving Inhabited

/-! ### Building -/

/-- An array or object that is still open, its parts in reverse. -/
inductive Open where
  | array (items : List Tree)
  | object (members : List (Option String × Tree)) (key : Option String)

/-- What may come next. -/
inductive Expect where
  | value
  | valueOrClose
  | keyOrClose
  | key
  | colon
  | commaOrClose
  | nothing (tree : Tree)

structure Builder where
  stack : List Open := []
  expect : Expect := .value

/-- A complete tree goes into the innermost open array or object. -/
def Builder.place (stack : List Open) (t : Tree) : Builder :=
  match stack with
  | [] => { expect := .nothing t }
  | .array items :: stack => ⟨.array (t :: items) :: stack, .commaOrClose⟩
  | .object members key :: stack => ⟨.object ((key, t) :: members) none :: stack, .commaOrClose⟩

/-- A token where a value is due. -/
def Builder.value? (b : Builder) (t : Token) : Option Builder :=
  match t with
  | .null => some (place b.stack .null)
  | .bool v => some (place b.stack (.bool v))
  | .number l => some (place b.stack (.number l))
  | .text s => some (place b.stack (.text s))
  | .openArray => some ⟨.array [] :: b.stack, .valueOrClose⟩
  | .openObject => some ⟨.object [] none :: b.stack, .keyOrClose⟩
  | _ => none

/-- A bracket that closes the innermost array or object. -/
def Builder.close? (b : Builder) (t : Token) : Option Builder :=
  match t, b.stack with
  | .closeArray, .array items :: stack => some (place stack (.array items.reverse))
  | .closeObject, .object members _ :: stack => some (place stack (.object members.reverse))
  | _, _ => none

def Builder.key? (b : Builder) (t : Token) : Option Builder :=
  match t, b.stack with
  | .text s, .object members _ :: stack => some ⟨.object members s :: stack, .colon⟩
  | _, _ => none

/-- One token. -/
def Builder.step? (b : Builder) (t : Token) : Option Builder :=
  match b.expect with
  | .value => b.value? t
  | .valueOrClose => if t = .closeArray then b.close? t else b.value? t
  | .keyOrClose => if t = .closeObject then b.close? t else b.key? t
  | .key => b.key? t
  | .colon => if t = .colon then some { b with expect := .value } else none
  | .commaOrClose =>
    if t = .comma then
      match b.stack with
      | .array _ :: _ => some { b with expect := .value }
      | .object _ _ :: _ => some { b with expect := .key }
      | [] => none
    else b.close? t
  | .nothing _ => none

/-- The tree of a text; nothing if the text is not JSON. -/
def Tree.ofChars? (cs : List Char) : Option Tree := do
  let b ← (← tokens? cs).foldlM Builder.step? {}
  match b.expect with
  | .nothing t => some t
  | _ => none

/-! ### Values -/

mutual

/-- The value of a tree whose arrays and objects nest at most `depth` deep. -/
def Tree.value? (depth : Nat) : Tree → Option Value
  | .null => some .null
  | .bool b => some (.bool b)
  | .number l => l.number?.map .number
  | .text s => s.map .text
  | .array items =>
    if depth = 0 then none else (Tree.items? (depth - 1) items).map .array
  | .object members =>
    if depth = 0 then none else (Tree.members? (depth - 1) members).map Value.ofMembers

def Tree.items? (depth : Nat) : List Tree → Option (List Value)
  | [] => some []
  | t :: ts => do return (← Tree.value? depth t) :: (← Tree.items? depth ts)

def Tree.members? (depth : Nat) : List (Option String × Tree) → Option (List (String × Value))
  | [] => some []
  | (k, t) :: ts => do return (← k, ← Tree.value? depth t) :: (← Tree.members? depth ts)

end

/-- Arrays and objects may nest this deep in a value. -/
def maxDepth : Nat := 127

/-- The value of a text. -/
def Value.ofChars? (cs : List Char) : Option Value :=
  (Tree.ofChars? cs).bind (Tree.value? maxDepth)

def Value.ofString? (s : String) : Option Value :=
  Value.ofChars? s.toList

end RunWatch.Json
