import RunWatch.Json.Number

/-!
# JSON values

The value of a JSON text. Objects list their members by ascending key, each key once.
-/

namespace RunWatch.Json

inductive Value where
  | null
  | bool (b : Bool)
  | number (n : Number)
  | text (s : String)
  | array (items : List Value)
  | object (members : List (String × Value))
  deriving Inhabited

/-! ### Equality -/

mutual

def Value.decEq : (a b : Value) → Decidable (a = b)
  | .null, .null => isTrue rfl
  | .bool a, .bool b =>
    if h : a = b then isTrue (by rw [h]) else isFalse fun e => h (by injection e)
  | .number a, .number b =>
    if h : a = b then isTrue (by rw [h]) else isFalse fun e => h (by injection e)
  | .text a, .text b =>
    if h : a = b then isTrue (by rw [h]) else isFalse fun e => h (by injection e)
  | .array a, .array b =>
    match Value.decEqItems a b with
    | isTrue h => isTrue (by rw [h])
    | isFalse h => isFalse fun e => h (by injection e)
  | .object a, .object b =>
    match Value.decEqMembers a b with
    | isTrue h => isTrue (by rw [h])
    | isFalse h => isFalse fun e => h (by injection e)
  | .null, .bool _ | .null, .number _ | .null, .text _ | .null, .array _ | .null, .object _
  | .bool _, .null | .bool _, .number _ | .bool _, .text _ | .bool _, .array _ | .bool _, .object _
  | .number _, .null | .number _, .bool _ | .number _, .text _ | .number _, .array _
  | .number _, .object _
  | .text _, .null | .text _, .bool _ | .text _, .number _ | .text _, .array _ | .text _, .object _
  | .array _, .null | .array _, .bool _ | .array _, .number _ | .array _, .text _
  | .array _, .object _
  | .object _, .null | .object _, .bool _ | .object _, .number _ | .object _, .text _
  | .object _, .array _ => isFalse nofun

def Value.decEqItems : (a b : List Value) → Decidable (a = b)
  | [], [] => isTrue rfl
  | [], _ :: _ | _ :: _, [] => isFalse nofun
  | a :: as, b :: bs =>
    match Value.decEq a b, Value.decEqItems as bs with
    | isTrue h, isTrue t => isTrue (by rw [h, t])
    | isFalse h, _ => isFalse fun e => h (by injection e)
    | _, isFalse t => isFalse fun e => t (by injection e)

def Value.decEqMembers : (a b : List (String × Value)) → Decidable (a = b)
  | [], [] => isTrue rfl
  | [], _ :: _ | _ :: _, [] => isFalse nofun
  | (k, a) :: as, (l, b) :: bs =>
    match (inferInstance : Decidable (k = l)), Value.decEq a b, Value.decEqMembers as bs with
    | isTrue n, isTrue h, isTrue t => isTrue (by rw [n, h, t])
    | isFalse n, _, _ => isFalse fun e => n (by injection e with e _; injection e)
    | _, isFalse h, _ => isFalse fun e => h (by injection e with e _; injection e)
    | _, _, isFalse t => isFalse fun e => t (by injection e)

end

instance : DecidableEq Value := Value.decEq

/-! ### Members -/

/-- Puts a member in its place; a key that is there already gets the new value. -/
def insertMember (key : String) (value : Value) :
    List (String × Value) → List (String × Value)
  | [] => [(key, value)]
  | (k, v) :: rest =>
    if key < k then (key, value) :: (k, v) :: rest
    else if key = k then (key, value) :: rest
    else (k, v) :: insertMember key value rest

/-- The object with these members; of a repeated key the last one counts. -/
def Value.ofMembers (members : List (String × Value)) : Value :=
  .object (members.foldl (fun acc (k, v) => insertMember k v acc) [])

/-- The member of an object with this key. -/
def Value.get? (key : String) : Value → Option Value
  | .object members => members.lookup key
  | _ => none

def Value.text? : Value → Option String
  | .text s => some s
  | _ => none

/-- A value that may be absent, with `null` for none. -/
def orNull {α : Type} (write : α → Value) : Option α → Value
  | none => .null
  | some a => write a

/-- A double as a value; there is no number for an infinity or NaN. -/
def Value.ofFloat (x : Float) : Value :=
  if x.isFinite then .number (.double x) else .null

def Value.ofNat (n : Nat) : Value :=
  .number (.int n)

end RunWatch.Json
