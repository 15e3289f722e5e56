/-!
# JSON numbers

A number is an integer that a 64-bit word holds, or a double. A literal is read in two roundings:
its digits, as many as fit a 64-bit word, become a double, and that double is multiplied or divided
by the double nearest to the power of ten.
-/

namespace RunWatch.Json

/-- The value of a number. -/
inductive Number where
  /-- Between `-2 ^ 63` and `2 ^ 64 - 1`. -/
  | int (n : Int)
  | double (x : Float)
  deriving DecidableEq

/-- The double nearest to an integer of 64 bits. -/
def floatOfInt (n : Int) : Float :=
  if n < 0 then -((-n).toNat.toUInt64.toFloat) else n.toNat.toUInt64.toFloat

/-- A number where a double is wanted. -/
def Number.toFloat : Number → Float
  | .int n => floatOfInt n
  | .double x => x

/-- The parts of a literal, digits as numbers below ten. -/
structure Literal where
  negative : Bool
  whole : List Nat
  fraction : Option (List Nat) := none
  exponent : Option (Bool × List Nat) := none
  deriving DecidableEq, Repr

/-! ### From characters to a literal -/

def digitValue (c : Char) : Nat :=
  c.toNat - '0'.toNat

/-- The leading digits and the rest. -/
def spanDigits (cs : List Char) : List Nat × List Char :=
  ((cs.takeWhile Char.isDigit).map digitValue, cs.dropWhile Char.isDigit)

/-- The part after the point, if there is one; a point needs a digit. -/
def fraction? : List Char → Option (Option (List Nat) × List Char)
  | '.' :: cs =>
    match spanDigits cs with
    | ([], _) => none
    | (ds, rest) => some (some ds, rest)
  | cs => some (none, cs)

/-- The part after `e` or `E`, if there is one; it needs a digit. -/
def exponent? (cs : List Char) : Option (Option (Bool × List Nat)) :=
  let signed (negative : Bool) (cs : List Char) :=
    match spanDigits cs with
    | (d :: ds, []) => some (some (negative, d :: ds))
    | _ => none
  match cs with
  | [] => some none
  | c :: cs =>
    if c = 'e' ∨ c = 'E' then
      match cs with
      | '+' :: cs => signed false cs
      | '-' :: cs => signed true cs
      | cs => signed false cs
    else none

/-- Reads the whole of `cs` as a literal without sign. -/
def Literal.unsigned? (negative : Bool) (cs : List Char) : Option Literal := do
  let (whole, rest) := spanDigits cs
  match whole with
  | [] => none
  | 0 :: _ :: _ => none
  | _ =>
    let (fraction, rest) ← fraction? rest
    let exponent ← exponent? rest
    return { negative, whole, fraction, exponent }

/-- Reads the whole of `cs` as a literal. -/
def Literal.ofChars? : List Char → Option Literal
  | '-' :: cs => Literal.unsigned? true cs
  | cs => Literal.unsigned? false cs

/-! ### The value of a literal -/

/-- Digits gathered so far, in a word, and the power of ten they stand for. -/
structure Gathered where
  significand : Nat
  exponent : Int
  /-- A digit did not fit; later ones are dropped too. -/
  full : Bool := false
  deriving DecidableEq, Repr

/-- A digit before the point: one that does not fit raises the exponent. -/
def Gathered.pushWhole (g : Gathered) (d : Nat) : Gathered :=
  if g.full ∨ Nat.pow 2 64 ≤ g.significand * 10 + d then
    { g with exponent := g.exponent + 1, full := true }
  else { g with significand := g.significand * 10 + d }

/-- A digit after the point: one that does not fit is dropped. -/
def Gathered.pushFraction (g : Gathered) (d : Nat) : Gathered :=
  if g.full ∨ Nat.pow 2 64 ≤ g.significand * 10 + d then { g with full := true }
  else { g with significand := g.significand * 10 + d, exponent := g.exponent - 1 }

def powerOfTen (k : Nat) : Float :=
  Float.ofScientific 1 false k

/-- Divides by `10 ^ k`, by the largest power of ten at a time. -/
def scaleDown (x : Float) (k : Nat) : Float :=
  if x == 0 then x
  else if k ≤ 308 then x / powerOfTen k
  else scaleDown (x / powerOfTen 308) (k - 308)
termination_by k

/-- `significand · 10 ^ exponent` as a double; nothing if that is too large for one. -/
def scale? (significand : Nat) (exponent : Int) : Option Float :=
  let x := significand.toUInt64.toFloat
  match exponent with
  | .ofNat k =>
    if k ≤ 308 then
      let y := x * powerOfTen k
      if y.isInf then none else some y
    else if significand = 0 then some x
    else none
  | .negSucc k => some (scaleDown x (k + 1))

def signed (negative : Bool) (x : Float) : Float :=
  if negative then -x else x

def natOfDigits (ds : List Nat) : Nat :=
  ds.foldl (fun n d => n * 10 + d) 0

/-- The value of a literal. Minus zero and integers that no word holds are doubles, and a literal
beyond the largest double has no value. -/
def Literal.number? (l : Literal) : Option Number :=
  let whole := l.whole.foldl Gathered.pushWhole ⟨0, 0, false⟩
  let negative := l.negative
  match l.fraction, l.exponent with
  | none, none =>
    if whole.full then (scale? whole.significand whole.exponent).map (.double ∘ signed negative)
    else if !negative then some (.int whole.significand)
    else if whole.significand = 0 ∨ Nat.pow 2 63 < whole.significand then
      some (.double (-(whole.significand.toUInt64.toFloat)))
    else some (.int (-whole.significand))
  | fraction, exponent =>
    let g := (fraction.getD []).foldl Gathered.pushFraction { whole with full := false }
    let e : Int := match exponent with
      | none => 0
      | some (true, ds) => -(natOfDigits ds : Int)
      | some (false, ds) => natOfDigits ds
    (scale? g.significand (g.exponent + e)).map (.double ∘ signed negative)

end RunWatch.Json
