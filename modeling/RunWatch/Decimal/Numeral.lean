/-!
# Numerals

Decimal numerals for numbers below a limit. The digits are read from the left, and the first fault
counts.
-/

namespace RunWatch.Decimal

/-- Why a text is no numeral. -/
inductive NumeralFault where
  | empty
  | invalidDigit
  | tooLarge
  deriving DecidableEq, Repr

def NumeralFault.message : NumeralFault → String
  | .empty => "cannot parse integer from empty string"
  | .invalidDigit => "invalid digit found in string"
  | .tooLarge => "number too large to fit in target type"

/-- One more digit. -/
def extend (limit n : Nat) (c : Char) : Except NumeralFault Nat :=
  if c.isDigit = false then .error .invalidDigit
  else
    let n := n * 10 + (c.toNat - '0'.toNat)
    if n < limit then .ok n else .error .tooLarge

/-- The number that a numeral names, which may carry a plus sign. -/
def natBelow (limit : Nat) (cs : List Char) : Except NumeralFault Nat :=
  match cs with
  | [] => .error .empty
  | ['+'] => .error .invalidDigit
  | '+' :: digits => digits.foldlM (extend limit) 0
  | digits => digits.foldlM (extend limit) 0

/-- Numbers of 64 bits lie below this. -/
def limit64 : Nat := Nat.pow 2 64

/-- Numbers of 16 bits lie below this. -/
def limit16 : Nat := Nat.pow 2 16

end RunWatch.Decimal
