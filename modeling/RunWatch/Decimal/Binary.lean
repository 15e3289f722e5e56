/-!
# Doubles as exact fractions

A finite double is `significand · 2 ^ exponent` up to its sign. All decimal output works on this
pair, in natural numbers.
-/

namespace RunWatch.Decimal

/-- A finite double taken apart. -/
structure Binary where
  negative : Bool
  significand : Nat
  exponent : Int
  /-- The double is the first of its binade, so the next one below lies half as far. -/
  narrow : Bool
  deriving DecidableEq, Repr

/-- Takes a double apart; there is no fraction for an infinity or NaN. -/
def Binary.ofFloat? (x : Float) : Option Binary :=
  let bits : Nat := x.toBits.toNat
  let negative := bits / Nat.pow 2 63 == 1
  let biased : Nat := bits / Nat.pow 2 52 % Nat.pow 2 11
  let fraction : Nat := bits % Nat.pow 2 52
  if biased = 0x7FF then none
  else if biased = 0 then some ⟨negative, fraction, -1074, false⟩
  else some ⟨negative, fraction + Nat.pow 2 52, (biased : Int) - 1075, fraction == 0 && biased > 1⟩

/-- The magnitude as a quotient of natural numbers. -/
def Binary.ratio (b : Binary) : Nat × Nat :=
  match b.exponent with
  | .ofNat e => (b.significand * Nat.pow 2 e, 1)
  | .negSucc e => (b.significand, Nat.pow 2 (e + 1))

/-- The decimal digits of a natural number. -/
def digits (n : Nat) : List Char :=
  Nat.toDigits 10 n

end RunWatch.Decimal
