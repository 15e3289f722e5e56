import RunWatch.Decimal.Binary

/-!
# Fixed places

Decimals with a fixed number of places. The exact value of the double is rounded, and a tie goes
to the even neighbour.
-/

namespace RunWatch.Decimal

/-- The integer nearest to `num / den`, the even one of two equally near. -/
def roundHalfEven (num den : Nat) : Nat :=
  let q := num / den
  match compare (2 * (num % den)) den with
  | .lt => q
  | .gt => q + 1
  | .eq => if q % 2 = 0 then q else q + 1

/-- Puts blanks in front up to a width. -/
def padStart (width : Nat) (cs : List Char) : List Char :=
  List.replicate (width - cs.length) ' ' ++ cs

/-- Puts blanks behind up to a width. -/
def padEnd (width : Nat) (cs : List Char) : List Char :=
  cs ++ List.replicate (width - cs.length) ' '

/-- The digits of `n / 10 ^ places` with a point. -/
def pointed (places n : Nat) : List Char :=
  let ds := digits n
  let ds := List.replicate (places + 1 - ds.length) '0' ++ ds
  ds.take (ds.length - places) ++ '.' :: ds.drop (ds.length - places)

/-- A double with `places` decimals. -/
def fixed (places : Nat) (x : Float) : List Char :=
  match Binary.ofFloat? x with
  | none => if x.isNaN then "NaN".toList else if x < 0 then "-inf".toList else "inf".toList
  | some b =>
    let (num, den) := b.ratio
    (if b.negative then ['-'] else []) ++
      pointed places (roundHalfEven (num * Nat.pow 10 places) den)

end RunWatch.Decimal
