import RunWatch.Decimal.Binary

/-!
# Shortest decimals

The decimal with the fewest digits that a double is the nearest one to; among those the one that
lies nearest to the double, and of two equally near the one with the even last digit.
-/

namespace RunWatch.Decimal

/-- The reals that round to a double, on the common denominator `unit`: `value / unit` is the
double, and `value - below` and `value + above` are the ends. -/
structure Interval where
  value : Nat
  below : Nat
  above : Nat
  unit : Nat
  closed : Bool
  deriving Repr

/-- The interval of a double that is not zero. -/
def Binary.interval (b : Binary) : Interval :=
  let (scale, unit) := match b.exponent with
    | .ofNat e => (Nat.pow 2 e, 4)
    | .negSucc e => (1, 4 * Nat.pow 2 (e + 1))
  { value := 4 * b.significand * scale
    below := (if b.narrow then 1 else 2) * scale
    above := 2 * scale
    unit
    closed := b.significand % 2 == 0 }

/-- `m · 10 ^ e` lies in the interval. -/
def Interval.holds (i : Interval) (m : Nat) (e : Int) : Bool :=
  let (num, den) := match e with
    | .ofNat k => (m * Nat.pow 10 k * i.unit, 1)
    | .negSucc k => (m * i.unit, Nat.pow 10 (k + 1))
  if i.closed then (i.value - i.below) * den ≤ num && num ≤ (i.value + i.above) * den
  else (i.value - i.below) * den < num && num < (i.value + i.above) * den

/-- The least `p` with `value / unit < 10 ^ p`, counted up from `p` at most `fuel` times. -/
def magnitudeFrom (value unit : Nat) : (fuel : Nat) → Int → Int
  | 0, p => p
  | fuel + 1, p =>
    let less : Bool := match p with
      | .ofNat k => value < unit * Nat.pow 10 k
      | .negSucc k => value * Nat.pow 10 (k + 1) < unit
    if less then p else magnitudeFrom value unit fuel (p + 1)

/-- The number of digits before the point, zero or less for a value below one. -/
def Interval.magnitude (i : Interval) : Int :=
  magnitudeFrom i.value i.unit 640 (-324)

/-- The multiple of `10 ^ e` just below the value and twice the rest, in units of `10 ^ e`. -/
def Interval.floor (i : Interval) (e : Int) : Nat × Ordering :=
  let (num, den) := match e with
    | .ofNat k => (i.value, i.unit * Nat.pow 10 k)
    | .negSucc k => (i.value * Nat.pow 10 (k + 1), i.unit)
  (num / den, compare (2 * (num % den)) den)

/-- The nearer of the two neighbours of the value on the grid of `10 ^ e`, among those that lie
in the interval. -/
def Interval.neighbour? (i : Interval) (e : Int) : Option Nat :=
  let (m, rest) := i.floor e
  match i.holds m e, i.holds (m + 1) e with
  | true, true => some <|
    match rest with
    | .lt => m
    | .gt => m + 1
    | .eq => if m % 2 = 0 then m else m + 1
  | true, false => some m
  | false, true => some (m + 1)
  | false, false => none

/-- Tries the grids of `count`, `count + 1`, … digits. -/
def Interval.search (i : Interval) (top : Int) : (fuel count : Nat) → Nat × Int
  | 0, count => (i.floor (top - count) |>.1, top - count)
  | fuel + 1, count =>
    match i.neighbour? (top - count) with
    | some m => (m, top - count)
    | none => i.search top fuel (count + 1)

/-- Removes trailing zeros. -/
def normalize : (fuel : Nat) → Nat × Int → Nat × Int
  | 0, d => d
  | fuel + 1, (m, e) => if m ≠ 0 ∧ m % 10 = 0 then normalize fuel (m / 10, e + 1) else (m, e)

/-- The shortest `m · 10 ^ e` for the magnitude of a double. -/
def Binary.shortest (b : Binary) : Nat × Int :=
  if b.significand = 0 then (0, 0)
  else
    let i := b.interval
    normalize 17 (i.search i.magnitude 17 1)

/-! ### The written form -/

/-- How doubles are written: positional from `10 ^ least` up to `10 ^ most`, otherwise with a
signed exponent. -/
structure Style where
  least : Int
  most : Int

/-- JSON numbers turn to exponents at `1e+16` and below `1e-5`. -/
def jsonStyle : Style := ⟨-5, 16⟩

def exponentText (e : Int) : List Char :=
  'e' :: (if e < 0 then '-' else '+') :: digits e.natAbs

/-- Writes `m · 10 ^ e`, always with a point or an exponent. -/
def Style.write (style : Style) (m : Nat) (e : Int) : List Char :=
  let ds := digits m
  let point := (ds.length : Int) + e
  if m = 0 then ['0', '.', '0']
  else if 0 ≤ e ∧ point ≤ style.most then ds ++ List.replicate e.toNat '0' ++ ['.', '0']
  else if 0 < point ∧ point ≤ style.most then ds.take point.toNat ++ '.' :: ds.drop point.toNat
  else if style.least < point ∧ point ≤ 0 then
    '0' :: '.' :: List.replicate (-point).toNat '0' ++ ds
  else
    let tail := match ds with
      | [] => []
      | [d] => [d]
      | d :: rest => d :: '.' :: rest
    tail ++ exponentText (point - 1)

/-- The text of a finite double. -/
def Style.text? (style : Style) (x : Float) : Option String :=
  (Binary.ofFloat? x).map fun b =>
    let (m, e) := b.shortest
    String.ofList ((if b.negative then ['-'] else []) ++ style.write m e)

end RunWatch.Decimal
