/-!
# Similar words

How much two words have in common, as a fraction: characters match when they are equal and not too
far from each other, and matches in another order count half.
-/

namespace RunWatch.Text.Similar

/-- How far apart matching characters may be. -/
def reach (a b : List Char) : Nat :=
  max a.length b.length / 2 - 1

/-- The first free position between two bounds that holds a character. -/
def find? (b : List Char) (taken : List Nat) (c : Char) (low high : Nat) : Option Nat :=
  (List.range (min high b.length)).find? fun j =>
    low ≤ j && b[j]? == some c && !taken.contains j

/-- The matches of a word's characters, from a position on: each with the position that it takes in
the other word. -/
def matchesFrom (b : List Char) (reach : Nat) (taken : List Nat) (i : Nat) :
    List Char → List (Char × Nat)
  | [] => []
  | c :: cs =>
    match find? b taken c (i - reach) (i + reach + 1) with
    | some j => (c, j) :: matchesFrom b reach (j :: taken) (i + 1) cs
    | none => matchesFrom b reach taken (i + 1) cs

/-- The matching characters of two words, each in the order of its word. -/
def common (a b : List Char) : List Char × List Char :=
  let found := matchesFrom b (reach a b) [] 0 a
  let places := found.map Prod.snd
  (found.map Prod.fst,
    (b.zipIdx.filter fun (_, j) => places.contains j).map Prod.fst)

/-- Half the number of places at which two lists differ. -/
def transposed (xs ys : List Char) : Nat :=
  ((xs.zip ys).countP fun (x, y) => x ≠ y) / 2

/-- The words have more than seven tenths in common: of both words, the matching part; of the
matches, the part that is in order; on average. -/
def areSimilar (v w : String) : Bool :=
  let a := v.toList
  let b := w.toList
  let (xs, ys) := common a b
  let m := xs.length
  if a = [] ∧ b = [] then true
  else
    21 * a.length * b.length * m <
      10 * (m * m * b.length + m * m * a.length + (m - transposed xs ys) * a.length * b.length)

end RunWatch.Text.Similar
