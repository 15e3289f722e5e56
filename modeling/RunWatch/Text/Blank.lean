/-!
# Blank text

White space as a class of characters, trimming by a class, and the ASCII lower case.
`blank_iff_trim` says which texts trimming leaves nothing of.
-/

namespace RunWatch.Text

/-- The characters with the property White_Space. -/
def isBlank (c : Char) : Bool :=
  let n := c.toNat
  (0x09 ≤ n && n ≤ 0x0D) || n == 0x20 || n == 0x85 || n == 0xA0 || n == 0x1680 ||
    (0x2000 ≤ n && n ≤ 0x200A) || n == 0x2028 || n == 0x2029 || n == 0x202F || n == 0x205F ||
    n == 0x3000

/-- Drops the characters of a class from the end. -/
def trimEndBy (p : Char → Bool) (cs : List Char) : List Char :=
  (cs.reverse.dropWhile p).reverse

/-- Drops the characters of a class from both ends. -/
def trimBy (p : Char → Bool) (cs : List Char) : List Char :=
  trimEndBy p (cs.dropWhile p)

/-- The text without white space at its ends. -/
def trim (s : String) : String :=
  String.ofList (trimBy isBlank s.toList)

/-- Nothing is left of the text once it is trimmed. -/
def blank (s : String) : Bool :=
  s.toList.all isBlank

/-- The text without slashes at its ends. -/
def trimSlashes (s : String) : String :=
  String.ofList (trimBy (· == '/') s.toList)

/-- The text without slashes at its end. -/
def trimEndSlashes (s : String) : String :=
  String.ofList (trimEndBy (· == '/') s.toList)

/-- A to Z become a to z; every other character stays. -/
def lowerAscii (s : String) : String :=
  String.ofList (s.toList.map Char.toLower)

/-- The rest of `cs` after the characters of `start`, if it begins with them. -/
def after? : (start cs : List Char) → Option (List Char)
  | [], cs => some cs
  | _ :: _, [] => none
  | s :: start, c :: cs => if s = c then after? start cs else none

/-- The pieces between the occurrences of a character, empty ones included. -/
def splitAtChar (sep : Char) : List Char → List (List Char)
  | [] => [[]]
  | c :: cs =>
    if c = sep then [] :: splitAtChar sep cs
    else match splitAtChar sep cs with
      | [] => [[c]]
      | piece :: rest => (c :: piece) :: rest

/-- The characters occur in a row somewhere in the text. -/
def occursIn (needle : List Char) : List Char → Bool
  | [] => needle.isEmpty
  | c :: cs => needle.isPrefixOf (c :: cs) || occursIn needle cs

/-! ### What trimming leaves -/

theorem dropWhile_eq_nil_iff {p : Char → Bool} {cs : List Char} :
    cs.dropWhile p = [] ↔ ∀ c ∈ cs, p c = true := by
  induction cs with
  | nil => simp
  | cons c cs ih => by_cases h : p c = true <;> simp [h, ih]

theorem trimEndBy_eq_nil_iff {p : Char → Bool} {cs : List Char} :
    trimEndBy p cs = [] ↔ ∀ c ∈ cs, p c = true := by
  rw [trimEndBy, List.reverse_eq_nil_iff, dropWhile_eq_nil_iff]
  simp only [List.mem_reverse]

theorem trimBy_eq_nil_iff {p : Char → Bool} {cs : List Char} :
    trimBy p cs = [] ↔ ∀ c ∈ cs, p c = true := by
  rw [trimBy, trimEndBy_eq_nil_iff]
  induction cs with
  | nil => simp
  | cons c cs ih => by_cases h : p c = true <;> simp [h, ih]

theorem blank_iff_trim (s : String) : blank s = true ↔ trim s = "" := by
  rw [trim, blank, List.all_eq_true, ← trimBy_eq_nil_iff]
  constructor
  · intro h; rw [h]
  · intro h
    simpa using congrArg String.toList h

end RunWatch.Text
