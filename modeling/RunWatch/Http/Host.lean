import RunWatch.Decimal.Numeral
import RunWatch.Http.Percent
import RunWatch.Text.AsciiSpelling
import RunWatch.Text.Blank

/-!
# Hosts

The host of a web address: a name, or a numeric address of 32 or 128 bits. A host whose last part
is a number is a numeric address or none at all.
-/

namespace RunWatch.Http

inductive Host where
  | name (text : String)
  | v4 (bits : BitVec 32)
  | v6 (bits : BitVec 128)
  deriving DecidableEq, Repr

namespace Host

/-! ### Addresses of 32 bits -/

/-- The number that digits spell in a base. -/
def numberIn? (base : Nat) (cs : List Char) : Option Nat :=
  cs.foldlM (fun n c => ((Text.hexValue? c).filter (· < base)).map (n * base + ·)) 0

/-- A number: in base 16 behind `0x`, in base 8 behind another zero, else in base 10. -/
def number? : List Char → Option Nat
  | [] => none
  | '0' :: c :: cs => if c = 'x' ∨ c = 'X' then numberIn? 16 cs else numberIn? 8 (c :: cs)
  | cs => numberIn? 10 cs

/-- The last of the parts, an empty one at the very end left aside. -/
def lastPart? (parts : List (List Char)) : Option (List Char) :=
  match parts.reverse with
  | [] :: rest => rest.head?
  | last => last.head?

/-- The last part is a number, or looks like one. -/
def endsInNumber (parts : List (List Char)) : Bool :=
  (lastPart? parts).any fun last =>
    (last ≠ [] && last.all Char.isDigit) || (number? last).isSome

/-- The address that numbers give: the last one fills what the others, a byte each, leave. -/
def joined? (numbers : List Nat) : Option (BitVec 32) :=
  match numbers.reverse with
  | [] => none
  | last :: front =>
    if front.length ≤ 3 ∧ front.all (· < 256) ∧ last < Nat.pow 256 (4 - front.length) then
      let high := front.reverse.foldl (fun n byte => n * 256 + byte) 0
      some (BitVec.ofNat 32 (high * Nat.pow 256 (4 - front.length) + last))
    else none

/-- Reads an address whose parts lie between dots. -/
def v4? (parts : List (List Char)) : Option (BitVec 32) := do
  let parts := if parts.getLast? = some [] then parts.dropLast else parts
  joined? (← parts.mapM number?)

/-- A byte in plain decimal digits. -/
def plainByte? (cs : List Char) : Option Nat :=
  if cs ≠ [] ∧ cs.all Char.isDigit ∧ cs.length ≤ 3 ∧ (cs.length = 1 ∨ cs.head? ≠ some '0') then
    (numberIn? 10 cs).filter (· < 256)
  else none

/-- Reads an address in its plain form, four bytes with dots between them. -/
def plainV4? (cs : List Char) : Option (BitVec 32) := do
  let bytes ← (Text.splitAtChar '.' cs).mapM plainByte?
  if bytes.length = 4 then joined? bytes else none

def v4Text (bits : BitVec 32) : String :=
  ".".intercalate ([24, 16, 8, 0].map fun k => toString ((bits >>> k).toNat % 256))

/-! ### Addresses of 128 bits -/

/-- A piece of 16 bits. -/
def piece? (cs : List Char) : Option Nat :=
  if cs ≠ [] ∧ cs.length ≤ 4 then Text.hexNumber? cs else none

/-- Reads pieces with colons between them; the last two may be in the form of 32 bits. -/
def pieces? (cs : List Char) : Option (List Nat) :=
  if cs = [] then some []
  else
    let parts := Text.splitAtChar ':' cs
    match (parts.getLast?.getD []).contains '.', plainV4? (parts.getLast?.getD []) with
    | false, _ => parts.mapM piece?
    | true, none => none
    | true, some bits => do
      return (← parts.dropLast.mapM piece?) ++ [bits.toNat / 65536, bits.toNat % 65536]

/-- What is before and behind the first two colons in a row. -/
def splitGap : List Char → List Char × Option (List Char)
  | ':' :: ':' :: cs => ([], some cs)
  | c :: cs =>
    let (front, back) := splitGap cs
    (c :: front, back)
  | [] => ([], none)

def ofPieces (pieces : List Nat) : BitVec 128 :=
  BitVec.ofNat 128 (pieces.foldl (fun n piece => n * 65536 + piece) 0)

/-- Reads eight pieces, of which two colons in a row stand for some that are zero. -/
def v6? (cs : List Char) : Option (BitVec 128) :=
  match splitGap cs with
  | (_, none) => do
    let pieces ← pieces? cs
    if pieces.length = 8 then some (ofPieces pieces) else none
  | (front, some back) => do
    if front.contains '.' then none
    let front ← pieces? front
    let back ← pieces? back
    let gap := 8 - (front.length + back.length)
    if gap = 0 then none
    else some (ofPieces (front ++ List.replicate gap 0 ++ back))

def pieces (bits : BitVec 128) : List Nat :=
  (List.range 8).map fun i => (bits >>> (112 - 16 * i)).toNat % 65536

/-- The length of the run of zeros that begins at each piece. -/
def zeroRuns : List Nat → List Nat
  | [] => []
  | piece :: rest =>
    let runs := zeroRuns rest
    (if piece = 0 then runs.headD 0 + 1 else 0) :: runs

def piecesText (pieces : List Nat) : String :=
  ":".intercalate (pieces.map fun n => String.ofList (Nat.toDigits 16 n))

/-- The text of an address: the first of the longest runs of zeros, if it is longer than one, is
left out. -/
def v6Text (bits : BitVec 128) : String :=
  let ps := pieces bits
  let runs := zeroRuns ps
  let longest := runs.max?.getD 0
  if longest < 2 then piecesText ps
  else
    let start := (runs.idxOf? longest).getD 0
    piecesText (ps.take start) ++ "::" ++ piecesText (ps.drop (start + longest))

/-! ### Hosts -/

/-- Characters that no name holds. -/
def isForbidden (c : Char) : Bool :=
  c.toNat ≤ 0x20 || c.toNat == 0x7F || "#%/:<>?@[\\]^|".contains c

/-- Reads a host that is in no brackets. Names have to have a spelling in ASCII. -/
def ofText? (text : String) : Option Host := do
  let cs := (← text.toList.mapM Text.asciiSpelling?).flatten
  if cs = [] ∨ cs.any isForbidden then none
  else
    let parts := Text.splitAtChar '.' cs
    if endsInNumber parts then (v4? parts).map .v4 else some (.name (String.ofList cs))

def ofChars? (cs : List Char) : Option Host :=
  match cs with
  | '[' :: rest => if rest.getLast? = some ']' then (v6? rest.dropLast).map .v6 else none
  | _ => (Percent.decodeText? cs).bind ofText?

def text : Host → String
  | name s => s
  | v4 bits => v4Text bits
  | v6 bits => "[" ++ v6Text bits ++ "]"

/-- The host as it is looked up, without brackets. -/
def lookupText : Host → String
  | v6 bits => v6Text bits
  | host => host.text

end Host

end RunWatch.Http
