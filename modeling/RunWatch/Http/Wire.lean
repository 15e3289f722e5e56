import RunWatch.Http.Exchange
import RunWatch.Http.Proxy

/-!
# Requests and responses as bytes

The written form of a request, and the reading of a response byte by byte. A body is as long as it
was announced, comes in chunks, or goes on until the connection ends.
-/

namespace RunWatch.Http.Wire

/-! ### Requests -/

def crlf : String := "\r\n"

/-- The header lines of a request. -/
def headerLines (route : Route) (a : Address) (r : Request) (bodyLength : Nat) : List String :=
  ["host: " ++ a.hostText, "accept: " ++ r.accept, "connection: close"] ++
    (r.authorizations a).map ("authorization: " ++ ·) ++
    (route.proxyAuthorization.map ("proxy-authorization: " ++ ·)).toList ++
    (r.contentType?.map ("content-type: " ++ ·)).toList ++
    (if r.method = .post then ["content-length: " ++ toString bodyLength] else [])

/-- The bytes of a request to an address, on its way. -/
def requestBytes (route : Route) (a : Address) (r : Request) : List UInt8 :=
  let body := (r.body.map fun v => Text.Utf8.encode v.compact).getD []
  let start := r.method.text ++ " " ++ route.target ++ " HTTP/1.1"
  let head := crlf.intercalate (start :: headerLines route a r body.length ++ ["", ""])
  Text.Utf8.encode head ++ body

/-! ### Responses -/

/-- The bytes of a response. One that is not complete announces more than there is. -/
def responseBytes (r : Response) : List UInt8 :=
  let length := if r.complete then r.body.length else r.body.length + 1
  let lines :=
    ["HTTP/1.1 " ++ toString r.status ++ " -", "content-length: " ++ toString length,
      "connection: close"] ++ (r.contentType.map ("content-type: " ++ ·)).toList ++ ["", ""]
  Text.Utf8.encode (crlf.intercalate lines) ++ r.body

/-! ### Heads -/

structure Head where
  status : Nat
  /-- Headers by their names in lower case. -/
  headers : List (String × String)
  deriving DecidableEq, Repr

namespace Head

/-- A character of a header's name. -/
def isNameChar (c : Char) : Bool :=
  c.isAlphanum || "!#$%&'*+-.^_\x60|~".contains c

/-- A character of a header's value. -/
def isValueChar (c : Char) : Bool :=
  c == '\t' || (0x20 ≤ c.toNat && c.toNat ≠ 0x7F)

def isPadding (c : Char) : Bool :=
  c == ' ' || c == '\t'

/-- Reads a header line. -/
def header? (cs : List Char) : Option (String × String) :=
  let name := cs.takeWhile isNameChar
  match cs.dropWhile isNameChar with
  | ':' :: v =>
    if name ≠ [] ∧ v.all isValueChar then
      some (Text.lowerAscii (String.ofList name), String.ofList (Text.trimBy isPadding v))
    else none
  | _ => none

/-- The status in the first line. -/
def status? (cs : List Char) : Option Nat := do
  let rest ← Text.after? "HTTP/1.1 ".toList cs <|> Text.after? "HTTP/1.0 ".toList cs
  let status ← (Decimal.natBelow 1000 (rest.take 3)).toOption
  let phrase := rest.drop 3
  if (rest.take 3).all Char.isDigit ∧ 100 ≤ status ∧ phrase.head?.all (· = ' ') ∧
      phrase.all isValueChar then
    some status
  else none

/-- Reads the lines of a head. -/
def ofLines? : List (List Char) → Option Head
  | [] => none
  | first :: rest => do
    return { status := ← status? first, headers := ← rest.mapM header? }

/-- All values of a header, in order. -/
def values (h : Head) (name : String) : List String :=
  (h.headers.filter (·.1 == name)).map Prod.snd

/-- Whether the body comes in chunks; none if nothing is said about how it is transferred. -/
def chunked? (h : Head) : Option Bool :=
  (h.values "transfer-encoding").getLast?.map fun v =>
    let last := (Text.splitAtChar ',' v.toList).getLast?.getD []
    Text.lowerAscii (Text.trim (String.ofList last)) == "chunked"

/-- What is said about the length of the body. -/
inductive Announced where
  | nothing
  | length (n : Nat)
  /-- Nonsense, or two different lengths. -/
  | garbled
  deriving DecidableEq, Repr

/-- The number that an announcement of a length gives. -/
def lengthOf? (cs : List Char) : Option Nat :=
  let digits := Text.trimBy isPadding cs
  if digits.all Char.isDigit then (Decimal.natBelow Decimal.limit64 digits).toOption else none

def announced (h : Head) : Announced :=
  let pieces := (h.values "content-length").flatMap fun v => Text.splitAtChar ',' v.toList
  match pieces.map lengthOf? with
  | [] => .nothing
  | some n :: rest => if rest.all (· == some n) then .length n else .garbled
  | none :: _ => .garbled

def contentType? (h : Head) : Option String :=
  h.headers.lookup "content-type"

end Head

/-! ### Bodies -/

/-- Where a receiver stands. -/
inductive Stage where
  /-- In the head: the lines so far in reverse, and the present line in reverse. -/
  | head (lines : List (List Char)) (line : List UInt8)
  /-- In a body of a known length. -/
  | counted (left : Nat)
  /-- In a body that the connection ends. -/
  | open
  /-- In the size of a chunk. -/
  | size (line : List UInt8)
  | chunk (left : Nat)
  /-- In the line ending behind a chunk. -/
  | chunkEnd (line : List UInt8)
  /-- In the lines behind the last chunk. -/
  | trailer (line : List UInt8)
  | done
  /-- What arrives is no response. -/
  | broken
  deriving DecidableEq, Repr

structure Receiver where
  stage : Stage := .head [] []
  head : Option Head := none
  deriving DecidableEq, Repr

namespace Receiver

/-- The text of a line that was gathered in reverse, without its carriage return. -/
def lineText (line : List UInt8) : List Char :=
  let cs := Text.Utf8.decode line.reverse
  if cs.getLast? = some '\r' then cs.dropLast else cs

/-- The statuses whose responses have no body. -/
def isBodiless (status : Nat) : Bool :=
  status == 101 || status == 204 || status == 304

/-- A response that another one follows. -/
def isInterim (status : Nat) : Bool :=
  status < 200 && status != 101

/-- The stage behind a head. -/
def bodyStage (h : Head) : Stage :=
  if isBodiless h.status then .done
  else match h.chunked?, h.announced with
    | some true, _ => .size []
    | some false, _ => .open
    | none, .nothing => .open
    | none, .length 0 => .done
    | none, .length n => .counted n
    | none, .garbled => .broken

/-- An empty line ends the head; the head of an interim response is dropped. -/
def endHead (r : Receiver) (lines : List (List Char)) : Receiver :=
  match Head.ofLines? lines.reverse with
  | none => { r with stage := .broken }
  | some h =>
    if isInterim h.status then { r with stage := .head [] [] }
    else if bodyStage h = .broken then { r with stage := .broken }
    else { stage := bodyStage h, head := some h }

/-- The text of a line in a chunked body, which ends in a carriage return and holds no other. -/
def strictLine? : List UInt8 → Option (List Char)
  | 13 :: line => if line.contains 13 then none else some (Text.Utf8.decode line.reverse)
  | _ => none

/-- The size that a chunk's first line gives; a semicolon may follow it, and anything behind. -/
def chunkSize? (line : List Char) : Option Nat :=
  let isDigit (c : Char) := (Text.hexValue? c).isSome
  let rest := (line.dropWhile isDigit).dropWhile Head.isPadding
  if line.head?.any isDigit ∧ rest.head?.all (· = ';') then
    (Text.hexNumber? (line.takeWhile isDigit)).filter (· < Decimal.limit64)
  else none

/-- One byte, and the byte of the body that it is, if it is one. -/
def step (r : Receiver) (b : UInt8) : Receiver × Option UInt8 :=
  match r.stage with
  | .head lines line =>
    if b ≠ 10 then ({ r with stage := .head lines (b :: line) }, none)
    else match lineText line with
      | [] => (r.endHead lines, none)
      | text => ({ r with stage := .head (text :: lines) [] }, none)
  | .counted left =>
    ({ r with stage := if left ≤ 1 then .done else .counted (left - 1) }, some b)
  | .open => (r, some b)
  | .size line =>
    if b ≠ 10 then ({ r with stage := .size (b :: line) }, none)
    else match (strictLine? line).bind chunkSize? with
      | none => ({ r with stage := .broken }, none)
      | some 0 => ({ r with stage := .trailer [] }, none)
      | some n => ({ r with stage := .chunk n }, none)
  | .chunk left =>
    ({ r with stage := if left ≤ 1 then .chunkEnd [] else .chunk (left - 1) }, some b)
  | .chunkEnd line =>
    if b ≠ 10 then ({ r with stage := .chunkEnd (b :: line) }, none)
    else ({ r with stage := if line = [13] then .size [] else .broken }, none)
  | .trailer line =>
    if b ≠ 10 then ({ r with stage := .trailer (b :: line) }, none)
    else match strictLine? line with
      | some [] => ({ r with stage := .done }, none)
      | some text =>
        ({ r with stage := if (Head.header? text).isSome then .trailer [] else .broken }, none)
      | none => ({ r with stage := .broken }, none)
  | .done | .broken => (r, none)

/-- One byte after others, whose part of the body is given in reverse. -/
def absorb (acc : Receiver × List UInt8) (b : UInt8) : Receiver × List UInt8 :=
  ((acc.1.step b).1, (acc.1.step b).2.toList ++ acc.2)

/-- A portion of bytes, and its part of the body. -/
def feed (r : Receiver) (bytes : List UInt8) : Receiver × List UInt8 :=
  let (r, out) := bytes.foldl absorb (r, [])
  (r, out.reverse)

/-- The response is over as announced when the connection ends here. -/
def endsWell (r : Receiver) : Bool :=
  r.stage = .done || r.stage = .open

/-- Nothing more is to come. -/
def isOver (r : Receiver) : Bool :=
  r.stage = .done || r.stage = .broken

/-- The response with a body, if its head has arrived. -/
def response? (r : Receiver) (body : List UInt8) : Option Response :=
  r.head.map fun h =>
    { status := h.status, contentType := h.contentType?, body, complete := r.endsWell }

end Receiver

end RunWatch.Http.Wire
