import RunWatch.Http.Host
import RunWatch.Text.Base64

/-!
# Addresses

The parts of a web address that a request needs: the scheme, the host, the port, who asks, and the
target as it is sent. Parts of a path that are a dot vanish, parts that are two dots take the part
before them away, and every byte that a target must not hold is percent-encoded.
-/

namespace RunWatch.Http

/-- Who asks, as far as the address says it. -/
structure Credentials where
  user : String
  password : Option String := none
  deriving DecidableEq, Repr

/-- The credentials as a header carries them. -/
def Credentials.basic (c : Credentials) : String :=
  let bytes := Text.Utf8.encode (c.user ++ ":" ++ c.password.getD "")
  "Basic " ++ String.ofList (Text.Base64.encode bytes)

structure Address where
  secure : Bool
  host : Host
  port : Nat
  credentials : Option Credentials := none
  target : String
  deriving DecidableEq, Repr

namespace Address

/-! ### Paths -/

def isSlash (c : Char) : Bool :=
  c == '/' || c == '\\'

/-- The pieces between slashes of either kind. -/
def pieces : List Char → List (List Char)
  | [] => [[]]
  | c :: cs =>
    if isSlash c then [] :: pieces cs
    else match pieces cs with
      | [] => [[c]]
      | piece :: rest => (c :: piece) :: rest

/-- The spellings of a dot. -/
def dots : List String := [".", "%2e"]

def isDot (piece : List Char) : Bool :=
  dots.contains (Text.lowerAscii (String.ofList piece))

def isTwoDots (piece : List Char) : Bool :=
  (dots.flatMap fun a => dots.map (a ++ ·)).contains (Text.lowerAscii (String.ofList piece))

/-- The name of a drive, which two dots do not take away. -/
def isDrive : List Char → Bool
  | [letter, mark] => letter.isAlpha && (mark == ':' || mark == '|')
  | _ => false

/-- Takes the last piece away, where the pieces are given in reverse. -/
def up : List (List Char) → List (List Char)
  | [] => []
  | piece :: done => if isDrive piece then piece :: done else done

/-- Resolves the dots of a path, whose pieces so far are given in reverse. A dot at the end leaves
an empty piece. -/
def resolve (done : List (List Char)) : List (List Char) → List (List Char)
  | [] => done.reverse
  | [piece] =>
    if isTwoDots piece then ([] :: up done).reverse
    else if isDot piece then ([] :: done).reverse
    else (Percent.escape Percent.pathReserved piece :: done).reverse
  | piece :: rest =>
    if isTwoDots piece then resolve (up done) rest
    else if isDot piece then resolve done rest
    else resolve (Percent.escape Percent.pathReserved piece :: done) rest

/-- The path as it is sent. -/
def path (cs : List Char) : List Char :=
  let cs := match cs with
    | [] => []
    | c :: rest => if isSlash c then rest else c :: rest
  '/' :: ['/'].intercalate (resolve [] (pieces cs))

/-- The target of what follows the host: path and query, without the fragment. -/
def targetOf (cs : List Char) : List Char :=
  let cs := cs.takeWhile (· ≠ '#')
  match cs.dropWhile (· ≠ '?') with
  | [] => path cs
  | _ :: query => path (cs.takeWhile (· ≠ '?')) ++ '?' :: Percent.escape Percent.queryReserved query

/-! ### Authorities -/

/-- Characters of an authority besides letters and digits. -/
def authorityMarks : List Char := "!$&'()*+,-.:;=@[]_~".toList

def isAuthorityChar (c : Char) : Bool :=
  c.isAlphanum || authorityMarks.contains c

/-- Splits an authority behind its last at sign. -/
def splitUser (cs : List Char) : List Char × List Char :=
  let host := (cs.reverse.takeWhile (· ≠ '@')).reverse
  (cs.take (cs.length - host.length - 1), host)

/-- The credentials in front of an at sign. A user that is no text hides all. -/
def credentials? (cs : List Char) : Option Credentials := do
  let user ← Percent.decodeText? (cs.takeWhile (· ≠ ':'))
  let password := match cs.dropWhile (· ≠ ':') with
    | [] | [_] => none
    | _ :: password => Percent.decodeText? password
  if user = "" ∧ password = none then none else some { user, password }

/-- Splits a port off behind the first colon outside of brackets. -/
def splitPort (bracketed : Bool) : List Char → List Char × Option (List Char)
  | [] => ([], none)
  | c :: cs =>
    if c = ':' ∧ bracketed = false then ([], some cs)
    else
      let (host, port) := splitPort (c = '[' || (c ≠ ']' && bracketed)) cs
      (c :: host, port)

/-- The number of a port, the default one if it is left out. -/
def port? (default : Nat) : Option (List Char) → Option Nat
  | none | some [] => some default
  | some digits =>
    if digits.all Char.isDigit then (Decimal.natBelow Decimal.limit16 digits).toOption else none

/-! ### Addresses -/

def defaultPort (secure : Bool) : Nat :=
  if secure then 443 else 80

/-- The host and the port, which is named unless it is the default one. -/
def hostText (a : Address) : String :=
  if a.port = defaultPort a.secure then a.host.text else a.host.text ++ ":" ++ toString a.port

/-- The address without credentials. -/
def text (a : Address) : String :=
  (if a.secure then "https://" else "http://") ++ a.hostText ++ a.target

/-- An address is at most this long. -/
def longest : Nat := 65534

def ofChars? (cs : List Char) : Option Address := do
  let cs := Text.trimBy (fun c => c.toNat ≤ 0x20) cs
  let cs := cs.filter fun c => !(['\t', '\n', '\r'].contains c)
  let scheme := Text.lowerAscii (String.ofList (cs.takeWhile (· ≠ ':')))
  let secure ← if scheme = "http" then some false else if scheme = "https" then some true else none
  let rest ← match cs.dropWhile (· ≠ ':') with
    | [] => none
    | _ :: rest => some (rest.dropWhile isSlash)
  let isEnd (c : Char) := isSlash c || c == '?' || c == '#'
  let (user, host) := splitUser (rest.takeWhile fun c => !isEnd c)
  let (host, port) := splitPort false host
  let tail := rest.dropWhile fun c => !isEnd c
  let address : Address :=
    { secure
      host := ← if host = [] then none else Host.ofChars? host
      port := ← port? (defaultPort secure) port
      credentials := credentials? user
      target := String.ofList (targetOf tail) }
  let fragment := Percent.escape Percent.fragmentReserved (tail.dropWhile (· ≠ '#'))
  if address.host.text.toList.all isAuthorityChar ∧
      address.text.length + fragment.length ≤ longest then
    some address
  else none

def ofString? (url : String) : Option Address :=
  ofChars? url.toList

end Address

end RunWatch.Http
