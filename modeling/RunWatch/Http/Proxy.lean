import RunWatch.Http.Address
import RunWatch.Settings.Environment

/-!
# Proxies

Where a request goes: to the host of its address, or to a server that passes it on, as variables of
the environment say. Some hosts may be left out of that.
-/

namespace RunWatch.Http

/-- A server that passes requests on. -/
structure Proxy where
  /-- It takes plain connections. -/
  plain : Bool := true
  host : Host
  port : Nat
  credentials : Option Credentials := none
  deriving DecidableEq, Repr

namespace Proxy

/-- A host with at most one port: at most one pair of brackets, and outside of it one colon. -/
def isHostPort (cs : List Char) : Bool :=
  let behind := (cs.dropWhile (· ≠ ']')).drop 1
  let plain := if cs.contains '[' then cs.takeWhile (· ≠ '[') ++ behind else cs
  cs.all Address.isAuthorityChar && cs.count '[' == cs.count ']' &&
    plain.all (fun c => c ≠ '[' ∧ c ≠ ']') && plain.count ':' ≤ 1

/-- A host and a port without credentials in front. A host that cannot be read is left as a name. -/
def ofHostPort (plain : Bool) (credentials : Option Credentials) (cs : List Char) : Proxy :=
  let (host, port) := Address.splitPort false cs
  { plain, credentials
    host := (Host.ofChars? host).getD (.name (String.ofList host))
    port := (port.bind fun digits => Address.port? (Address.defaultPort !plain) (some digits)).getD
      (Address.defaultPort !plain) }

/-- Reads an authority. -/
def ofAuthority? (plain : Bool) (cs : List Char) : Option Proxy :=
  match cs.dropWhile (· ≠ '@') with
  | [] => if cs ≠ [] ∧ isHostPort cs then some (ofHostPort plain none cs) else none
  | _ :: host =>
    let user := cs.takeWhile (· ≠ '@')
    let decoded (cs : List Char) := Text.Utf8.decodeText (Percent.decode cs)
    let password := match user.dropWhile (· ≠ ':') with
      | [] => none
      | _ :: password => some (decoded password)
    let credentials : Credentials := { user := decoded (user.takeWhile (· ≠ ':')), password }
    if host ≠ [] ∧ isHostPort host ∧ user.all (fun c => c = '%' ∨ Address.isAuthorityChar c) then
      some (ofHostPort plain (some credentials) host)
    else none

def isSchemeChar (c : Char) : Bool :=
  c.isAlphanum || c == '+' || c == '-' || c == '.'

/-- Splits a scheme off. -/
def splitScheme (cs : List Char) : Option String × List Char :=
  match cs.dropWhile isSchemeChar with
  | ':' :: '/' :: '/' :: rest =>
    (some (Text.lowerAscii (String.ofList (cs.takeWhile isSchemeChar))), rest)
  | _ => (none, cs)

/-- The schemes of proxies that take no plain connections. -/
def otherSchemes : List String := ["https", "socks4", "socks4a", "socks5", "socks5h"]

/-- Reads the address of a proxy, which may lack a scheme, but then has nothing behind the port. -/
def ofString? (s : String) : Option Proxy :=
  let (scheme, rest) := splitScheme s.toList
  let authority := rest.takeWhile fun c => !(['/', '?', '#'].contains c)
  match scheme with
  | none => if authority = rest then ofAuthority? true authority else none
  | some scheme =>
    if scheme = "http" then ofAuthority? true authority
    else if otherSchemes.contains scheme then ofAuthority? false authority
    else none

end Proxy

/-! ### Exceptions -/

/-- Hosts that are asked directly. -/
inductive Exception where
  /-- A domain and all that is in it, or everything. -/
  | domain (name : String)
  /-- The addresses that begin with the same bits. -/
  | network4 (bits : BitVec 32) (length : Nat)
  | network6 (bits : BitVec 128) (length : Nat)
  deriving DecidableEq, Repr

namespace Exception

/-- Reads a network: an address, or its first bits and their number. -/
def network? (cs : List Char) : Option Exception := do
  let length ← match cs.dropWhile (· ≠ '/') with
    | [] => some 128
    | _ :: digits =>
      if digits.all Char.isDigit then (Decimal.natBelow 129 digits).toOption else none
  let whole := !cs.contains '/'
  let address := cs.takeWhile (· ≠ '/')
  match Host.plainV4? address with
  | some bits => if whole ∨ length ≤ 32 then some (.network4 bits (min length 32)) else none
  | none => (Host.v6? address).map fun bits => .network6 bits length

/-- Reads one entry of a list. -/
def ofChars? (cs : List Char) : Option Exception :=
  let cs := Text.trimBy Text.isBlank cs
  if cs = [] then none else some ((network? cs).getD (.domain (String.ofList cs)))

/-- Reads a list with commas between its entries. -/
def list (s : String) : List Exception :=
  (Text.splitAtChar ',' s.toList).filterMap ofChars?

/-- A name lies in a domain, which may be written with a dot in front. -/
def isIn (name domain : List Char) : Bool :=
  name == domain || '.' :: name == domain ||
    ((if domain.head? == some '.' then domain else '.' :: domain).isSuffixOf name)

def covers (e : Exception) (h : Host) : Bool :=
  match e, h with
  | .domain d, .name n =>
    d == "*" || isIn (Text.lowerAscii n).toList (Text.lowerAscii d).toList
  | .network4 bits length, .v4 address => address >>> (32 - length) == bits >>> (32 - length)
  | .network6 bits length, .v6 address => address >>> (128 - length) == bits >>> (128 - length)
  | _, _ => false

end Exception

/-! ### Routes -/

structure Proxies where
  proxy : Option Proxy := none
  exceptions : List Exception := []
  deriving DecidableEq, Repr

/-- Where a request is sent, and what it asks for there. -/
structure Route where
  plain : Bool
  host : Host
  port : Nat
  target : String
  /-- What the proxy is told about who asks. -/
  proxyAuthorization : Option String := none
  deriving DecidableEq, Repr

namespace Proxies

/-- The variables that name the proxy, the earlier ones first. -/
def proxyVariables : List String := ["HTTP_PROXY", "http_proxy"]

/-- The variables that name the proxy where the others do not. -/
def fallbackVariables : List String := ["ALL_PROXY", "all_proxy"]

/-- The variables that name exceptions. -/
def exceptionVariables : List String := ["NO_PROXY", "no_proxy"]

/-- Whoever sets this variable runs the program for others, who must not choose the proxy. -/
def gatewayVariable : String := "REQUEST_METHOD"

def variableNames : List String :=
  gatewayVariable :: (proxyVariables ++ fallbackVariables ++ exceptionVariables)

def ofEnvironment (env : Environment) : Proxies :=
  let first (names : List String) := (names.findSome? fun name => env.lookup name).getD ""
  if (env.lookup gatewayVariable).isSome then {}
  else {
    proxy := Proxy.ofString? (first proxyVariables) <|> Proxy.ofString? (first fallbackVariables)
    exceptions := Exception.list (first exceptionVariables) }

/-- The way to an address. A proxy is asked for the whole address. -/
def route (p : Proxies) (a : Address) : Route :=
  let proxy := if a.secure || p.exceptions.any (·.covers a.host) then none else p.proxy
  match proxy with
  | none => { plain := !a.secure, host := a.host, port := a.port, target := a.target }
  | some proxy =>
    { plain := proxy.plain, host := proxy.host, port := proxy.port, target := a.text
      proxyAuthorization := proxy.credentials.map Credentials.basic }

end Proxies

end RunWatch.Http
