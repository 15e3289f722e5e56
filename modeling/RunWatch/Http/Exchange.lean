import RunWatch.Http.Address
import RunWatch.Http.ErrorBody
import RunWatch.Json.Printer
import RunWatch.Settings.Config

/-!
# Exchanges

Requests, and what comes back for them.
-/

namespace RunWatch.Http

inductive Method where
  | get
  | post
  deriving DecidableEq, Repr

def Method.text : Method → String
  | .get => "GET"
  | .post => "POST"

structure Request where
  method : Method
  url : String
  bearer : Option String := none
  accept : String := "*/*"
  /-- The JSON body. -/
  body : Option Json.Value := none
  deriving DecidableEq

/-- What the server sends back. -/
structure Response where
  status : Nat
  contentType : Option String := none
  body : List UInt8 := []
  /-- The body has arrived as long as it was announced. -/
  complete : Bool := true
  deriving DecidableEq, Repr

/-- A response, or the reason why there is none. -/
abbrev Reply := Except String Response

/-- A request that carries the token of a configuration. -/
def request (c : Config) (method : Method) (url : String) : Request :=
  { method, url, bearer := c.bearerToken }

namespace Request

/-- A value that a header may carry. -/
def isHeaderText (s : String) : Bool :=
  s.toList.all fun c => c == '\t' || (0x20 ≤ c.toNat && c.toNat ≠ 0x7F)

/-- Where to send the request; none if it cannot be sent. -/
def address? (r : Request) : Option Address :=
  if r.bearer.all isHeaderText then Address.ofString? r.url else none

/-- What the request tells about who asks: what its address says comes first. -/
def authorizations (r : Request) (a : Address) : List String :=
  (a.credentials.map Credentials.basic).toList ++ (r.bearer.map ("Bearer " ++ ·)).toList

def contentType? (r : Request) : Option String :=
  r.body.map fun _ => "application/json"

end Request

namespace Response

def isSuccess (r : Response) : Bool :=
  200 ≤ r.status && r.status < 300

/-- What is said of a body that broke off. -/
def brokenOff : String := "the body broke off"

/-- The text of the body, if all of it has arrived. -/
def text? (r : Response) : Except String String :=
  if r.complete then .ok (Text.Utf8.decodeText r.body) else .error brokenOff

/-- What a failed response says; a body that broke off says nothing. -/
def failure (r : Response) : String :=
  failureText r.status (r.text?.toOption.getD "")

end Response

end RunWatch.Http
