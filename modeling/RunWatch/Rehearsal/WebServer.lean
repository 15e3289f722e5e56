import RunWatch.Http.Wire

/-!
# Scripted web servers

A web server for rehearsals. It answers each request that reaches it by the next response of its
script, byte by byte, and notes what it has received.
-/

namespace RunWatch.Rehearsal

open Http

/-- A request as it reaches the server. -/
structure Received where
  method : Method
  target : String
  authorization : Option String
  accept : String
  contentType : Option String
  /-- The JSON value that the body gives. -/
  body : Option Json.Value
  deriving DecidableEq

structure WebServer where
  responses : List Response := []
  /-- Somebody listens at the address. -/
  listening : Bool := true
  received : List Received := []

namespace WebServer

/-- Where the server is. -/
def home : Host := .v4 0x7F000001#32

def homePort : Nat := 18080

/-- The address of the server. -/
def url : String :=
  "http://" ++ home.text ++ ":" ++ toString homePort

/-- The response when the script is over. -/
def unscripted : Response :=
  { status := 500, body := Text.Utf8.encode "unscripted" }

/-- A request as it arrives: what surrounds a header's value is gone, of several headers of a name
the first one counts, and the body has been read. -/
def arrive (route : Route) (a : Address) (r : Request) : Received where
  method := r.method
  target := route.target
  authorization := (r.authorizations a).head?.map Text.trim
  accept := r.accept
  contentType := r.contentType?
  body := r.body.bind fun v => Json.Value.ofString? v.compact

/-- A response as it is read. -/
def sent (r : Response) : Reply :=
  let (receiver, body) := ({} : Wire.Receiver).feed (Wire.responseBytes r)
  match receiver.response? body with
  | some response => .ok response
  | none => .error "what came back is no response"

/-- The hosts that lead to the server. -/
def hosts : List Host := [home, .name "localhost"]

/-- The server takes connections to this place. -/
def isAt (s : WebServer) (route : Route) : Bool :=
  s.listening && route.plain && hosts.contains route.host && route.port == homePort

/-- One request and its reply. -/
def exchange (proxies : Proxies) (s : WebServer) (r : Request) : WebServer × Reply :=
  match r.address? with
  | none => (s, .error "the request cannot be sent")
  | some a =>
    let route := proxies.route a
    if !s.isAt route then (s, .error "nobody listens")
    else
      let s := { s with received := s.received ++ [arrive route a r] }
      match s.responses with
      | [] => (s, sent unscripted)
      | response :: rest => ({ s with responses := rest }, sent response)

end WebServer

end RunWatch.Rehearsal
